import DevSecOpsPlatform.ProgramInterleaving

/-!
# What a thread did

The history of a thread lists, for each statement it executed, the store the statement
found and the store it left. `Along A I Q` says of a program what its history is like when
all that is known of the store a statement finds is `A`: `I` holds at every point before the
end, `Q` holds of the history and the outcome at the end. It is proved by following the
program, and it then holds of the thread in every schedule in which the other threads see
to `A`.
-/

namespace DevSecOpsPlatform.StatementPrograms

/-- The stores before and after the statements of one thread, in order. -/
abbrev History (σ : Type) := List (σ × σ)

/-- Every statement of the history is as `T` says, given the statements before it. -/
def Follows {σ : Type} (T : History σ → σ → σ → Prop) (h : History σ) : Prop :=
  ∀ k p, h[k]? = some p → T (h.take k) p.1 p.2

section

variable {σ : Type} {T : History σ → σ → σ → Prop} {h : History σ} {s t : σ}

theorem follows_nil : Follows T [] := by
  intro k p hk
  cases hk

theorem Follows.snoc (hh : Follows T h) (hturn : T h s t) : Follows T (h ++ [(s, t)]) := by
  intro k p hk
  by_cases hlt : k < h.length
  · rw [List.getElem?_append_left hlt] at hk
    rw [List.take_append_of_le_length (Nat.le_of_lt hlt)]
    exact hh k p hk
  · rw [List.getElem?_append_right (Nat.le_of_not_lt hlt)] at hk
    obtain ⟨hzero, hp⟩ := Option.ite_none_right_eq_some.mp (List.getElem?_singleton.symm.trans hk)
    obtain rfl := Option.some.inj hp
    obtain rfl : k = h.length := by omega
    simpa using hturn

theorem Follows.last (hh : Follows T (h ++ [(s, t)])) : T h s t := by
  have hpair : (h ++ [(s, t)])[h.length]? = some (s, t) := by simp
  simpa using hh h.length (s, t) hpair

end

namespace Program

variable {σ ε α β : Type}

def Along (A : History σ → σ → Prop) (I : History σ → Prop)
    (Q : History σ → Except ε α → Prop) : History σ → Program σ ε α → Prop
  | h, ret a => Q h (.ok a)
  | h, raise e => Q h (.error e)
  | h, stmt w n => I h ∧ ∀ s, A h s → Along A I Q (h ++ [(s, w s)]) (n s)

/-- Nothing is known of the store a statement finds. -/
def anyStore : History σ → σ → Prop := fun _ _ => True

/-- The store a statement finds is, as far as `K` tells, as the thread last left it. -/
def asLeft (K : σ → σ → Prop) : History σ → σ → Prop :=
  fun h s => ∀ p, h.getLast? = some p → K p.2 s

variable {A : History σ → σ → Prop} {I : History σ → Prop} {Q : History σ → Except ε α → Prop}
  {P : History σ → Except ε β → Prop} {h : History σ}

@[simp] theorem along_ret (a : α) : (ret a : Program σ ε α).Along A I Q h ↔ Q h (.ok a) := Iff.rfl

@[simp] theorem along_raise (e : ε) :
    (raise e : Program σ ε α).Along A I Q h ↔ Q h (.error e) := Iff.rfl

theorem Along.next {p : Program σ ε α} (hp : p.Along A I Q h) (hstmt : p.isStmt = true) {s : σ}
    (hs : A h s) : (p.next s).Along A I Q (h ++ [(s, p.write s)]) := by
  cases p with
  | ret a => cases hstmt
  | raise e => cases hstmt
  | stmt w n => exact hp.2 s hs

/-- What holds at every point holds at this one. -/
theorem Along.now {p : Program σ ε α} (hp : p.Along A I Q h) (hQ : ∀ h r, Q h r → I h) : I h := by
  cases p with
  | ret a => exact hQ h _ hp
  | raise e => exact hQ h _ hp
  | stmt w n => exact hp.1

theorem Along.done {p : Program σ ε α} (hp : p.Along A I Q h) (hdone : p.isStmt = false) :
    ∃ r, Q h r := by
  cases p with
  | ret a => exact ⟨_, hp⟩
  | raise e => exact ⟨_, hp⟩
  | stmt w n => cases hdone

/-- A history only grows, so what it starts with may be assumed from there on. -/
theorem Along.of_prefix {b : History σ} {p : Program σ ε α} (hb : b <+: h)
    (hp : p.Along A (fun g => b <+: g → I g) (fun g r => b <+: g → Q g r) h) :
    p.Along A I Q h := by
  induction p generalizing h with
  | ret a => exact hp hb
  | raise e => exact hp hb
  | stmt w n ih =>
    exact ⟨hp.1 hb, fun s hs => ih s (hb.trans (List.prefix_append _ _)) (hp.2 s hs)⟩

/-- A sequence is followed by following its first part, then its rest from there. -/
theorem Along.bind {p : Program σ ε α} {f : α → Program σ ε β} (hp : p.Along A I Q h)
    (hok : ∀ h a, Q h (.ok a) → (f a).Along A I P h)
    (herror : ∀ h e, Q h (.error e) → P h (.error e)) : (p >>= f).Along A I P h := by
  induction p generalizing h with
  | ret a => exact hok h a hp
  | raise e => exact herror h e hp
  | stmt w n ih => exact ⟨hp.1, fun s hs => ih s (hp.2 s hs)⟩

theorem along_statement_bind {f : σ → Except ε (α × σ)} {g : α → Program σ ε β} (hI : I h)
    (hok : ∀ s a t, A h s → f s = .ok (a, t) → (g a).Along A I P (h ++ [(s, t)]))
    (herror : ∀ s e, A h s → f s = .error e → P (h ++ [(s, s)]) (.error e)) :
    (statement f >>= g).Along A I P h := by
  refine ⟨hI, fun s hs => ?_⟩
  cases hf : f s with
  | ok r => simpa [hf, Program.bind] using hok s r.1 r.2 hs hf
  | error e => simpa [hf, Program.bind] using herror s e hs hf

/-- A statement whose exception the program catches. -/
theorem along_attempt_bind {f : σ → Except ε (α × σ)} {g : Except ε α → Program σ ε β}
    (hI : I h) (hok : ∀ s a t, A h s → f s = .ok (a, t) → (g (.ok a)).Along A I P (h ++ [(s, t)]))
    (herror : ∀ s e, A h s → f s = .error e → (g (.error e)).Along A I P (h ++ [(s, s)])) :
    ((statement f).attempt >>= g).Along A I P h := by
  refine ⟨hI, fun s hs => ?_⟩
  cases hf : f s with
  | ok r => simpa [hf, Program.bind, attempt] using hok s r.1 r.2 hs hf
  | error e => simpa [hf, Program.bind, attempt] using herror s e hs hf

theorem along_query_bind {f : σ → α} {g : α → Program σ ε β} (hI : I h)
    (hg : ∀ s, A h s → (g (f s)).Along A I P (h ++ [(s, s)])) : (query f >>= g).Along A I P h :=
  ⟨hI, hg⟩

theorem along_ofExcept_bind {x : Except ε α} {g : α → Program σ ε β}
    (hok : ∀ a, x = .ok a → (g a).Along A I P h) (herror : ∀ e, x = .error e → P h (.error e)) :
    (ofExcept x >>= g).Along A I P h := by
  cases x with
  | ok a => exact hok a rfl
  | error e => exact herror e rfl

/-- What every statement does, every pair of a history is. -/
theorem Writes.along {R : σ → σ → Prop} {p : Program σ ε α} (hp : p.Writes R)
    (hh : Follows (fun _ => R) h) :
    p.Along anyStore (Follows fun _ => R) (fun g _ => Follows (fun _ => R) g) h := by
  induction p generalizing h with
  | ret a => exact hh
  | raise e => exact hh
  | stmt w n ih => exact ⟨hh, fun s _ => ih s (hp s).2 (hh.snoc (hp s).1)⟩

end Program

end DevSecOpsPlatform.StatementPrograms

namespace DevSecOpsPlatform.ProgramInterleaving.Pool

open GuardedRuns StatementPrograms

variable {ρ σ ε α : Type}

/-- What thread `i` does when it is its turn: one statement, or nothing. -/
def move (c : Pool ρ σ ε α) (i : ℕ) : History σ :=
  match c.threads[i]? with
  | some t => if t.rest.isStmt then [(c.store, t.rest.write c.store)] else []
  | none => []

/-- The history of thread `i` along a schedule. -/
def history (i : ℕ) : Pool ρ σ ε α → List ℕ → History σ
  | _, [] => []
  | c, k :: ks => (if k = i then c.move i else []) ++ history i (c.step k) ks

@[simp] theorem run_nil (c : Pool ρ σ ε α) : c.run [] = c := rfl

@[simp] theorem run_cons (c : Pool ρ σ ε α) (i : ℕ) (is : List ℕ) :
    c.run (i :: is) = (c.step i).run is := rfl

theorem run_append (c : Pool ρ σ ε α) (is js : List ℕ) :
    c.run (is ++ js) = (c.run is).run js := runFrom_append c is js

@[simp] theorem history_nil (i : ℕ) (c : Pool ρ σ ε α) : c.history i [] = [] := rfl

@[simp] theorem history_cons (i : ℕ) (c : Pool ρ σ ε α) (k : ℕ) (ks : List ℕ) :
    c.history i (k :: ks) = (if k = i then c.move i else []) ++ (c.step k).history i ks := rfl

theorem history_append (i : ℕ) (c : Pool ρ σ ε α) (is js : List ℕ) :
    c.history i (is ++ js) = c.history i is ++ (c.run is).history i js := by
  induction is generalizing c with
  | nil => rfl
  | cons k is ih => simp [ih, List.append_assoc]

theorem move_of_stmt {c : Pool ρ σ ε α} {i : ℕ} {t : Thread ρ σ ε α}
    (hi : c.threads[i]? = some t) (ht : t.rest.isStmt = true) :
    c.move i = [(c.store, t.rest.write c.store)] := by
  simp [move, hi, ht]

theorem step_of_stmt {c : Pool ρ σ ε α} {i : ℕ} {t : Thread ρ σ ε α}
    (hi : c.threads[i]? = some t) (ht : t.rest.isStmt = true) :
    c.step i = ⟨t.rest.write c.store, c.threads.set i (t.advance c.store)⟩ := by
  simp [step, hi, ht]

theorem step_of_not_stmt {c : Pool ρ σ ε α} {i : ℕ} {t : Thread ρ σ ε α}
    (hi : c.threads[i]? = some t) (ht : t.rest.isStmt = false) : c.step i = c := by
  simp [step, hi, ht]

theorem move_of_not_stmt {c : Pool ρ σ ε α} {i : ℕ} {t : Thread ρ σ ε α}
    (hi : c.threads[i]? = some t) (ht : t.rest.isStmt = false) : c.move i = [] := by
  simp [move, hi, ht]

/-- The other threads stay where they are. -/
theorem threads_step_of_ne (c : Pool ρ σ ε α) {i k : ℕ} (hk : k ≠ i) :
    (c.step k).threads[i]? = c.threads[i]? := by
  obtain hs | ⟨t, -, -, hs⟩ := c.step_cases k
  · rw [hs]
  · rw [hs, List.getElem?_set_ne hk]

/-- The thread that moves is left with the rest of its program. -/
theorem threads_step_self {c : Pool ρ σ ε α} {i : ℕ} {t : Thread ρ σ ε α}
    (hi : c.threads[i]? = some t) (ht : t.rest.isStmt = true) :
    (c.step i).threads[i]? = some (t.advance c.store) := by
  have hlt : i < c.threads.length := (List.getElem?_eq_some_iff.mp hi).1
  rw [step_of_stmt hi ht]
  simp [hlt]

/-- A turn is one statement, which takes the store it finds to the store of the next pool, or
nothing. -/
theorem move_cases (c : Pool ρ σ ε α) (i : ℕ) :
    (c.step i = c ∧ c.move i = []) ∨ c.move i = [(c.store, (c.step i).store)] := by
  cases hi : c.threads[i]? with
  | none => exact .inl (by simp [step, move, hi])
  | some t =>
    cases hstmt : t.rest.isStmt with
    | true => exact .inr (by rw [move_of_stmt hi hstmt, step_of_stmt hi hstmt])
    | false => exact .inl ⟨step_of_not_stmt hi hstmt, move_of_not_stmt hi hstmt⟩

/-- A thread after a step was there before, or has just moved. -/
theorem threads_step_cases {c : Pool ρ σ ε α} {i k : ℕ} {t : Thread ρ σ ε α}
    (h : (c.step i).threads[k]? = some t) :
    c.threads[k]? = some t ∨
      ∃ u, c.threads[k]? = some u ∧ u.rest.isStmt = true ∧ t = u.advance c.store := by
  by_cases hik : i = k
  · subst hik
    obtain hs | ⟨u, hi, hstmt, -⟩ := c.step_cases i
    · exact .inl (hs ▸ h)
    · rw [threads_step_self hi hstmt] at h
      exact .inr ⟨u, hi, hstmt, (Option.some.inj h).symm⟩
  · exact .inl ((c.threads_step_of_ne hik).symm.trans h)

/-- The threads keep their names. -/
theorem name_run {c : Pool ρ σ ε α} {schedule : List ℕ} {k : ℕ} {t : Thread ρ σ ε α}
    (h : (c.run schedule).threads[k]? = some t) :
    ∃ u, c.threads[k]? = some u ∧ u.name = t.name := by
  induction schedule generalizing c with
  | nil => exact ⟨t, h, rfl⟩
  | cons i schedule ih =>
    obtain ⟨v, hv, hname⟩ := ih h
    rcases threads_step_cases hv with hv | ⟨u, hu, -, rfl⟩
    · exact ⟨v, hv, hname⟩
    · exact ⟨u, hu, hname⟩

/-- It is the turn of a thread that has not ended. -/
def Moves (c : Pool ρ σ ε α) (i : ℕ) : Prop :=
  ∃ t, c.threads[i]? = some t ∧ t.rest.isStmt = true

theorem move_of_moves {c : Pool ρ σ ε α} {i : ℕ} (h : c.Moves i) :
    c.move i = [(c.store, (c.step i).store)] := by
  obtain ⟨t, hi, hstmt⟩ := h
  rw [move_of_stmt hi hstmt, step_of_stmt hi hstmt]

theorem moves_or (c : Pool ρ σ ε α) (i : ℕ) : c.Moves i ∨ (c.step i = c ∧ c.move i = []) := by
  cases hi : c.threads[i]? with
  | none => exact .inr (by simp [step, move, hi])
  | some t =>
    cases hstmt : t.rest.isStmt with
    | true => exact .inl ⟨t, hi, hstmt⟩
    | false => exact .inr ⟨step_of_not_stmt hi hstmt, move_of_not_stmt hi hstmt⟩

/-- The thread has returned a value. -/
def Returned (c : Pool ρ σ ε α) (i : ℕ) : Prop :=
  ∃ t a, c.threads[i]? = some t ∧ t.rest = .ret a

instance decidableReturned (c : Pool ρ σ ε α) (i : ℕ) : Decidable (c.Returned i) :=
  match hi : c.threads[i]? with
  | none => isFalse fun ⟨_, _, hsome, _⟩ => by simp [hi] at hsome
  | some t => match hrest : t.rest with
    | .ret a => isTrue ⟨t, a, hi, hrest⟩
    | .raise _ => isFalse fun ⟨_, _, hsome, hret⟩ => by simp_all
    | .stmt _ _ => isFalse fun ⟨_, _, hsome, hret⟩ => by simp_all

theorem Returned.run {c : Pool ρ σ ε α} {i : ℕ} (h : c.Returned i) (schedule : List ℕ) :
    (c.run schedule).Returned i := by
  induction schedule generalizing c with
  | nil => exact h
  | cons k schedule ih =>
    obtain ⟨t, a, hi, hrest⟩ := h
    refine ih ⟨t, a, ?_, hrest⟩
    by_cases hk : k = i
    · subst hk
      rw [step_of_not_stmt hi (by rw [hrest]; rfl), hi]
    · rw [threads_step_of_ne c hk, hi]

theorem history_concat (i : ℕ) (c : Pool ρ σ ε α) (done : List ℕ) (k : ℕ) :
    c.history i (done ++ [k]) = c.history i done ++ if k = i then (c.run done).move i else [] := by
  simp [history_append]

/-- The steps before one of the schedule are its first steps. -/
theorem take_of_schedule {schedule done later : List ℕ} {k : ℕ}
    (h : schedule = done ++ k :: later) : ∃ n < schedule.length, done = schedule.take n := by
  refine ⟨done.length, ?_, ?_⟩
  · rw [h]
    simp
  · rw [h, List.take_left]

/-- The pair numbered `n` of a history is a step of the run, the one that follows the first
`n` of them. -/
theorem getElem?_history {c : Pool ρ σ ε α} {i : ℕ} {schedule : List ℕ} {n : ℕ} {p : σ × σ}
    (h : (c.history i schedule)[n]? = some p) :
    ∃ done later, schedule = done ++ i :: later ∧ (c.run done).Moves i ∧
      c.history i done = (c.history i schedule).take n ∧
      p = ((c.run done).store, (c.run (done ++ [i])).store) := by
  induction schedule generalizing c n with
  | nil => cases h
  | cons k schedule ih =>
    have hlater {m : ℕ} (hm : ((c.step k).history i schedule)[m]? = some p)
        (htake : (c.history i (k :: schedule)).take n =
          (if k = i then c.move i else []) ++ ((c.step k).history i schedule).take m) :
        ∃ done later, k :: schedule = done ++ i :: later ∧ (c.run done).Moves i ∧
          c.history i done = (c.history i (k :: schedule)).take n ∧
          p = ((c.run done).store, (c.run (done ++ [i])).store) := by
      obtain ⟨done, later, hschedule, hmoves, hdone, hp⟩ := ih hm
      exact ⟨k :: done, later, by simp [hschedule], hmoves, by rw [history_cons, hdone, htake], hp⟩
    by_cases hk : k = i
    · subst hk
      rcases c.moves_or k with hmoves | ⟨-, hnone⟩
      · rw [history_cons, if_pos rfl, move_of_moves hmoves] at h
        cases n with
        | zero => exact ⟨[], schedule, rfl, hmoves, rfl, (Option.some.inj h).symm⟩
        | succ m =>
          refine hlater h ?_
          rw [history_cons, if_pos rfl, move_of_moves hmoves]
          rfl
      · rw [history_cons, if_pos rfl, hnone] at h
        exact hlater h (by rw [history_cons, if_pos rfl, hnone]; rfl)
    · rw [history_cons, if_neg hk] at h
      exact hlater h (by rw [history_cons, if_neg hk]; rfl)

/-- Each pair of a history is a step of the run. -/
theorem mem_history {c : Pool ρ σ ε α} {i : ℕ} {schedule : List ℕ} {s t : σ}
    (h : (s, t) ∈ c.history i schedule) :
    ∃ done later, schedule = done ++ i :: later ∧ s = (c.run done).store ∧
      t = (c.run (done ++ [i])).store := by
  obtain ⟨n, hn⟩ := List.mem_iff_getElem?.mp h
  obtain ⟨done, later, hschedule, -, -, hp⟩ := getElem?_history hn
  obtain ⟨hs, ht⟩ := Prod.mk.inj hp
  exact ⟨done, later, hschedule, hs, ht⟩

/-- What is proved by following a program holds of its thread, if the stores it finds are
those that were assumed. -/
theorem along_run_of {A : History σ → σ → Prop} {I : History σ → Prop}
    {Q : History σ → Except ε α → Prop} {c : Pool ρ σ ε α} {i : ℕ} {t : Thread ρ σ ε α}
    (hi : c.threads[i]? = some t) {h : History σ} (ht : t.rest.Along A I Q h) (schedule : List ℕ)
    (hA : ∀ done later, schedule = done ++ i :: later →
      A (h ++ c.history i done) (c.run done).store) :
    ∃ t', (c.run schedule).threads[i]? = some t' ∧ t'.name = t.name ∧
      t'.rest.Along A I Q (h ++ c.history i schedule) := by
  induction schedule generalizing c t h with
  | nil => exact ⟨t, hi, rfl, by simpa using ht⟩
  | cons k schedule ih =>
    have hlater : ∀ done later, schedule = done ++ i :: later →
        A (h ++ (if k = i then c.move i else []) ++ (c.step k).history i done)
          ((c.step k).run done).store := by
      rintro done later rfl
      rw [List.append_assoc]
      exact hA (k :: done) later rfl
    by_cases hk : k = i
    · subst hk
      cases hstmt : t.rest.isStmt with
      | true =>
        have hfound : A h c.store := by simpa using hA [] schedule rfl
        rw [if_pos rfl, move_of_stmt hi hstmt] at hlater
        obtain ⟨t', ht', hname, halong⟩ :=
          ih (threads_step_self hi hstmt) (ht.next hstmt hfound) hlater
        refine ⟨t', ht', hname, ?_⟩
        simpa [move_of_stmt hi hstmt, List.append_assoc] using halong
      | false =>
        rw [if_pos rfl, move_of_not_stmt hi hstmt, List.append_nil] at hlater
        obtain ⟨t', ht', hname, halong⟩ := ih ((step_of_not_stmt hi hstmt).symm ▸ hi) ht hlater
        refine ⟨t', ht', hname, ?_⟩
        simpa [move_of_not_stmt hi hstmt] using halong
    · rw [if_neg hk, List.append_nil] at hlater
      obtain ⟨t', ht', hname, halong⟩ := ih ((threads_step_of_ne c hk).trans hi) ht hlater
      refine ⟨t', ht', hname, ?_⟩
      simpa [hk] using halong

/-- What is proved of any stores holds of the thread in every schedule. -/
theorem along_run {I : History σ → Prop} {Q : History σ → Except ε α → Prop}
    {c : Pool ρ σ ε α} {i : ℕ} {t : Thread ρ σ ε α} (hi : c.threads[i]? = some t)
    {h : History σ} (ht : t.rest.Along Program.anyStore I Q h) (schedule : List ℕ) :
    ∃ t', (c.run schedule).threads[i]? = some t' ∧ t'.name = t.name ∧
      t'.rest.Along Program.anyStore I Q (h ++ c.history i schedule) :=
  along_run_of hi ht schedule fun _ _ _ => trivial

/-- A step of a thread whose histories follow `T` is as `T` says. -/
theorem follows_step {T : History σ → σ → σ → Prop} {c : Pool ρ σ ε α} {i : ℕ}
    {t : Thread ρ σ ε α} (hi : c.threads[i]? = some t)
    (ht : t.rest.Along Program.anyStore (Follows T) (fun h _ => Follows T h) []) {done : List ℕ}
    (hmoves : (c.run done).Moves i) :
    T (c.history i done) (c.run done).store ((c.run done).step i).store := by
  obtain ⟨t', -, -, halong⟩ := along_run hi ht (done ++ [i])
  have hfollows := halong.now fun _ _ hh => hh
  rw [List.nil_append, history_concat, if_pos rfl, move_of_moves hmoves] at hfollows
  exact hfollows.last

/-- The store is as the thread last left it when the other threads keep `K`. -/
theorem asLeft_run {K : σ → σ → Prop} [Std.Refl K] [IsTrans σ K] {c : Pool ρ σ ε α} {i : ℕ}
    {h : History σ} (hc : Program.asLeft K h c.store) (schedule : List ℕ)
    (hothers : ∀ done k later, schedule = done ++ k :: later → k ≠ i →
      K (c.run done).store ((c.run done).step k).store) :
    Program.asLeft K (h ++ c.history i schedule) (c.run schedule).store := by
  induction schedule generalizing c h with
  | nil => simpa using hc
  | cons k schedule ih =>
    have hlater : ∀ done k' later, schedule = done ++ k' :: later → k' ≠ i →
        K ((c.step k).run done).store (((c.step k).run done).step k').store :=
      fun done k' later heq => hothers (k :: done) k' later (congrArg _ heq)
    rw [history_cons, ← List.append_assoc]
    refine ih ?_ hlater
    by_cases hk : k = i
    · subst hk
      rw [if_pos rfl]
      rcases c.move_cases k with ⟨hs, hnone⟩ | hone
      · rw [hs, hnone, List.append_nil]
        exact hc
      · rw [hone]
        intro p hp
        obtain rfl : _ = p := by simpa using hp
        exact refl _
    · rw [if_neg hk, List.append_nil]
      exact fun p hp => IsTrans.trans _ _ _ (hc p hp) (hothers [] k schedule rfl hk)

theorem history_of_not_stmt {c : Pool ρ σ ε α} {i : ℕ} {t : Thread ρ σ ε α}
    (hi : c.threads[i]? = some t) (ht : t.rest.isStmt = false) (schedule : List ℕ) :
    c.history i schedule = [] := by
  induction schedule generalizing c with
  | nil => rfl
  | cons k schedule ih =>
    by_cases hk : k = i
    · subst hk
      rw [history_cons, if_pos rfl, move_of_not_stmt hi ht, step_of_not_stmt hi ht]
      exact ih hi
    · rw [history_cons, if_neg hk]
      exact ih ((threads_step_of_ne c hk).trans hi)

theorem history_of_none {c : Pool ρ σ ε α} {i : ℕ} (hi : c.threads[i]? = none)
    (schedule : List ℕ) : c.history i schedule = [] := by
  induction schedule generalizing c with
  | nil => rfl
  | cons k schedule ih =>
    have hmove : c.move i = [] := by simp [move, hi]
    have hlater : (c.step k).threads[i]? = none := by
      rw [List.getElem?_eq_none_iff] at hi ⊢
      rcases c.step_cases k with hs | ⟨t, -, -, hs⟩ <;> simpa [hs] using hi
    simp [hmove, ih hlater]

/-- The next statement of thread `i` is its last. -/
def Ends (c : Pool ρ σ ε α) (i : ℕ) : Prop :=
  ∃ t, c.threads[i]? = some t ∧ t.rest.isStmt = true ∧ (t.rest.next c.store).isStmt = false

instance decidableEnds (c : Pool ρ σ ε α) (i : ℕ) : Decidable (c.Ends i) :=
  match hi : c.threads[i]? with
  | none => isFalse fun ⟨_, hsome, _⟩ => by simp [hi] at hsome
  | some t => decidable_of_iff (t.rest.isStmt = true ∧ (t.rest.next c.store).isStmt = false)
    ⟨fun h => ⟨t, hi, h⟩, fun ⟨_, hsome, h⟩ => Option.some.inj (hi.symm.trans hsome) ▸ h⟩

/-- The history of a thread that ends stops with the statement that ends it. -/
theorem history_of_ends {c : Pool ρ σ ε α} {i : ℕ} (h : c.Ends i) (rest : List ℕ) :
    c.history i (i :: rest) = [(c.store, (c.step i).store)] := by
  obtain ⟨t, hi, hstmt, hend⟩ := h
  rw [history_cons, if_pos rfl, move_of_stmt hi hstmt,
    history_of_not_stmt (threads_step_self hi hstmt) hend, step_of_stmt hi hstmt]
  rfl

/-- What every statement of a thread does, each pair of its history does. -/
theorem writes_history {R : σ → σ → Prop} {c : Pool ρ σ ε α} {i : ℕ} {t : Thread ρ σ ε α}
    (hi : c.threads[i]? = some t) (ht : t.rest.Writes R) (schedule : List ℕ) :
    ∀ p ∈ c.history i schedule, R p.1 p.2 := by
  induction schedule generalizing c t with
  | nil => simp
  | cons k schedule ih =>
    intro p hp
    by_cases hk : k = i
    · subst hk
      cases hstmt : t.rest.isStmt with
      | true =>
        rw [history_cons, if_pos rfl, move_of_stmt hi hstmt] at hp
        rcases List.mem_cons.mp hp with rfl | hp
        · exact ht.write hstmt c.store
        · exact ih (threads_step_self hi hstmt) (ht.next c.store) p hp
      | false =>
        rw [history_of_not_stmt hi hstmt] at hp
        cases hp
    · rw [history_cons, if_neg hk] at hp
      exact ih ((threads_step_of_ne c hk).trans hi) ht p hp

/-- What the statements of each thread do, they do in every schedule. -/
theorem writes_run {R : ρ → σ → σ → Prop} {c : Pool ρ σ ε α}
    (h : ∀ t ∈ c.threads, t.rest.Writes (R t.name)) (schedule : List ℕ) :
    ∀ t ∈ (c.run schedule).threads, t.rest.Writes (R t.name) := by
  induction schedule generalizing c with
  | nil => exact h
  | cons i schedule ih =>
    refine ih ?_
    obtain hs | ⟨t, hi, -, hs⟩ := c.step_cases i
    · rw [hs]
      exact h
    · rw [hs]
      intro u hu
      rcases mem_set_cases hu with rfl | hu
      · exact (h t (List.mem_of_getElem? hi)).next c.store
      · exact h u hu

/-- A property that the statements of the scheduled threads keep holds after the schedule. -/
theorem invariant_run_of_mem {R : ρ → σ → σ → Prop} {J : σ → Prop} {c : Pool ρ σ ε α}
    (h : ∀ t ∈ c.threads, t.rest.Writes (R t.name)) (schedule : List ℕ)
    (hR : ∀ k ∈ schedule, ∀ t, c.threads[k]? = some t →
      t.rest.isStmt = false ∨ ∀ s s', R t.name s s' → J s → J s')
    (hc : J c.store) : J (c.run schedule).store := by
  induction schedule generalizing c with
  | nil => exact hc
  | cons i schedule ih =>
    refine ih (writes_run h [i]) (fun k hk t ht => ?_) ?_
    · rcases threads_step_cases ht with ht | ⟨u, hu, hstmt, rfl⟩
      · exact hR k (List.mem_cons_of_mem _ hk) t ht
      · exact .inr ((hR k (List.mem_cons_of_mem _ hk) u hu).resolve_left (by simp [hstmt]))
    · obtain hs | ⟨t, hi, hstmt, hs⟩ := c.step_cases i
      · rw [hs]
        exact hc
      · have hkeep := (hR i (by simp) t hi).resolve_left (by simp [hstmt])
        rw [hs]
        exact hkeep _ _ ((h t (List.mem_of_getElem? hi)).write hstmt c.store) hc

/-- A property that every statement of the threads keeps holds after every schedule. -/
theorem invariant_run {R : ρ → σ → σ → Prop} {J : σ → Prop} {c : Pool ρ σ ε α}
    (h : ∀ t ∈ c.threads, t.rest.Writes (R t.name)) (hR : ∀ r s s', R r s s' → J s → J s')
    (hc : J c.store) (schedule : List ℕ) : J (c.run schedule).store :=
  invariant_run_of_mem h schedule (fun _ _ t _ => .inr (hR t.name)) hc

/-- After its first statement a thread does what the rest of its program does. -/
theorem history_cases {c : Pool ρ σ ε α} {i : ℕ} {t : Thread ρ σ ε α}
    (hi : c.threads[i]? = some t) (schedule : List ℕ) :
    c.history i schedule = [] ∨ ∃ s later, c.history i schedule = (s, t.rest.write s) :: later ∧
      ∀ R : σ → σ → Prop, (t.rest.next s).Writes R → ∀ p ∈ later, R p.1 p.2 := by
  induction schedule generalizing c with
  | nil => exact .inl rfl
  | cons k schedule ih =>
    by_cases hk : k = i
    · subst hk
      cases hstmt : t.rest.isStmt with
      | false => exact .inl (history_of_not_stmt hi hstmt _)
      | true =>
        refine .inr ⟨c.store, (c.step k).history k schedule, ?_, fun R hR => ?_⟩
        · rw [history_cons, if_pos rfl, move_of_stmt hi hstmt]
          rfl
        · exact writes_history (threads_step_self hi hstmt) hR schedule
    · rw [history_cons, if_neg hk]
      exact ih ((threads_step_of_ne c hk).trans hi)

/-- A step depends on the store and on the thread that takes it. -/
theorem step_congr {c c' : Pool ρ σ ε α} {k : ℕ} (hstore : c'.store = c.store)
    (hk : c'.threads[k]? = c.threads[k]?) :
    (c'.step k).store = (c.step k).store ∧ (c'.step k).threads[k]? = (c.step k).threads[k]? := by
  cases ht : c.threads[k]? with
  | none =>
    have hnone : c'.threads[k]? = none := hk.trans ht
    simp [step, ht, hnone, hstore]
  | some t =>
    have hsome : c'.threads[k]? = some t := hk.trans ht
    cases hstmt : t.rest.isStmt with
    | true =>
      rw [threads_step_self ht hstmt, threads_step_self hsome hstmt, step_of_stmt ht hstmt,
        step_of_stmt hsome hstmt, hstore]
      exact ⟨rfl, rfl⟩
    | false =>
      rw [step_of_not_stmt ht hstmt, step_of_not_stmt hsome hstmt]
      exact ⟨hstore, hk⟩

/-- Threads that change nothing may be left out of the schedule. -/
theorem store_run_filter {c : Pool ρ σ ε α} {removed : ℕ → Bool} {schedule : List ℕ}
    (h : ∀ i, removed i = true → ∀ p ∈ c.history i schedule, p.2 = p.1) :
    (c.run schedule).store = (c.run (schedule.filter (fun i => !removed i))).store := by
  have hsame (c' : Pool ρ σ ε α) (hstore : c'.store = c.store)
      (hthreads : ∀ i, removed i = false → c'.threads[i]? = c.threads[i]?) :
      (c.run schedule).store = (c'.run (schedule.filter (fun i => !removed i))).store := by
    induction schedule generalizing c c' with
    | nil => exact hstore.symm
    | cons k schedule ih =>
      have hlater : ∀ i, removed i = true → ∀ p ∈ (c.step k).history i schedule, p.2 = p.1 :=
        fun i hi p hp => h i hi p (List.mem_append_right _ hp)
      cases hk : removed k with
      | true =>
        rw [List.filter_cons_of_neg (by simp [hk])]
        refine ih hlater c' ?_ (fun i hi => ?_)
        · rcases c.move_cases k with ⟨hs, -⟩ | hone
          · rw [hs, hstore]
          · exact hstore.trans (h k hk (c.store, (c.step k).store) (by simp [hone])).symm
        · have hne : k ≠ i := fun heq => by simp [← heq, hk] at hi
          rw [threads_step_of_ne c hne, hthreads i hi]
      | false =>
        rw [List.filter_cons_of_pos (by simp [hk])]
        obtain ⟨hs, ht⟩ := step_congr hstore (hthreads k hk)
        refine ih hlater (c'.step k) hs (fun i hi => ?_)
        by_cases hki : k = i
        · exact hki ▸ ht
        · rw [threads_step_of_ne c hki, threads_step_of_ne c' hki, hthreads i hi]
  exact hsame c rfl (fun _ _ => rfl)

end DevSecOpsPlatform.ProgramInterleaving.Pool
