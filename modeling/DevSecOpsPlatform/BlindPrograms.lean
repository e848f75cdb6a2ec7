import DevSecOpsPlatform.ThreadHistories

/-!
# Programs that do not see a part of the store

`view` is what a program may know of the store. A blind program does the same to the view,
and goes on in the same way, over all stores of one view; a program that leaves the view only
writes what is out of sight. When two pools have blind threads in common and all their other
threads leave the view, the common threads stay the same, whatever the others do.
-/

namespace DevSecOpsPlatform.StatementPrograms.Program

variable {σ τ ε α β : Type} {view : σ → τ}

def Blind (view : σ → τ) : Program σ ε α → Prop
  | ret _ => True
  | raise _ => True
  | stmt w n => ∀ s, (n s).Blind view ∧
      ∀ t, view t = view s → view (w t) = view (w s) ∧ n t = n s

/-- Every statement leaves the view of the store. -/
def Leaves (view : σ → τ) (p : Program σ ε α) : Prop := p.Writes fun s t => view t = view s

/-- Results of a statement over stores of one view. -/
def SameResult (view : σ → τ) : Except ε (α × σ) → Except ε (α × σ) → Prop
  | .ok r, .ok r' => r.1 = r'.1 ∧ view r.2 = view r'.2
  | .error e, .error e' => e = e'
  | _, _ => False

theorem SameResult.symm {x y : Except ε (α × σ)} (h : SameResult view x y) :
    SameResult view y x := by
  cases x <;> cases y
  · exact Eq.symm h
  · exact h.elim
  · exact h.elim
  · exact ⟨h.1.symm, h.2.symm⟩

theorem SameResult.trans {x y z : Except ε (α × σ)} (hxy : SameResult view x y)
    (hyz : SameResult view y z) : SameResult view x z := by
  cases x <;> cases y <;> cases z
  · exact Eq.trans hxy hyz
  · exact hyz.elim
  · exact hxy.elim
  · exact hxy.elim
  · exact hxy.elim
  · exact hxy.elim
  · exact hyz.elim
  · exact ⟨hxy.1.trans hyz.1, hxy.2.trans hyz.2⟩

theorem Blind.next {p : Program σ ε α} (hp : p.Blind view) (s : σ) : (p.next s).Blind view := by
  cases p with
  | stmt w n => exact (hp s).1
  | ret a => trivial
  | raise e => trivial

theorem Blind.next_eq {p : Program σ ε α} (hp : p.Blind view) {s t : σ} (h : view t = view s) :
    p.next t = p.next s := by
  cases p with
  | stmt w n => exact ((hp s).2 t h).2
  | ret a => rfl
  | raise e => rfl

theorem Blind.write_eq {p : Program σ ε α} (hp : p.Blind view) {s t : σ} (h : view t = view s) :
    view (p.write t) = view (p.write s) := by
  cases p with
  | stmt w n => exact ((hp s).2 t h).1
  | ret a => exact h
  | raise e => exact h

theorem Blind.bind {p : Program σ ε α} {f : α → Program σ ε β} (hp : p.Blind view)
    (hf : ∀ a, (f a).Blind view) : (p >>= f).Blind view := by
  induction p with
  | ret a => exact hf a
  | raise e => trivial
  | stmt w n ih =>
    refine fun s => ⟨ih s (hp s).1, fun t h => ?_⟩
    obtain ⟨hwrite, hnext⟩ := (hp s).2 t h
    exact ⟨hwrite, congrArg (· >>= f) hnext⟩

theorem Blind.attempt {p : Program σ ε α} (hp : p.Blind view) : p.attempt.Blind view := by
  induction p with
  | ret a => trivial
  | raise e => trivial
  | stmt w n ih =>
    refine fun s => ⟨ih s (hp s).1, fun t h => ?_⟩
    obtain ⟨hwrite, hnext⟩ := (hp s).2 t h
    exact ⟨hwrite, congrArg Program.attempt hnext⟩

theorem blind_query {f : σ → α} (h : ∀ s t, view t = view s → f t = f s) :
    (query f : Program σ ε α).Blind view :=
  fun s => ⟨trivial, fun t hview => ⟨hview, congrArg ret (h s t hview)⟩⟩

theorem blind_execute {w : σ → σ} (h : ∀ s t, view t = view s → view (w t) = view (w s)) :
    (execute w : Program σ ε Unit).Blind view :=
  fun s => ⟨trivial, fun t hview => ⟨h s t hview, rfl⟩⟩

theorem blind_statement {f : σ → Except ε (α × σ)}
    (h : ∀ s t, view t = view s → SameResult view (f t) (f s)) : (statement f).Blind view := by
  intro s
  refine ⟨?_, fun t hview => ?_⟩
  · dsimp only
    cases f s <;> trivial
  · have hst := h s t hview
    dsimp only
    cases hs : f s with
    | error e =>
      cases ht : f t with
      | error e' =>
        rw [hs, ht] at hst
        obtain rfl : e' = e := hst
        exact ⟨hview, rfl⟩
      | ok r =>
        rw [hs, ht] at hst
        exact hst.elim
    | ok r =>
      cases ht : f t with
      | error e' =>
        rw [hs, ht] at hst
        exact hst.elim
      | ok r' =>
        rw [hs, ht] at hst
        exact ⟨hst.2, congrArg ret hst.1⟩

/-- What follows a statement need only be blind for the answers it can give. -/
theorem blind_statement_bind_of_ok {f : σ → Except ε (α × σ)} {g : α → Program σ ε β}
    (hg : ∀ s a t, f s = .ok (a, t) → (g a).Blind view)
    (h : ∀ s t, view t = view s → SameResult view (f t) (f s)) :
    (statement f >>= g).Blind view := by
  intro s
  refine ⟨?_, fun t hview => ?_⟩
  · cases hs : f s with
    | error e => simp [hs, Program.bind, Blind]
    | ok r => simpa [hs, Program.bind] using hg s r.1 r.2 hs
  · have hblind := (blind_statement h s).2 t hview
    exact ⟨hblind.1, congrArg (· >>= g) hblind.2⟩

/-- A statement of whose answer only `g` is used. -/
theorem blind_statement_bind {γ : Type} {f : σ → Except ε (α × σ)} {g : α → γ}
    {q : γ → Program σ ε β} (hq : ∀ c, (q c).Blind view)
    (h : ∀ s t, view t = view s → SameResult view ((f t).map fun r => (g r.1, r.2))
      ((f s).map fun r => (g r.1, r.2))) : (statement f >>= fun a => q (g a)).Blind view := by
  have hused : (statement f >>= fun a => q (g a)) =
      (statement (fun s => (f s).map fun r => (g r.1, r.2)) >>= q) := by
    simp only [statement, stmt_bind]
    congr 1
    · funext s
      cases f s <;> rfl
    · funext s
      cases f s <;> rfl
  rw [hused]
  exact (blind_statement h).bind hq

end DevSecOpsPlatform.StatementPrograms.Program

namespace DevSecOpsPlatform.ProgramInterleaving.Pool

open StatementPrograms

variable {ρ σ τ ε α : Type} {view : σ → τ} {seen : ℕ → Prop} {c d : Pool ρ σ ε α}

/-- The stores have one view, the seen threads are the same and blind, and the others leave
the view. -/
structure SameView (view : σ → τ) (seen : ℕ → Prop) (c d : Pool ρ σ ε α) : Prop where
  store : view c.store = view d.store
  same : ∀ i, seen i → c.threads[i]? = d.threads[i]?
  blind : ∀ i t, seen i → c.threads[i]? = some t → t.rest.Blind view
  leaves : ∀ i t, ¬ seen i → c.threads[i]? = some t → t.rest.Leaves view
  leaves' : ∀ i t, ¬ seen i → d.threads[i]? = some t → t.rest.Leaves view

/-- A step of a thread that leaves the view. -/
theorem view_step_of_leaves {k : ℕ}
    (h : ∀ t, c.threads[k]? = some t → t.rest.Leaves view) :
    view (c.step k).store = view c.store ∧
      ∀ t, (c.step k).threads[k]? = some t → t.rest.Leaves view := by
  obtain hs | ⟨t, hk, hstmt, hs⟩ := c.step_cases k
  · rw [hs]
    exact ⟨rfl, h⟩
  · refine ⟨hs ▸ (h t hk).write hstmt c.store, fun u hu => ?_⟩
    rw [threads_step_self hk hstmt] at hu
    exact Option.some.inj hu ▸ (h t hk).next c.store

/-- A step of a thread that both pools have. -/
theorem SameView.step_seen (h : SameView view seen c d) {k : ℕ} (hseen : seen k) :
    view (c.step k).store = view (d.step k).store ∧
      (c.step k).threads[k]? = (d.step k).threads[k]? ∧
      ∀ t, (c.step k).threads[k]? = some t → t.rest.Blind view := by
  have hthread := h.same k hseen
  have hblind := fun t ht => h.blind k t hseen ht
  cases hc : c.threads[k]? with
  | none =>
    have hd : d.threads[k]? = none := hthread.symm.trans hc
    have hstay : c.step k = c ∧ d.step k = d := by simp [step, hc, hd]
    rw [hstay.1, hstay.2]
    exact ⟨h.store, hthread, hblind⟩
  | some t =>
    have hd : d.threads[k]? = some t := hthread.symm.trans hc
    cases hstmt : t.rest.isStmt with
    | false =>
      rw [step_of_not_stmt hc hstmt, step_of_not_stmt hd hstmt]
      exact ⟨h.store, hthread, hblind⟩
    | true =>
      rw [threads_step_self hc hstmt, threads_step_self hd hstmt, step_of_stmt hc hstmt,
        step_of_stmt hd hstmt]
      refine ⟨(hblind t hc).write_eq h.store, ?_, fun u hu => ?_⟩
      · rw [Thread.advance, Thread.advance, (hblind t hc).next_eq h.store]
      · exact Option.some.inj hu ▸ (hblind t hc).next c.store

theorem SameView.step (h : SameView view seen c d) (k : ℕ) :
    SameView view seen (c.step k) (d.step k) := by
  have hother {p : Pool ρ σ ε α} {i : ℕ} {t : Thread ρ σ ε α} (hik : i ≠ k)
      (ht : (p.step k).threads[i]? = some t) : p.threads[i]? = some t :=
    (threads_step_of_ne p (Ne.symm hik)).symm.trans ht
  by_cases hseen : seen k
  · obtain ⟨hstore, hsame, hblind⟩ := h.step_seen hseen
    refine ⟨hstore, fun i hi => ?_, fun i t hi ht => ?_, fun i t hi ht => ?_, fun i t hi ht => ?_⟩
    · by_cases hik : i = k
      · exact hik ▸ hsame
      · rw [threads_step_of_ne c (Ne.symm hik), threads_step_of_ne d (Ne.symm hik), h.same i hi]
    · by_cases hik : i = k
      · exact hblind t (hik ▸ ht)
      · exact h.blind i t hi (hother hik ht)
    · exact h.leaves i t hi (hother (fun hik => hi (hik ▸ hseen)) ht)
    · exact h.leaves' i t hi (hother (fun hik => hi (hik ▸ hseen)) ht)
  · obtain ⟨hstore, hrest⟩ := view_step_of_leaves fun t ht => h.leaves k t hseen ht
    obtain ⟨hstore', hrest'⟩ := view_step_of_leaves fun t ht => h.leaves' k t hseen ht
    have hne {i : ℕ} (hi : seen i) : i ≠ k := fun hik => hseen (hik ▸ hi)
    refine ⟨hstore.trans (h.store.trans hstore'.symm), fun i hi => ?_, fun i t hi ht => ?_,
      fun i t hi ht => ?_, fun i t hi ht => ?_⟩
    · rw [threads_step_of_ne c (hne hi).symm, threads_step_of_ne d (hne hi).symm, h.same i hi]
    · exact h.blind i t hi (hother (hne hi) ht)
    · by_cases hik : i = k
      · exact hrest t (hik ▸ ht)
      · exact h.leaves i t hi (hother hik ht)
    · by_cases hik : i = k
      · exact hrest' t (hik ▸ ht)
      · exact h.leaves' i t hi (hother hik ht)

theorem SameView.run (h : SameView view seen c d) (schedule : List ℕ) :
    SameView view seen (c.run schedule) (d.run schedule) := by
  induction schedule generalizing c d with
  | nil => exact h
  | cons k schedule ih => exact ih (h.step k)

/-- What a thread has answered or raised, once it has ended. -/
def answer (c : Pool ρ σ ε α) (i : ℕ) : Option (Except ε α) :=
  c.threads[i]?.bind fun t => match t.rest with
    | .ret a => some (.ok a)
    | .raise e => some (.error e)
    | .stmt _ _ => none

theorem SameView.answer_eq (h : SameView view seen c d) {i : ℕ} (hseen : seen i) :
    c.answer i = d.answer i := by
  rw [answer, answer, h.same i hseen]

/-! ### The first turn of a thread -/

/-- A thread that has ended stays as it is. -/
theorem threads_run_of_not_stmt {i : ℕ} {t : Thread ρ σ ε α} (hi : c.threads[i]? = some t)
    (ht : t.rest.isStmt = false) (schedule : List ℕ) : (c.run schedule).threads[i]? = some t := by
  induction schedule generalizing c with
  | nil => exact hi
  | cons k schedule ih =>
    refine ih ?_
    by_cases hk : k = i
    · subst hk
      rw [step_of_not_stmt hi ht, hi]
    · rw [threads_step_of_ne c hk, hi]

theorem threads_run_of_not_mem {i : ℕ} {schedule : List ℕ} (h : i ∉ schedule) :
    (c.run schedule).threads[i]? = c.threads[i]? ∧ c.history i schedule = [] := by
  induction schedule generalizing c with
  | nil => exact ⟨rfl, rfl⟩
  | cons k schedule ih =>
    have hk : k ≠ i := (List.ne_of_not_mem_cons h).symm
    obtain ⟨hthread, hhistory⟩ := ih (c := c.step k) (List.not_mem_of_not_mem_cons h)
    refine ⟨hthread.trans (threads_step_of_ne c hk), ?_⟩
    rw [history_cons, if_neg hk, hhistory]
    rfl

/-- The first turn of a thread in a schedule in which it has one. -/
theorem first_turn {i : ℕ} {t : Thread ρ σ ε α} (hi : c.threads[i]? = some t)
    (hstmt : t.rest.isStmt = true) {schedule : List ℕ} (hmem : i ∈ schedule) :
    ∃ done later, schedule = done ++ i :: later ∧ i ∉ done ∧
      (∃ p, (c.history i schedule).head? = some p ∧ p.1 = (c.run done).store) := by
  obtain ⟨done, later, hschedule, hnot⟩ := List.eq_append_cons_of_mem hmem
  obtain ⟨hthread, hhistory⟩ := threads_run_of_not_mem (c := c) hnot
  refine ⟨done, later, hschedule, hnot, ?_⟩
  rw [hschedule, history_append, hhistory, history_cons, if_pos rfl,
    move_of_stmt (hthread.trans hi) hstmt]
  exact ⟨_, rfl, rfl⟩

/-- A thread that has had no turn has not answered. -/
theorem answer_of_not_mem {i : ℕ} {t : Thread ρ σ ε α} (hi : c.threads[i]? = some t)
    (hstmt : t.rest.isStmt = true) {schedule : List ℕ} (h : i ∉ schedule) :
    (c.run schedule).answer i = none := by
  rw [answer, (threads_run_of_not_mem h).1, hi]
  cases hrest : t.rest with
  | stmt w n => simp [hrest]
  | ret a => simp [hrest, Program.isStmt] at hstmt
  | raise e => simp [hrest, Program.isStmt] at hstmt

/-- A thread whose first statement raises has raised once it has had a turn. -/
theorem answer_of_raise {i : ℕ} {t : Thread ρ σ ε α} (hi : c.threads[i]? = some t)
    (hstmt : t.rest.isStmt = true) {done : List ℕ} (hnot : i ∉ done) {e : ε}
    (hraise : t.rest.next (c.run done).store = .raise e) (later : List ℕ) :
    (c.run (done ++ i :: later)).answer i = some (.error e) := by
  have hthread := (threads_run_of_not_mem (c := c) hnot).1.trans hi
  have hended := threads_run_of_not_stmt (threads_step_self hthread hstmt)
    (by rw [Thread.advance, hraise]; rfl) later
  rw [run_append, run_cons, answer, hended]
  simp [Thread.advance, hraise]

end DevSecOpsPlatform.ProgramInterleaving.Pool
