import DevSecOpsPlatform.ThreadHistories

/-!
# Programs that keep a log

What a program does outside the store can be recorded in a log beside the store. `logged` is
the program that keeps such a log and writes nothing into it, `emit` the statement that
appends to it. A program `Erases` to another when it differs from it by statements that
write the log alone; whatever order its statements are executed in, the store then goes
through the states of an order of the other's statements.
-/

namespace DevSecOpsPlatform.StatementPrograms.Program

variable {σ ε ω α β : Type}

def logged : Program σ ε α → Program (σ × List ω) ε α
  | ret a => ret a
  | raise e => raise e
  | stmt w n => stmt (fun s => (w s.1, s.2)) (fun s => (n s.1).logged)

/-- Append to the log. -/
def emit (entries : List ω) : Program (σ × List ω) ε Unit :=
  execute fun s => (s.1, s.2 ++ entries)

/-- A program of one statement, which notes in the log what it left when it returns. -/
def noted (p : Program σ ε α) (note : σ → List ω) : Program (σ × List ω) ε α :=
  stmt (fun s => match p.run s.1 with
      | (.ok _, t) => (t, s.2 ++ note t)
      | (.error _, t) => (t, s.2))
    (fun s => ofExcept (p.run s.1).1)

@[simp] theorem logged_ret (a : α) : (ret a : Program σ ε α).logged (ω := ω) = ret a := rfl

@[simp] theorem logged_raise (e : ε) : (raise e : Program σ ε α).logged (ω := ω) = raise e := rfl

theorem logged_bind (p : Program σ ε α) (f : α → Program σ ε β) :
    (p >>= f).logged (ω := ω) = p.logged >>= fun a => (f a).logged := by
  induction p with
  | ret a => rfl
  | raise e => rfl
  | stmt w n ih => exact congrArg (stmt _) (funext fun s => ih s.1)

theorem run_logged (p : Program σ ε α) (s : σ × List ω) :
    p.logged.run s = ((p.run s.1).1, ((p.run s.1).2, s.2)) := by
  induction p generalizing s with
  | ret a => rfl
  | raise e => rfl
  | stmt w n ih => exact ih s.1 (w s.1, s.2)

theorem run_logged_bind {p : Program σ ε α} {f : α → Program (σ × List ω) ε β} {s : σ × List ω}
    {a : α} {t : σ} (h : p.run s.1 = (.ok a, t)) :
    (p.logged >>= f).run s = (f a).run (t, s.2) := by
  rw [run_bind, run_logged, h]

/-- What the statements do to the store; the log stays. -/
theorem Writes.logged {R : σ → σ → Prop} {p : Program σ ε α} (hp : p.Writes R) :
    (p.logged (ω := ω)).Writes (fun s t => R s.1 t.1 ∧ t.2 = s.2) := by
  induction p with
  | ret a => trivial
  | raise e => trivial
  | stmt w n ih => exact fun s => ⟨⟨(hp s.1).1, rfl⟩, ih s.1 (hp s.1).2⟩

theorem writes_noted {R : σ × List ω → σ × List ω → Prop} {p : Program σ ε α} {note : σ → List ω}
    (hok : ∀ s a t, p.run s.1 = (.ok a, t) → R s (t, s.2 ++ note t))
    (herror : ∀ s e t, p.run s.1 = (.error e, t) → R s (t, s.2)) : (p.noted note).Writes R := by
  intro s
  rcases hrun : p.run s.1 with ⟨r, t⟩
  cases r with
  | ok a => simpa [hrun] using hok s a t hrun
  | error e => simpa [hrun] using herror s e t hrun

variable {A : History (σ × List ω) → σ × List ω → Prop} {I : History (σ × List ω) → Prop}
  {P : History (σ × List ω) → Except ε β → Prop} {h : History (σ × List ω)}

theorem along_logged_bind {f : σ → Except ε (α × σ)} {g : α → Program (σ × List ω) ε β} (hI : I h)
    (hok : ∀ s a t, A h s → f s.1 = .ok (a, t) → (g a).Along A I P (h ++ [(s, (t, s.2))]))
    (herror : ∀ s e, A h s → f s.1 = .error e → P (h ++ [(s, s)]) (.error e)) :
    ((statement f).logged >>= g).Along A I P h := by
  refine ⟨hI, fun s hs => ?_⟩
  cases hf : f s.1 with
  | ok r => simpa [hf, Program.bind, Program.logged] using hok s r.1 r.2 hs hf
  | error e => simpa [hf, Program.bind, Program.logged] using herror s e hs hf

theorem along_logged_query_bind {f : σ → α} {g : α → Program (σ × List ω) ε β} (hI : I h)
    (hg : ∀ s, A h s → (g (f s.1)).Along A I P (h ++ [(s, s)])) :
    ((query f).logged >>= g).Along A I P h :=
  ⟨hI, hg⟩

theorem along_emit_bind {entries : List ω} {g : Unit → Program (σ × List ω) ε β} (hI : I h)
    (hg : ∀ s, A h s → (g ()).Along A I P (h ++ [(s, (s.1, s.2 ++ entries))])) :
    (emit entries >>= g).Along A I P h :=
  ⟨hI, hg⟩

/-- The first program is the second with further statements that write the log alone. -/
inductive Erases : Program (σ × List ω) ε α → Program σ ε α → Prop where
  | ret (a : α) : Erases (.ret a) (.ret a)
  | raise (e : ε) : Erases (.raise e) (.raise e)
  | stmt {w : σ × List ω → σ × List ω} {n : σ × List ω → Program (σ × List ω) ε α} {w' : σ → σ}
    {n' : σ → Program σ ε α} (hw : ∀ s, (w s).1 = w' s.1) (hn : ∀ s, Erases (n s) (n' s.1)) :
    Erases (.stmt w n) (.stmt w' n')
  | silent {w : σ × List ω → σ × List ω} {n : σ × List ω → Program (σ × List ω) ε α}
    {q : Program σ ε α} (hw : ∀ s, (w s).1 = s.1) (hn : ∀ s, Erases (n s) q) :
    Erases (.stmt w n) q

theorem erases_logged (p : Program σ ε α) : Erases (p.logged (ω := ω)) p := by
  induction p with
  | ret a => exact .ret a
  | raise e => exact .raise e
  | stmt w n ih => exact .stmt (fun _ => rfl) fun s => ih s.1

theorem Erases.bind {p : Program (σ × List ω) ε α} {q : Program σ ε α}
    {f : α → Program (σ × List ω) ε β} {g : α → Program σ ε β} (hp : Erases p q)
    (hf : ∀ a, Erases (f a) (g a)) : Erases (p >>= f) (q >>= g) := by
  induction hp with
  | ret a => exact hf a
  | raise e => exact .raise e
  | stmt hw _ ih => exact .stmt hw ih
  | silent hw _ ih => exact .silent hw ih

theorem erases_ofExcept (x : Except ε α) :
    Erases (ofExcept x : Program (σ × List ω) ε α) (ofExcept x) := by
  cases x with
  | ok a => exact .ret a
  | error e => exact .raise e

theorem erases_noted_statement (f : σ → Except ε (α × σ)) (note : σ → List ω) :
    Erases ((statement f).noted note) (statement f) := by
  refine .stmt (fun s => ?_) (fun s => ?_)
  · rw [run_statement]
    cases f s.1 <;> rfl
  · rw [run_statement]
    cases f s.1 with
    | ok r => exact .ret r.1
    | error e => exact .raise e

theorem erases_noted_execute (w : σ → σ) (note : σ → List ω) :
    Erases ((execute w : Program σ ε Unit).noted note) (execute w) :=
  .stmt (fun _ => rfl) fun _ => .ret ()

theorem erases_emit_bind {entries : List ω} {f : Unit → Program (σ × List ω) ε β}
    {q : Program σ ε β} (hf : Erases (f ()) q) : Erases (emit entries >>= f) q :=
  .silent (fun _ => rfl) fun _ => hf

/-- Alone, the two programs leave the same store and return or raise the same. -/
theorem Erases.run_eq {p : Program (σ × List ω) ε α} {q : Program σ ε α} (h : Erases p q)
    (s : σ × List ω) : q.run s.1 = ((p.run s).1, (p.run s).2.1) := by
  induction h generalizing s with
  | ret a => rfl
  | raise e => rfl
  | stmt hw _ ih =>
    rw [run_stmt, run_stmt, ← hw s]
    exact ih s _
  | silent hw _ ih =>
    rw [run_stmt, ← hw s]
    exact ih s _

theorem Erases.writes {R : σ → σ → Prop} [Std.Refl R] {p : Program (σ × List ω) ε α}
    {q : Program σ ε α} (h : Erases p q) (hq : q.Writes R) :
    p.Writes (fun s t => R s.1 t.1) := by
  induction h with
  | ret a => trivial
  | raise e => trivial
  | stmt hw _ ih =>
    refine fun s => ⟨?_, ih s (hq s.1).2⟩
    simpa only [hw s] using (hq s.1).1
  | silent hw _ ih =>
    refine fun s => ⟨?_, ih s hq⟩
    simpa only [hw s] using refl s.1

/-- A statement writes the log alone, or it is the next statement of the other program. -/
theorem Erases.step {p : Program (σ × List ω) ε α} {q : Program σ ε α} (h : Erases p q)
    (hstmt : p.isStmt = true) (s : σ × List ω) :
    ((p.write s).1 = s.1 ∧ Erases (p.next s) q) ∨
      (q.isStmt = true ∧ (p.write s).1 = q.write s.1 ∧ Erases (p.next s) (q.next s.1)) := by
  cases h with
  | ret a => cases hstmt
  | raise e => cases hstmt
  | stmt hw hn => exact .inr ⟨rfl, hw s, hn s⟩
  | silent hw hn => exact .inl ⟨hw s, hn s⟩

/-! ### Histories -/

/-- The history of the store, without the log. -/
def eraseLog (h : History (σ × List ω)) : History σ := h.map fun p => (p.1.1, p.2.1)

/-- What the history of a program follows, it follows with a log that stays. -/
theorem along_logged {T : History σ → σ → σ → Prop} {p : Program σ ε α} {g : History σ}
    (hp : p.Along anyStore (Follows T) (fun h _ => Follows T h) g) {h : History (σ × List ω)}
    (hg : eraseLog h = g)
    (hh : Follows (fun h s t => T (eraseLog h) s.1 t.1 ∧ t.2 = s.2) h) :
    (p.logged).Along anyStore (Follows fun h s t => T (eraseLog h) s.1 t.1 ∧ t.2 = s.2)
      (fun h _ => Follows (fun h s t => T (eraseLog h) s.1 t.1 ∧ t.2 = s.2) h) h := by
  induction p generalizing g h with
  | ret a => exact hh
  | raise e => exact hh
  | stmt w n ih =>
    refine ⟨hh, fun s _ => ?_⟩
    have hlater := hp.2 s.1 trivial
    have hturn : T g s.1 (w s.1) := (hlater.now fun _ _ h => h).last
    subst hg
    refine ih s.1 hlater ?_ (hh.snoc ⟨hturn, rfl⟩)
    simp [eraseLog]

end DevSecOpsPlatform.StatementPrograms.Program

namespace DevSecOpsPlatform.ProgramInterleaving.Pool

open StatementPrograms Program

variable {ρ σ ε ω α : Type}

/-- Every thread of the first pool erases to the thread of the second under its number, over
the same store. -/
structure Erases (c : Pool ρ (σ × List ω) ε α) (d : Pool ρ σ ε α) : Prop where
  store : d.store = c.store.1
  threads : ∀ (i : ℕ) (t : Thread ρ (σ × List ω) ε α), c.threads[i]? = some t →
    ∃ u : Thread ρ σ ε α, d.threads[i]? = some u ∧ Program.Erases t.rest u.rest

/-- A step of a pool is a step of the pool that it erases to, or changes the log alone. -/
theorem Erases.step {c : Pool ρ (σ × List ω) ε α} {d : Pool ρ σ ε α} (h : Erases c d) (i : ℕ) :
    Erases (c.step i) d ∨ Erases (c.step i) (d.step i) := by
  rcases c.moves_or i with ⟨t, hi, hstmt⟩ | ⟨hs, -⟩
  · obtain ⟨u, hu, herases⟩ := h.threads i t hi
    have hself := threads_step_self hi hstmt
    rcases herases.step hstmt c.store with ⟨hstore, hrest⟩ | ⟨hustmt, hstore, hrest⟩
    · refine .inl ⟨?_, fun k v hv => ?_⟩
      · rw [step_of_stmt hi hstmt, h.store, ← hstore]
      · by_cases hik : i = k
        · subst hik
          obtain rfl := Option.some.inj (hself.symm.trans hv)
          exact ⟨u, hu, hrest⟩
        · exact h.threads k v ((threads_step_of_ne c hik).symm.trans hv)
    · refine .inr ⟨?_, fun k v hv => ?_⟩
      · rw [step_of_stmt hi hstmt, step_of_stmt hu hustmt, h.store, hstore]
      · by_cases hik : i = k
        · subst hik
          obtain rfl := Option.some.inj (hself.symm.trans hv)
          exact ⟨u.advance d.store, threads_step_self hu hustmt, h.store ▸ hrest⟩
        · rw [threads_step_of_ne d hik]
          exact h.threads k v ((threads_step_of_ne c hik).symm.trans hv)
  · exact .inl (hs.symm ▸ h)

/-- The store goes through the states of a run of the pool without the log. -/
theorem Erases.run {c : Pool ρ (σ × List ω) ε α} {d : Pool ρ σ ε α} (h : Erases c d)
    (schedule : List ℕ) : ∃ erased, erased.Sublist schedule ∧
      Erases (c.run schedule) (d.run erased) := by
  induction schedule generalizing c d with
  | nil => exact ⟨[], .slnil, h⟩
  | cons i schedule ih =>
    rcases h.step i with hstep | hstep
    · obtain ⟨erased, hsub, hrun⟩ := ih hstep
      exact ⟨erased, hsub.cons i, hrun⟩
    · obtain ⟨erased, hsub, hrun⟩ := ih hstep
      exact ⟨i :: erased, hsub.cons_cons i, hrun⟩

theorem erases_start {program : ρ → Program (σ × List ω) ε α} {plain : ρ → Program σ ε α}
    (h : ∀ r, Program.Erases (program r) (plain r)) (store : σ) (entries : List ω)
    (names : List ρ) :
    Erases (start program (store, entries) names) (start plain store names) where
  store := rfl
  threads := by
    intro i t hi
    obtain ⟨r, hr, rfl⟩ := Option.map_eq_some_iff.mp ((List.getElem?_map ..).symm.trans hi)
    exact ⟨⟨r, 0, plain r⟩, by simp [start, hr], h r⟩

end DevSecOpsPlatform.ProgramInterleaving.Pool
