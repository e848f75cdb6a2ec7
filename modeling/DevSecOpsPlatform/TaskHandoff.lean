import DevSecOpsPlatform.GuardedRuns
import DevSecOpsPlatform.StatementPrograms

/-!
# A request that hands a task to a worker

A request runs over a store and at some point leaves a task there. A worker that finds the
task takes it and runs it while the request goes on; the statements of the two interleave
in any order. Suppose that after the handoff the request makes one write `φ`, which the
task neither reads nor overwrites, and from then on only reads. Then every state of every
interleaving is a state of the task running alone, before or after `φ`.
-/

namespace DevSecOpsPlatform.TaskHandoff

open GuardedRuns StatementPrograms

inductive Actor where
  | request | worker
  deriving DecidableEq

structure Handoff (σ ε α β : Type) where
  store : σ
  request : Program σ ε α
  worker : Option (Program σ ε β) := none

variable {σ ε α β : Type}

namespace Handoff

/-- One statement of the request or of the worker; an idle worker takes what `take` finds. -/
def step (take : σ → Option (Program σ ε β × σ)) (c : Handoff σ ε α β) :
    Actor → Handoff σ ε α β
  | .request => { c with store := c.request.write c.store, request := c.request.next c.store }
  | .worker => match c.worker with
    | some p => { c with store := p.write c.store, worker := some (p.next c.store) }
    | none => match take c.store with
      | some (p, s) => { c with store := s, worker := some p }
      | none => c

def run (take : σ → Option (Program σ ε β × σ)) (c : Handoff σ ε α β) (schedule : List Actor) :
    Handoff σ ε α β := runFrom (step take) c schedule

end Handoff

section

variable (take : σ → Option (Program σ ε β × σ))

/-- The request, alone from a store, finds nothing to take until it ends or leaves the task,
with the store and the rest of it in `Q`. Its statements up to there are in `R`. -/
def HandsOver (R : σ → σ → Prop) (Q : σ → Program σ ε α → Prop) : Program σ ε α → σ → Prop
  | .ret _, s => take s = none
  | .raise _, s => take s = none
  | .stmt w n, s => take s = none ∧ R s (w s) ∧ (HandsOver R Q (n s) (w s) ∨ Q (w s) (n s))

/-- What is left of the request makes the write `φ` past the task that it leaves. -/
structure Apart (φ : σ → σ) (task : Program σ ε β) (taken handed : σ) (rest : Program σ ε α) :
    Prop where
  take_eq : take handed = some (task, taken)
  take_write : take (φ handed) = some (task, φ taken)
  commutes : task.Commutes φ
  isStmt : rest.isStmt = true
  write_eq : ∀ s, rest.write s = φ s
  reads : ∀ s, (rest.next s).Writes Eq

end

variable {take : σ → Option (Program σ ε β × σ)} {R : σ → σ → Prop} {φ : σ → σ}
variable {task : Program σ ε β} {taken handed : σ} {rest : Program σ ε α}
variable {Q : σ → Program σ ε α → Prop}

theorem HandsOver.take_eq {p : Program σ ε α} {s : σ} (h : HandsOver take R Q p s) :
    take s = none := by
  cases p with
  | ret a => exact h
  | raise e => exact h
  | stmt w n => exact h.1

/-- A statement up to the handoff. -/
theorem handsOver_statement_bind [Std.Refl R] {γ : Type} {f : σ → Except ε (γ × σ)}
    {g : γ → Program σ ε α} {s : σ} (htake : take s = none)
    (h : ∀ a t, f s = .ok (a, t) → R s t ∧ (HandsOver take R Q (g a) t ∨ Q t (g a))) :
    HandsOver take R Q (Program.statement f >>= g) s := by
  cases hf : f s with
  | error e =>
    refine ⟨htake, ?_, .inl ?_⟩
    · simpa [hf] using refl s
    · simpa [hf, HandsOver, Program.bind] using htake
  | ok r =>
    obtain ⟨hR, hnext⟩ := h r.1 r.2 hf
    refine ⟨htake, ?_, ?_⟩
    · simpa [hf] using hR
    · simpa [hf, Program.bind] using hnext

/-- The worker and the store of the task running alone, from the handoff on. -/
def alone (task : Program σ ε β) (taken handed : σ) : ℕ → Option (Program σ ε β) × σ
  | 0 => (none, handed)
  | k + 1 => (some (task.advance k taken).1, (task.advance k taken).2)

/-- Whether the request has made its write, as the change of the store that it is. -/
inductive Marks (φ : σ → σ) (rest : Program σ ε α) : (σ → σ) → Program σ ε α → Prop where
  | before : Marks φ rest id rest
  | after (p : Program σ ε α) (hreads : p.Writes Eq) : Marks φ rest φ p

/-- A state after the handoff: one of the task running alone, before or after `φ`. -/
def Racing (φ : σ → σ) (task : Program σ ε β) (taken handed : σ) (rest : Program σ ε α)
    (c : Handoff σ ε α β) : Prop :=
  ∃ mark k, Marks φ rest mark c.request ∧ c.worker = (alone task taken handed k).1 ∧
    c.store = mark (alone task taken handed k).2

variable {c : Handoff σ ε α β} {mark : σ → σ}

/-- The request moves a state from before `φ` to after it, or leaves the store as it is. -/
theorem marks_request (h : Apart take φ task taken handed rest) (s : σ) {p : Program σ ε α}
    (hp : Marks φ rest mark p) :
    ∃ mark', Marks φ rest mark' (p.next (mark s)) ∧ p.write (mark s) = mark' s := by
  cases hp with
  | before => exact ⟨φ, .after _ (h.reads _), h.write_eq s⟩
  | after p hreads => exact ⟨φ, .after _ (hreads.next _), (hreads.write_refl (φ s)).symm⟩

/-- The worker does to a store after `φ` what it does to the one before. -/
theorem step_worker (h : Apart take φ task taken handed rest) {k : ℕ} {p : Program σ ε α}
    (hp : Marks φ rest mark p) (hworker : c.worker = (alone task taken handed k).1)
    (hstore : c.store = mark (alone task taken handed k).2) :
    c.step take .worker = { c with
      worker := (alone task taken handed (k + 1)).1
      store := mark (alone task taken handed (k + 1)).2 } := by
  cases k with
  | zero =>
    have htake : take c.store = some (task, mark taken) := by
      cases hp with
      | before => exact hstore ▸ h.take_eq
      | after p hreads => exact hstore ▸ h.take_write
    simp [Handoff.step, hworker, htake, alone]
  | succ k =>
    have hcommutes := h.commutes.advance k taken
    cases hp with
    | before => simp [Handoff.step, hworker, hstore, alone, Program.advance_succ]
    | after p hreads =>
      simp [Handoff.step, hworker, hstore, alone, Program.advance_succ, hcommutes.next_eq,
        hcommutes.write_eq]

theorem racing_step (h : Apart take φ task taken handed rest)
    (hc : Racing φ task taken handed rest c) (a : Actor) :
    Racing φ task taken handed rest (c.step take a) := by
  obtain ⟨mark, k, hmark, hworker, hstore⟩ := hc
  cases a with
  | request =>
    obtain ⟨mark', hmark', hwrite⟩ := marks_request h (alone task taken handed k).2 hmark
    rw [← hstore] at hmark' hwrite
    exact ⟨mark', k, hmark', hworker, hwrite⟩
  | worker =>
    rw [step_worker h hmark hworker hstore]
    exact ⟨mark, k + 1, hmark, rfl, rfl⟩

theorem racing_handed : Racing φ task taken handed rest ⟨handed, rest, none⟩ :=
  ⟨id, 0, .before, rfl, rfl⟩

/-- A state before the handoff, or after one in `Q`. -/
def Reached (take : σ → Option (Program σ ε β × σ)) (R : σ → σ → Prop)
    (Q : σ → Program σ ε α → Prop) (φ : σ → σ) (task : Program σ ε β) (dequeue : σ → σ)
    (c : Handoff σ ε α β) : Prop :=
  c.worker = none ∧ HandsOver take R Q c.request c.store ∨
    ∃ handed rest, Q handed rest ∧ Racing φ task (dequeue handed) handed rest c

variable {dequeue : σ → σ}

theorem reached_step (hQ : ∀ s p, Q s p → Apart take φ task (dequeue s) s p)
    (hc : Reached take R Q φ task dequeue c) (a : Actor) :
    Reached take R Q φ task dequeue (c.step take a) := by
  rcases hc with ⟨hworker, hready⟩ | ⟨handed, rest, hhanded, hrace⟩
  · cases a with
    | worker =>
      have hidle : c.step take .worker = c := by
        simp [Handoff.step, hworker, hready.take_eq]
      rw [hidle]
      exact .inl ⟨hworker, hready⟩
    | request =>
      obtain ⟨store, request, worker⟩ := c
      obtain rfl : worker = none := hworker
      cases request with
      | ret a => exact .inl ⟨rfl, hready⟩
      | raise e => exact .inl ⟨rfl, hready⟩
      | stmt w n =>
        rcases hready.2.2 with hnext | hhanded
        · exact .inl ⟨rfl, hnext⟩
        · exact .inr ⟨_, _, hhanded, racing_handed⟩
  · exact .inr ⟨handed, rest, hhanded, racing_step (hQ _ _ hhanded) hrace a⟩

theorem reached_run (hQ : ∀ s p, Q s p → Apart take φ task (dequeue s) s p)
    {p : Program σ ε α} {s : σ} (hready : HandsOver take R Q p s) (schedule : List Actor) :
    Reached take R Q φ task dequeue (Handoff.run take ⟨s, p, none⟩ schedule) := by
  have hstart : Reached take R Q φ task dequeue ⟨s, p, none⟩ := .inl ⟨rfl, hready⟩
  exact invariant_runFrom (I := Reached take R Q φ task dequeue)
    (fun _ a hc => reached_step hQ hc a) hstart schedule

/-- Once the worker has the task, the state is after the handoff. -/
theorem racing_of_worker (hc : Reached take R Q φ task dequeue c) {q : Program σ ε β}
    (hq : c.worker = some q) :
    ∃ handed rest, Q handed rest ∧ Racing φ task (dequeue handed) handed rest c := by
  rcases hc with ⟨hworker, -⟩ | hrace
  · cases hworker.symm.trans hq
  · exact hrace

/-- What every statement of the request does, every statement of the request left does. -/
theorem writes_request_run {p : Program σ ε α} (hp : p.Writes R) (s : σ)
    (schedule : List Actor) : (Handoff.run take ⟨s, p, none⟩ schedule).request.Writes R := by
  refine invariant_runFrom (I := fun c : Handoff σ ε α β => c.request.Writes R)
    (fun c a hc => ?_) hp schedule
  cases a with
  | request => exact hc.next _
  | worker =>
    simp only [Handoff.step]
    split
    · exact hc
    · split <;> exact hc

/-- When both have ended the store is the one the task leaves when it runs alone, after `φ`. -/
theorem store_of_ended (h : Apart take φ task taken handed rest)
    (hc : Racing φ task taken handed rest c) (hrequest : c.request.isStmt = false)
    {q : Program σ ε β} (hq : c.worker = some q) (hdone : q.isStmt = false) :
    c.store = φ (task.run taken).2 ∧ (q.run c.store).1 = (task.run taken).1 := by
  obtain ⟨mark, k, hmark, hworker, hstore⟩ := hc
  generalize hp : c.request = p at hmark hrequest
  cases hmark with
  | before => exact absurd (h.isStmt.symm.trans hrequest) (by decide)
  | after p hreads =>
    cases k with
    | zero => cases hworker.symm.trans hq
    | succ k =>
      obtain rfl := Option.some.inj (hworker.symm.trans hq)
      have hrun := task.run_advance k taken
      have hend (s : σ) : (task.advance k taken).1.run s =
          ((task.advance k taken).1.run (task.advance k taken).2 |>.1, s) := by
        cases hp : (task.advance k taken).1 with
        | stmt w n => simp [hp] at hdone
        | ret a => rfl
        | raise e => rfl
      rw [hend, ← hrun, hend]
      exact ⟨hstore, rfl⟩

/-! ### What an observer of the store sees -/

variable {ω : Type} {observe : σ → ω} {M : ω → ω → Prop} {P : β → σ → Prop}

theorem observe_mark (hφ : ∀ s, observe (φ s) = observe s) {p : Program σ ε α}
    (hp : Marks φ rest mark p) (s : σ) : observe (mark s) = observe s := by
  cases hp with
  | before => rfl
  | after p hreads => exact hφ s

/-- An observer that `φ` is hidden from sees the moves of the task, and no other. -/
theorem moves_of_racing [Std.Refl M] (h : Apart take φ task taken handed rest)
    (hφ : ∀ s, observe (φ s) = observe s) (htaken : observe taken = observe handed)
    (htask : task.Traces (fun s t => M (observe s) (observe t)) P taken)
    (hc : Racing φ task taken handed rest c) (a : Actor) :
    M (observe c.store) (observe (c.step take a).store) := by
  obtain ⟨mark, k, hmark, hworker, hstore⟩ := hc
  cases a with
  | request =>
    obtain ⟨mark', hmark', hwrite⟩ := marks_request h (alone task taken handed k).2 hmark
    have hstep : (c.step take .request).store = mark' (alone task taken handed k).2 := by
      rw [← hwrite, ← hstore]
      rfl
    rw [hstep, hstore, observe_mark hφ hmark, observe_mark hφ hmark']
    exact refl _
  | worker =>
    rw [step_worker h hmark hworker hstore, hstore, observe_mark hφ hmark, observe_mark hφ hmark]
    cases k with
    | zero => simpa [alone, htaken] using refl (observe handed)
    | succ k =>
      simp only [alone, Program.advance_succ]
      exact (htask.advance k).write

theorem moves_of_reached [Std.Refl M] (hQ : ∀ s p, Q s p → Apart take φ task (dequeue s) s p)
    (hφ : ∀ s, observe (φ s) = observe s) (hdequeue : ∀ s, observe (dequeue s) = observe s)
    (htask : ∀ s p, Q s p →
      task.Traces (fun s t => M (observe s) (observe t)) P (dequeue s))
    (hc : Reached take (fun s t => M (observe s) (observe t)) Q φ task dequeue c) (a : Actor) :
    M (observe c.store) (observe (c.step take a).store) := by
  rcases hc with ⟨hworker, hready⟩ | ⟨handed, rest, hhanded, hrace⟩
  · cases a with
    | worker =>
      simp only [Handoff.step, hworker, hready.take_eq]
      exact refl _
    | request =>
      cases hp : c.request with
      | ret a => simpa [Handoff.step, hp, Program.write] using refl (observe c.store)
      | raise e => simpa [Handoff.step, hp, Program.write] using refl (observe c.store)
      | stmt w n =>
        rw [hp] at hready
        simpa [Handoff.step, hp] using hready.2.1
  · exact moves_of_racing (hQ _ _ hhanded) hφ (hdequeue handed) (htask _ _ hhanded) hrace a

end DevSecOpsPlatform.TaskHandoff
