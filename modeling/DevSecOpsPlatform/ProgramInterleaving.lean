import DevSecOpsPlatform.GuardedRuns
import DevSecOpsPlatform.StatementPrograms

/-!
# Interleavings of statement programs

A pool is a store with the threads that run over it. A thread has a name, the number of
statements it has executed, and what is left of its program. A step of thread `i`
executes its next statement, and does nothing once the thread has finished; a schedule is
any list of thread numbers. Nothing is assumed about fairness: what holds after every
schedule holds in every state that any order of the statements reaches.
-/

namespace DevSecOpsPlatform.ProgramInterleaving

open GuardedRuns StatementPrograms

structure Thread (ρ σ ε α : Type) where
  name : ρ
  executed : ℕ
  rest : Program σ ε α

structure Pool (ρ σ ε α : Type) where
  store : σ
  threads : List (Thread ρ σ ε α)

variable {ρ σ ε α : Type}

/-- The thread after its next statement, which sees the store `s`. -/
def Thread.advance (t : Thread ρ σ ε α) (s : σ) : Thread ρ σ ε α where
  name := t.name
  executed := t.executed + 1
  rest := t.rest.next s

namespace Pool

/-- One thread for each name, with the program that the name stands for. -/
def start (program : ρ → Program σ ε α) (store : σ) (names : List ρ) : Pool ρ σ ε α where
  store := store
  threads := names.map (fun r => ⟨r, 0, program r⟩)

def step (c : Pool ρ σ ε α) (i : ℕ) : Pool ρ σ ε α :=
  match c.threads[i]? with
  | some t =>
    if t.rest.isStmt then ⟨t.rest.write c.store, c.threads.set i (t.advance c.store)⟩ else c
  | none => c

def run (c : Pool ρ σ ε α) (schedule : List ℕ) : Pool ρ σ ε α := runFrom step c schedule

/-- Every thread has returned or raised. -/
def Finished (c : Pool ρ σ ε α) : Prop := ∀ t ∈ c.threads, t.rest.isStmt = false

/-- What a step can do: nothing, or execute the next statement of one thread. -/
theorem step_cases (c : Pool ρ σ ε α) (i : ℕ) :
    c.step i = c ∨ ∃ t, c.threads[i]? = some t ∧ t.rest.isStmt = true ∧
      c.step i = ⟨t.rest.write c.store, c.threads.set i (t.advance c.store)⟩ := by
  unfold step
  cases h : c.threads[i]? with
  | none => exact .inl rfl
  | some t =>
    cases hs : t.rest.isStmt with
    | false => exact .inl (by simp [hs])
    | true => exact .inr ⟨t, rfl, hs, by simp [hs]⟩

/-- A thread after a step is the one that moved, or was there before. -/
theorem mem_set_cases {l : List (Thread ρ σ ε α)} {i : ℕ} {t u : Thread ρ σ ε α}
    (h : u ∈ l.set i t) : u = t ∨ u ∈ l :=
  (List.mem_or_eq_of_mem_set h).symm

/-- If every statement of every thread is in `R`, so is every step of the pool, and the
threads it leaves have only such statements. -/
theorem writes_step {R : σ → σ → Prop} [Std.Refl R] {c : Pool ρ σ ε α}
    (h : ∀ t ∈ c.threads, t.rest.Writes R) (i : ℕ) :
    R c.store (c.step i).store ∧ ∀ t ∈ (c.step i).threads, t.rest.Writes R := by
  obtain hs | ⟨t, hi, hstmt, hs⟩ := c.step_cases i
  · rw [hs]
    exact ⟨refl _, h⟩
  · have ht := h t (List.mem_of_getElem? hi)
    rw [hs]
    refine ⟨ht.write hstmt _, fun u hu => ?_⟩
    rcases mem_set_cases hu with rfl | hu
    · exact ht.next c.store
    · exact h u hu

end Pool

end DevSecOpsPlatform.ProgramInterleaving
