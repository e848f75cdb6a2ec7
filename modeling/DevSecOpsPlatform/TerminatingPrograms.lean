import DevSecOpsPlatform.BudgetedPrograms
import DevSecOpsPlatform.GuardedRuns
import Mathlib.Logic.Hydra
import Mathlib.Order.WellFounded

/-!
# Programs and runs that come to an end

A program is a tree without infinite branches, so each of its statements leaves a smaller one.
A run of many of them is finite as well, when what a move starts is counted below what it ends:
the programs that run, in the order of multisets, are the measure. What a program will have done
when it ends is `Reaches`: a condition on the store that one of its statements makes true, unless
the program ends with a value or an exception for which nothing is promised.
-/

namespace DevSecOpsPlatform.GuardedRuns

variable {S A : Type} {step : S → A → S} {I : S → Prop} {active : S → A → Prop} {β : Type}
  {r : β → β → Prop} {μ : S → β}

/-- Where every move that has something to do lowers a measure, no schedule always finds one. -/
theorem exists_not_active [IsWellFounded β r] (hI : ∀ s a, I s → active s a → I (step s a))
    (hμ : ∀ s a, I s → active s a → r (μ (step s a)) (μ s)) {s : S} (hs : I s)
    (schedule : ℕ → A) :
    ∃ n, ¬ active (runFrom step s ((List.range n).map schedule)) (schedule n) := by
  by_contra! h
  have hrun (n : ℕ) : runFrom step s ((List.range (n + 1)).map schedule) =
      step (runFrom step s ((List.range n).map schedule)) (schedule n) := by
    rw [List.range_succ, List.map_append, runFrom_append]
    rfl
  have hinv (n : ℕ) : I (runFrom step s ((List.range n).map schedule)) := by
    induction n with
    | zero => exact hs
    | succ n ih =>
      rw [hrun]
      exact hI _ _ ih (h n)
  obtain ⟨n, hn⟩ := WellFounded.not_rel_apply_succ (r := r)
    fun n => μ (runFrom step s ((List.range n).map schedule))
  rw [hrun] at hn
  exact hn (hμ _ _ (hinv n) (h n))

/-- From every state some moves lead to one where nothing is left to do. -/
theorem exists_rest [IsWellFounded β r] {good : A → Prop}
    (hI : ∀ s a, I s → active s a → I (step s a))
    (hμ : ∀ s a, I s → active s a → r (μ (step s a)) (μ s))
    (hgood : ∀ s a, active s a → ∃ b, good b ∧ active s b) {s : S} (hs : I s) :
    ∃ as, (∀ a ∈ as, good a) ∧ ∀ a, ¬ active (runFrom step s as) a := by
  induction hb : μ s using IsWellFounded.induction r generalizing s with
  | ind b ih =>
    by_cases hactive : ∃ a, active s a
    · obtain ⟨a, ha⟩ := hactive
      obtain ⟨a, hagood, ha⟩ := hgood s a ha
      obtain ⟨as, has, hrest⟩ := ih (μ (step s a)) (hb ▸ hμ s a hs ha) (hI s a hs ha) rfl
      exact ⟨a :: as, List.forall_mem_cons.mpr ⟨hagood, has⟩, hrest⟩
    · exact ⟨[], by simp, fun a ha => hactive ⟨a, ha⟩⟩

end DevSecOpsPlatform.GuardedRuns

namespace DevSecOpsPlatform.StatementPrograms

/-- One of a list is replaced by a smaller one. -/
theorem cutExpand_set {α : Type} {r : α → α → Prop} {l : List α} {i : ℕ} {a b : α}
    (hi : l[i]? = some a) (h : r b a) :
    Relation.CutExpand r (l.set i b : Multiset α) (l : Multiset α) := by
  induction l generalizing i with
  | nil => cases hi
  | cons x l ih =>
    cases i with
    | zero =>
      obtain rfl := Option.some.inj hi
      exact Relation.cutExpand_single_add h l
    | succ i => exact (Relation.cutExpand_add_left {x}).mpr (ih hi)

instance isWellFounded_cutExpand {α : Type} {r : α → α → Prop} [IsWellFounded α r] :
    IsWellFounded (Multiset α) (Relation.CutExpand r) := ⟨IsWellFounded.wf.cutExpand⟩

namespace Program

variable {σ ε α β : Type}

/-- What a program has left after its next statement. -/
inductive Remainder : Program σ ε α → Program σ ε α → Prop where
  | next (write : σ → σ) (next : σ → Program σ ε α) (s : σ) : Remainder (next s) (stmt write next)

theorem remainder_next {p : Program σ ε α} (h : p.isStmt = true) (s : σ) :
    Remainder (p.next s) p := by
  cases p with
  | ret a => cases h
  | raise e => cases h
  | stmt write next => exact .next write next s

instance : IsWellFounded (Program σ ε α) Remainder where
  wf := by
    refine ⟨fun p => ?_⟩
    induction p with
    | ret a => exact ⟨_, fun q h => by cases h⟩
    | raise e => exact ⟨_, fun q h => by cases h⟩
    | stmt write next ih =>
      refine ⟨_, fun q h => ?_⟩
      cases h with
      | next _ _ s => exact ih s

/-! ### What a program will have done -/

/-- One of the statements left makes `K` true, whatever the store is before it, or the program
returns a value in `V` or raises an exception in `E`. -/
def Reaches (K : σ → Prop) (V : α → Prop) (E : ε → Prop) : Program σ ε α → Prop
  | ret a => V a
  | raise e => E e
  | stmt write next => ∀ s, K (write s) ∨ (next s).Reaches K V E

/-- Whenever a statement ends `K`, one that is left makes it true again, or the program raises an
exception in `E`. -/
def Restores (K : σ → Prop) (E : ε → Prop) : Program σ ε α → Prop
  | ret _ => True
  | raise _ => True
  | stmt write next => ∀ s,
    (K s → K (write s) ∨ (next s).Reaches K (fun _ => False) E) ∧ (next s).Restores K E

variable {K : σ → Prop} {V : α → Prop} {E : ε → Prop}

theorem Reaches.next {p : Program σ ε α} (hp : p.Reaches K V E) (s : σ) :
    K (p.write s) ∨ (p.next s).Reaches K V E := by
  cases p with
  | ret a => exact .inr hp
  | raise e => exact .inr hp
  | stmt write next => exact hp s

theorem Reaches.bind {W : β → Prop} {p : Program σ ε α} {f : α → Program σ ε β}
    (hp : p.Reaches K V E) (hf : ∀ a, V a → (f a).Reaches K W E) :
    (p >>= f).Reaches K W E := by
  induction p with
  | ret a => exact hf a hp
  | raise e => exact hp
  | stmt write next ih => exact fun s => (hp s).imp_right (ih s)

theorem Reaches.attempt {p : Program σ ε α} (hp : p.Reaches K V E) :
    p.attempt.Reaches K (fun x => (∃ a, x = .ok a ∧ V a) ∨ ∃ e, x = .error e ∧ E e)
      (fun _ => False) := by
  induction p with
  | ret a => exact .inl ⟨a, rfl, hp⟩
  | raise e => exact .inr ⟨e, rfl, hp⟩
  | stmt write next ih => exact fun s => (hp s).imp_right (ih s)

/-- A program for which every end is admitted. -/
theorem reaches_true (p : Program σ ε α) :
    p.Reaches K (fun _ => True) (fun _ => True) := by
  induction p with
  | ret a => trivial
  | raise e => trivial
  | stmt write next ih => exact fun s => .inr (ih s)

theorem reaches_statement_bind {W : β → Prop} {f : σ → Except ε (α × σ)}
    {g : α → Program σ ε β} (hok : ∀ s a t, f s = .ok (a, t) → K t ∨ (g a).Reaches K W E)
    (herror : ∀ s e, f s = .error e → K s ∨ E e) : (statement f >>= g).Reaches K W E := by
  intro s
  cases hf : f s with
  | ok result =>
    simp only [hf]
    exact hok s result.1 result.2 hf
  | error e =>
    simp only [hf]
    exact herror s e hf

theorem Restores.next {p : Program σ ε α} (hp : p.Restores K E) (s : σ) :
    (p.next s).Restores K E := by
  cases p with
  | ret a => exact hp
  | raise e => exact hp
  | stmt write next => exact (hp s).2

theorem Restores.write {p : Program σ ε α} (hp : p.Restores K E) {s : σ} (hs : K s) :
    K (p.write s) ∨ (p.next s).Reaches K (fun _ => False) E := by
  cases p with
  | ret a => exact .inl hs
  | raise e => exact .inl hs
  | stmt write next => exact (hp s).1 hs

theorem Writes.restores {p : Program σ ε α} (hp : p.Writes (Preserving K)) :
    p.Restores K E := by
  induction p with
  | ret a => trivial
  | raise e => trivial
  | stmt write next ih => exact fun s => ⟨fun hs => .inl ((hp s).1 hs), ih s (hp s).2⟩

theorem Writes.restores_bind {p : Program σ ε α} {f : α → Program σ ε β}
    (hp : p.Writes (Preserving K)) (hf : ∀ a, (f a).Restores K E) :
    (p >>= f).Restores K E := by
  induction p with
  | ret a => exact hf a
  | raise e => trivial
  | stmt write next ih => exact fun s => ⟨fun hs => .inl ((hp s).1 hs), ih s (hp s).2⟩

/-- A statement that raises has not ended `K`. -/
theorem restores_statement_bind {f : σ → Except ε (α × σ)} {g : α → Program σ ε β}
    (h : ∀ s a t, f s = .ok (a, t) →
      (K s → K t ∨ (g a).Reaches K (fun _ => False) E) ∧ (g a).Restores K E) :
    (statement f >>= g).Restores K E := by
  intro s
  cases hf : f s with
  | ok result =>
    simp only [hf]
    exact h s result.1 result.2 hf
  | error e =>
    simp only [hf]
    exact ⟨.inl, trivial⟩

end Program

end DevSecOpsPlatform.StatementPrograms
