import DevSecOpsPlatform.StatementPrograms
import Mathlib.Logic.Relation

/-!
# Programs that spend a budget

A potential counts something in the store. A budgeted program is one whose statements raise
the potential by no more than they take from its budget, whatever store they find. When the
holders of a list each keep within a budget of their own, the potential together with the
budgets that are left is a bound that no step exceeds, in any order of the steps.

`Spends` is for programs that need to know this: a statement may take it that the others have
made steps in `G` only, and that the potential and the budget of the program are within the
total, so that what the program has not spent yet nobody else has. In return its own steps
are in `G`.

`Keeps` is for an invariant of the store: each statement may take it to hold. Nothing is counted
while the invariant holds, so a program that keeps it spends nothing.
-/

namespace DevSecOpsPlatform.StatementPrograms

namespace Program

variable {σ ε α β : Type} {φ : σ → ℕ}

def Budgeted (φ : σ → ℕ) : ℕ → Program σ ε α → Prop
  | _, ret _ => True
  | _, raise _ => True
  | b, stmt w n => ∀ s, ∃ left, φ (w s) + left ≤ φ s + b ∧ Budgeted φ left (n s)

/-- The statement raises the potential not at all. -/
def NotRaising (φ : σ → ℕ) (s t : σ) : Prop := φ t ≤ φ s

instance : Std.Refl (NotRaising φ) := ⟨fun _ => Nat.le_refl _⟩

@[simp] theorem budgeted_ret (b : ℕ) (a : α) : (ret a : Program σ ε α).Budgeted φ b := trivial

@[simp] theorem budgeted_raise (b : ℕ) (e : ε) : (raise e : Program σ ε α).Budgeted φ b := trivial

/-- What never raises the potential keeps within every budget. -/
theorem Writes.budgeted {p : Program σ ε α} (hp : p.Writes (NotRaising φ)) (b : ℕ) :
    p.Budgeted φ b := by
  induction p with
  | ret a => trivial
  | raise e => trivial
  | stmt w n ih => exact fun s => ⟨b, Nat.add_le_add_right (hp s).1 b, ih s (hp s).2⟩

/-- What does not raise the potential leaves the whole budget to what follows. -/
theorem Writes.budgeted_bind {b : ℕ} {p : Program σ ε α} {f : α → Program σ ε β}
    (hp : p.Writes (NotRaising φ)) (hf : ∀ a, (f a).Budgeted φ b) : (p >>= f).Budgeted φ b := by
  induction p with
  | ret a => exact hf a
  | raise e => trivial
  | stmt w n ih => exact fun s => ⟨b, Nat.add_le_add_right (hp s).1 b, ih s (hp s).2⟩

theorem budgeted_statement_bind {b : ℕ} {f : σ → Except ε (α × σ)} {g : α → Program σ ε β}
    (h : ∀ s a t, f s = .ok (a, t) → ∃ left, φ t + left ≤ φ s + b ∧ (g a).Budgeted φ left) :
    (statement f >>= g).Budgeted φ b := by
  intro s
  cases hf : f s with
  | error e => exact ⟨b, by simp [hf], by simp [hf, Program.bind]⟩
  | ok r => simpa [hf, Program.bind] using h s r.1 r.2 hf

theorem budgeted_query_bind {b : ℕ} {f : σ → α} {g : α → Program σ ε β}
    (h : ∀ s, (g (f s)).Budgeted φ b) : (query f >>= g).Budgeted φ b :=
  fun s => ⟨b, Nat.le_refl _, h s⟩

theorem Budgeted.mono {b c : ℕ} {p : Program σ ε α} (hp : p.Budgeted φ b) (hle : b ≤ c) :
    p.Budgeted φ c := by
  cases p with
  | ret a => trivial
  | raise e => trivial
  | stmt w n =>
    intro s
    obtain ⟨left, hspent, hnext⟩ := hp s
    exact ⟨left, by omega, hnext⟩

/-- A sequence keeps within the budgets of its parts. -/
theorem Budgeted.bind {b c : ℕ} {p : Program σ ε α} {f : α → Program σ ε β} (hp : p.Budgeted φ b)
    (hf : ∀ a, (f a).Budgeted φ c) : (p >>= f).Budgeted φ (b + c) := by
  induction p generalizing b with
  | ret a => exact (hf a).mono (Nat.le_add_left c b)
  | raise e => trivial
  | stmt w n ih =>
    intro s
    obtain ⟨left, hspent, hnext⟩ := hp s
    exact ⟨left + c, by omega, ih s hnext⟩

/-- Budgets for two potentials are one for both. -/
theorem Budgeted.add {ψ : σ → ℕ} {b c : ℕ} {p : Program σ ε α} (hp : p.Budgeted φ b)
    (hψ : p.Budgeted ψ c) : p.Budgeted (fun s => φ s + ψ s) (b + c) := by
  induction p generalizing b c with
  | ret a => trivial
  | raise e => trivial
  | stmt w n ih =>
    intro s
    obtain ⟨left, hspent, hnext⟩ := hp s
    obtain ⟨left', hspent', hnext'⟩ := hψ s
    exact ⟨left + left', by dsimp only; omega, ih s hnext hnext'⟩

/-! ### Budgets that are known to be within a total -/

variable {N : ℕ} {G : σ → σ → Prop} {b : ℕ} {s t : σ}

def Spends (N : ℕ) (φ : σ → ℕ) (G : σ → σ → Prop) : ℕ → Program σ ε α → σ → Prop
  | _, ret _, _ => True
  | _, raise _, _ => True
  | b, stmt w n, s => ∀ t, Relation.ReflTransGen G s t → φ t + b ≤ N →
    G t (w t) ∧ ∃ left, φ (w t) + left ≤ φ t + b ∧ Spends N φ G left (n t) (w t)

/-- Steps of which nothing is known. -/
def AnyStep (_ _ : σ) : Prop := True

instance : Std.Refl (AnyStep (σ := σ)) := ⟨fun _ => trivial⟩

theorem writes_anyStep (p : Program σ ε α) : p.Writes AnyStep := by
  induction p with
  | ret a => trivial
  | raise e => trivial
  | stmt w n ih => exact fun s => ⟨trivial, ih s⟩

@[simp] theorem spends_ret (a : α) : (ret a : Program σ ε α).Spends N φ G b s := trivial

@[simp] theorem spends_raise (e : ε) : (raise e : Program σ ε α).Spends N φ G b s := trivial

/-- What keeps within its budget wherever it is keeps within it here. -/
theorem Budgeted.spends {p : Program σ ε α} (hp : p.Budgeted φ b) (hG : p.Writes G) :
    p.Spends N φ G b s := by
  induction p generalizing b s with
  | ret a => trivial
  | raise e => trivial
  | stmt w n ih =>
    intro t _ _
    obtain ⟨left, hle, hnext⟩ := hp t
    exact ⟨(hG t).1, left, hle, ih t hnext (hG t).2⟩

/-- Where nothing is counted, it is enough to make steps in the relation. -/
theorem Writes.spends {p : Program σ ε α} (hp : p.Writes G) : p.Spends N (fun _ => 0) G b s :=
  ((hp.mono fun _ _ _ => Nat.le_refl 0).budgeted b).spends hp

/-- The others make steps in the relation. -/
theorem Spends.stable {p : Program σ ε α} (hp : p.Spends N φ G b s) (h : G s t) :
    p.Spends N φ G b t := by
  cases p with
  | ret a => trivial
  | raise e => trivial
  | stmt w n => exact fun u hu => hp u (.head h hu)

theorem Spends.step [Std.Refl G] {p : Program σ ε α} (hp : p.Spends N φ G b s)
    (hN : φ s + b ≤ N) : G s (p.write s) ∧ ∃ left, φ (p.write s) + left ≤ φ s + b ∧
      (p.next s).Spends N φ G left (p.write s) := by
  cases p with
  | ret a => exact ⟨refl s, b, Nat.le_refl _, trivial⟩
  | raise e => exact ⟨refl s, b, Nat.le_refl _, trivial⟩
  | stmt w n => exact hp s .refl hN

theorem spends_statement_bind [Std.Refl G] {f : σ → Except ε (α × σ)} {g : α → Program σ ε β}
    (h : ∀ u a t, Relation.ReflTransGen G s u → φ u + b ≤ N → f u = .ok (a, t) →
      G u t ∧ ∃ left, φ t + left ≤ φ u + b ∧ (g a).Spends N φ G left t) :
    (statement f >>= g).Spends N φ G b s := by
  intro u hu hN
  cases hf : f u with
  | error e => exact ⟨by simpa [hf] using refl u, b, by simp [hf], by simp [hf, Program.bind]⟩
  | ok r => simpa [hf, Program.bind] using h u r.1 r.2 hu hN hf

theorem spends_query_bind [Std.Refl G] {f : σ → α} {g : α → Program σ ε β}
    (h : ∀ u, Relation.ReflTransGen G s u → (g (f u)).Spends N φ G b u) :
    (query f >>= g).Spends N φ G b s :=
  fun u hu _ => ⟨refl u, b, Nat.le_refl _, h u hu⟩

theorem spends_ofExcept_bind {x : Except ε α} {g : α → Program σ ε β}
    (h : ∀ a, x = .ok a → (g a).Spends N φ G b s) : (ofExcept x >>= g).Spends N φ G b s := by
  cases x with
  | ok a => exact h a rfl
  | error e => trivial

instance [Std.Refl G] : Std.Refl fun s t => NotRaising φ s t ∧ G s t :=
  ⟨fun s => ⟨refl s, refl s⟩⟩

/-- What every step keeps, any number of steps keeps. -/
theorem keeps_steps {K : σ → Prop} (hK : ∀ s t, G s t → K s → K t)
    (h : Relation.ReflTransGen G s t) (hs : K s) : K t := by
  induction h with
  | refl => exact hs
  | tail _ hstep ih => exact hK _ _ hstep ih

/-- What does not raise the potential leaves the whole budget to what follows, and what holds
by then and is kept by the others still holds. -/
theorem Writes.spends_bind {K : σ → Prop} {p : Program σ ε α}
    {f : α → Program σ ε β} (hp : p.Writes fun s t => NotRaising φ s t ∧ G s t)
    (hK : ∀ s t, G s t → K s → K t) (hs : K s)
    (hf : ∀ a t, K t → (f a).Spends N φ G b t) : (p >>= f).Spends N φ G b s := by
  induction p generalizing s with
  | ret a => exact hf a s hs
  | raise e => trivial
  | stmt w n ih =>
    intro t ht _
    obtain ⟨⟨hle, hG⟩, hnext⟩ := hp t
    exact ⟨hG, b, Nat.add_le_add_right hle b, ih t hnext (hK _ _ hG (keeps_steps hK ht hs))⟩

/-! ### Invariants -/

variable {K : σ → Prop}

/-- Every statement keeps the invariant, and may take it to hold. -/
def Keeps (K : σ → Prop) : Program σ ε α → Prop
  | ret _ => True
  | raise _ => True
  | stmt w n => ∀ s, K s → K (w s) ∧ Keeps K (n s)

def Preserving (K : σ → Prop) (s t : σ) : Prop := K s → K t

instance : Std.Refl (Preserving K) := ⟨fun _ h => h⟩

@[simp] theorem keeps_ret (a : α) : (ret a : Program σ ε α).Keeps K := trivial

@[simp] theorem keeps_raise (e : ε) : (raise e : Program σ ε α).Keeps K := trivial

/-- What keeps the invariant without a look at what it finds. -/
theorem Writes.keeps {p : Program σ ε α} (hp : p.Writes (Preserving K)) : p.Keeps K := by
  induction p with
  | ret a => trivial
  | raise e => trivial
  | stmt w n ih => exact fun s hs => ⟨(hp s).1 hs, ih s (hp s).2⟩

theorem Keeps.bind {p : Program σ ε α} {f : α → Program σ ε β} (hp : p.Keeps K)
    (hf : ∀ a, (f a).Keeps K) : (p >>= f).Keeps K := by
  induction p with
  | ret a => exact hf a
  | raise e => trivial
  | stmt w n ih => exact fun s hs => ⟨(hp s hs).1, ih s (hp s hs).2⟩

/-- What a sequence keeps, its first part keeps. -/
theorem Keeps.of_bind {p : Program σ ε α} {f : α → Program σ ε β} (h : (p >>= f).Keeps K) :
    p.Keeps K := by
  induction p with
  | ret a => trivial
  | raise e => trivial
  | stmt w n ih => exact fun s hs => ⟨(h s hs).1, ih s (h s hs).2⟩

theorem keeps_statement_bind {f : σ → Except ε (α × σ)} {g : α → Program σ ε β}
    (h : ∀ s a t, K s → f s = .ok (a, t) → K t ∧ (g a).Keeps K) :
    (statement f >>= g).Keeps K := by
  intro s hs
  cases hf : f s with
  | error e => simpa [hf, Program.bind] using hs
  | ok r => simpa [hf, Program.bind] using h s r.1 r.2 hs hf

open Classical in
/-- What is counted of an invariant: nothing while it holds. -/
noncomputable def breach (K : σ → Prop) (s : σ) : ℕ := if K s then 0 else 1

theorem breach_le_zero : breach K s ≤ 0 ↔ K s := by
  unfold breach
  split <;> simp_all

theorem Keeps.spends {p : Program σ ε α} (hp : p.Keeps K) :
    p.Spends 0 (breach K) AnyStep 0 s := by
  induction p generalizing s with
  | ret a => trivial
  | raise e => trivial
  | stmt w n ih =>
    intro t _ hN
    obtain ⟨hafter, hnext⟩ := hp t (breach_le_zero.mp hN)
    exact ⟨trivial, 0, Nat.le_trans (breach_le_zero.mpr hafter) (Nat.zero_le _), ih t hnext⟩

end Program

section

variable {ι : Type} {holds holds' : ℕ → ι → Prop} {l : List ι} {k : ℕ}

/-- Each of the list holds a budget, and together they hold `k`. -/
inductive Holding (holds : ℕ → ι → Prop) : List ι → ℕ → Prop where
  | nil : Holding holds [] 0
  | cons {b k : ℕ} {x : ι} {l : List ι} (hx : holds b x) (hl : Holding holds l k) :
    Holding holds (x :: l) (b + k)

theorem holding_zero (h : ∀ x ∈ l, holds 0 x) : Holding holds l 0 := by
  induction l with
  | nil => exact .nil
  | cons x l ih => exact .cons (h x List.mem_cons_self) (ih fun y hy => h y (.tail x hy))

theorem Holding.mono (h : Holding holds l k) (hholds : ∀ b x, holds b x → holds' b x) :
    Holding holds' l k := by
  induction h with
  | nil => exact .nil
  | cons hx _ ih => exact .cons (hholds _ _ hx) ih

theorem Holding.concat (h : Holding holds l k) {b : ℕ} {x : ι} (hx : holds b x) :
    Holding holds (l ++ [x]) (b + k) := by
  induction h with
  | nil => exact .cons hx .nil
  | @cons c k y l hy _ ih =>
    rw [Nat.add_left_comm]
    exact .cons hy ih

/-- One of the list takes a step; what it holds is part of what they hold together. -/
theorem Holding.set (h : Holding holds l k) (holds' : ℕ → ι → Prop) {i : ℕ} {x : ι}
    (hi : l[i]? = some x) :
    ∃ b rest, k = b + rest ∧ holds b x ∧ ∀ left y, (∀ b x, holds b x → holds' b x) →
      holds' left y → Holding holds' (l.set i y) (left + rest) := by
  induction h generalizing i with
  | nil => cases hi
  | @cons c k z l hz hl ih =>
    cases i with
    | zero =>
      obtain rfl := Option.some.inj hi
      exact ⟨c, k, rfl, hz, fun left y hholds hy => .cons hy (hl.mono hholds)⟩
    | succ i =>
      obtain ⟨b, rest, rfl, hb, hset⟩ := ih hi
      refine ⟨b, c + rest, Nat.add_left_comm .., hb, fun left y hholds hy => ?_⟩
      rw [Nat.add_left_comm]
      exact .cons (hholds _ _ hz) (hset left y hholds hy)

end

end DevSecOpsPlatform.StatementPrograms
