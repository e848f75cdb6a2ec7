import DevSecOpsPlatform.StatementPrograms
import Mathlib.Data.List.Forall2

/-!
# Programs that go on alike

Two programs, each over a store of its own, mirror each other when they execute their statements
in step: whenever the stores are related, the next statements leave related stores, and in the
end both return related values or raise the same exception. One run then tells what the other
does, and what an observer of the values learns is no more than what related stores share.
-/

namespace DevSecOpsPlatform.StatementPrograms.Program

variable {σ τ ε α β γ δ : Type} {R : σ → τ → Prop} {V : α → β → Prop} {W : γ → δ → Prop}

def Mirrors (R : σ → τ → Prop) (V : α → β → Prop) : Program σ ε α → Program τ ε β → Prop
  | ret a, ret b => V a b
  | raise e, raise e' => e = e'
  | stmt w n, stmt w' n' => ∀ s t, R s t → R (w s) (w' t) ∧ Mirrors R V (n s) (n' t)
  | _, _ => False

/-- Results of two statements. -/
def SameOutcome (R : σ → τ → Prop) (V : α → β → Prop) :
    Except ε (α × σ) → Except ε (β × τ) → Prop
  | .ok r, .ok r' => V r.1 r'.1 ∧ R r.2 r'.2
  | .error e, .error e' => e = e'
  | _, _ => False

theorem mirrors_ret {a : α} {b : β} (h : V a b) :
    (ret a : Program σ ε α).Mirrors R V (ret b : Program τ ε β) := h

theorem mirrors_raise (e : ε) :
    (raise e : Program σ ε α).Mirrors R V (raise e : Program τ ε β) := rfl

theorem Mirrors.bind {p : Program σ ε α} {q : Program τ ε β} {f : α → Program σ ε γ}
    {g : β → Program τ ε δ} (hp : p.Mirrors R V q) (hf : ∀ a b, V a b → (f a).Mirrors R W (g b)) :
    (p >>= f).Mirrors R W (q >>= g) := by
  induction p generalizing q with
  | ret a =>
    cases q with
    | ret b => exact hf a b hp
    | raise e => exact hp.elim
    | stmt w n => exact hp.elim
  | raise e =>
    cases q with
    | ret b => exact hp.elim
    | raise e' => exact hp
    | stmt w n => exact hp.elim
  | stmt w n ih =>
    cases q with
    | ret b => exact hp.elim
    | raise e => exact hp.elim
    | stmt w' n' => exact fun s t hR => ⟨(hp s t hR).1, ih s (hp s t hR).2⟩

/-- Where the first parts return the same values. -/
theorem Mirrors.bind_eq {p : Program σ ε α} {q : Program τ ε α} {f : α → Program σ ε γ}
    {g : α → Program τ ε δ} (hp : p.Mirrors R Eq q) (hf : ∀ a, (f a).Mirrors R W (g a)) :
    (p >>= f).Mirrors R W (q >>= g) :=
  hp.bind fun a _ heq => heq ▸ hf a

theorem Mirrors.attempt {p : Program σ ε α} {q : Program τ ε α} (hp : p.Mirrors R Eq q) :
    p.attempt.Mirrors R Eq q.attempt := by
  induction p generalizing q with
  | ret a =>
    cases q with
    | ret b => exact congrArg Except.ok hp
    | raise e => exact hp.elim
    | stmt w n => exact hp.elim
  | raise e =>
    cases q with
    | ret b => exact hp.elim
    | raise e' => exact congrArg Except.error hp
    | stmt w n => exact hp.elim
  | stmt w n ih =>
    cases q with
    | ret b => exact hp.elim
    | raise e => exact hp.elim
    | stmt w' n' => exact fun s t hR => ⟨(hp s t hR).1, ih s (hp s t hR).2⟩

theorem mirrors_statement {f : σ → Except ε (α × σ)} {g : τ → Except ε (β × τ)}
    (h : ∀ s t, R s t → SameOutcome R V (f s) (g t)) :
    (statement f).Mirrors R V (statement g) := by
  intro s t hR
  have houtcome := h s t hR
  dsimp only
  cases hf : f s with
  | error e =>
    cases hg : g t with
    | error e' =>
      rw [hf, hg] at houtcome
      exact ⟨hR, houtcome⟩
    | ok r =>
      rw [hf, hg] at houtcome
      exact houtcome.elim
  | ok r =>
    cases hg : g t with
    | error e =>
      rw [hf, hg] at houtcome
      exact houtcome.elim
    | ok r' =>
      rw [hf, hg] at houtcome
      exact ⟨houtcome.2, houtcome.1⟩

theorem mirrors_query {f : σ → α} {g : τ → β} (h : ∀ s t, R s t → V (f s) (g t)) :
    (query f : Program σ ε α).Mirrors R V (query g) :=
  fun s t hR => ⟨hR, h s t hR⟩

theorem mirrors_execute {w : σ → σ} {w' : τ → τ} (h : ∀ s t, R s t → R (w s) (w' t)) :
    (execute w : Program σ ε Unit).Mirrors R Eq (execute w') :=
  fun s t hR => ⟨h s t hR, rfl⟩

theorem mirrors_ofExcept (x : Except ε α) :
    (ofExcept x : Program σ ε α).Mirrors R Eq (ofExcept x : Program τ ε α) := by
  cases x <;> rfl

/-! ### In step -/

theorem Mirrors.isStmt_eq {p : Program σ ε α} {q : Program τ ε β} (h : p.Mirrors R V q) :
    p.isStmt = q.isStmt := by
  cases p <;> cases q <;> first | rfl | exact h.elim

theorem Mirrors.write {p : Program σ ε α} {q : Program τ ε β} (h : p.Mirrors R V q) {s : σ}
    {t : τ} (hR : R s t) : R (p.write s) (q.write t) := by
  cases p with
  | ret a =>
    cases q with
    | ret b => exact hR
    | raise e => exact h.elim
    | stmt w n => exact h.elim
  | raise e =>
    cases q with
    | ret b => exact h.elim
    | raise e' => exact hR
    | stmt w n => exact h.elim
  | stmt w n =>
    cases q with
    | ret b => exact h.elim
    | raise e => exact h.elim
    | stmt w' n' => exact (h s t hR).1

theorem Mirrors.next {p : Program σ ε α} {q : Program τ ε β} (h : p.Mirrors R V q) {s : σ}
    {t : τ} (hR : R s t) : (p.next s).Mirrors R V (q.next t) := by
  cases p with
  | ret a =>
    cases q with
    | ret b => exact h
    | raise e => exact h.elim
    | stmt w n => exact h.elim
  | raise e =>
    cases q with
    | ret b => exact h.elim
    | raise e' => exact h
    | stmt w n => exact h.elim
  | stmt w n =>
    cases q with
    | ret b => exact h.elim
    | raise e => exact h.elim
    | stmt w' n' => exact (h s t hR).2

/-- What the program has answered, if it has come to an end. -/
def answer : Program σ ε α → Option (Except ε α)
  | ret a => some (.ok a)
  | raise e => some (.error e)
  | stmt _ _ => none

theorem Mirrors.answer_eq {p : Program σ ε α} {q : Program τ ε α} (h : p.Mirrors R Eq q) :
    q.answer = p.answer := by
  cases p with
  | ret a =>
    cases q with
    | ret b => exact congrArg (fun a => some (Except.ok a)) h.symm
    | raise e => exact h.elim
    | stmt w n => exact h.elim
  | raise e =>
    cases q with
    | ret b => exact h.elim
    | raise e' => exact congrArg (fun e => some (Except.error e)) h.symm
    | stmt w n => exact h.elim
  | stmt w n =>
    cases q with
    | ret b => exact h.elim
    | raise e => exact h.elim
    | stmt w' n' => rfl

/-! ### Lists of programs -/

theorem rel_getElem? {S : α → β → Prop} {l : List α} {l' : List β} (h : l.Forall₂ S l') (i : ℕ) :
    Option.Rel S l[i]? l'[i]? := by
  induction h generalizing i with
  | nil => exact .none
  | cons hab _ ih =>
    cases i with
    | zero => exact .some hab
    | succ i => simpa using ih i

theorem rel_set {S : α → β → Prop} {l : List α} {l' : List β} (h : l.Forall₂ S l') {a : α} {b : β}
    (hab : S a b) (i : ℕ) : (l.set i a).Forall₂ S (l'.set i b) := by
  induction h generalizing i with
  | nil => exact .nil
  | cons hcd hrest ih =>
    cases i with
    | zero => exact .cons hab hrest
    | succ i => exact .cons hcd (ih i)

/-- What stands at a place of the second list is related to what stands there in the first. -/
theorem rel_of_right {S : α → β → Prop} {l : List α} {l' : List β} (h : l.Forall₂ S l') {i : ℕ}
    {b : β} (hi : l'[i]? = some b) : ∃ a, l[i]? = some a ∧ S a b := by
  have hrel := rel_getElem? h i
  rw [hi] at hrel
  cases ha : l[i]? with
  | none => simp [ha] at hrel
  | some a => exact ⟨a, rfl, by simpa [ha] using hrel⟩

/-- One of the second list is replaced by one that is related as well. -/
theorem rel_set_right {S : α → β → Prop} {l : List α} {l' : List β} (h : l.Forall₂ S l') {i : ℕ}
    {b c : β} (hi : l'[i]? = some b) (hc : ∀ a, S a b → S a c) : l.Forall₂ S (l'.set i c) := by
  induction h generalizing i with
  | nil => exact .nil
  | cons hab hrest ih =>
    cases i with
    | zero =>
      obtain rfl := Option.some.inj hi
      exact .cons (hc _ hab) hrest
    | succ i => exact .cons hab (ih hi)

theorem rel_concat {S : α → β → Prop} {l : List α} {l' : List β} (h : l.Forall₂ S l') {a : α}
    {b : β} (hab : S a b) : (l ++ [a]).Forall₂ S (l' ++ [b]) :=
  List.rel_append h (.cons hab .nil)

end DevSecOpsPlatform.StatementPrograms.Program
