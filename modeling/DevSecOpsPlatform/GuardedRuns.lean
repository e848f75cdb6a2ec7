import Mathlib.Data.List.Basic

/-!
# Runs of a deterministic step, and runs whose steps are guarded

A run takes a list of actions one after the other. `Meets step C s as` says that
every action of the run is taken in a state in which `C` allows it. A property that
the allowed steps keep holds in every state such a run reaches: every prefix of a
guarded run is one.
-/

namespace DevSecOpsPlatform.GuardedRuns

variable {S A : Type} {step : S → A → S} {C : S → A → Prop}

def runFrom (step : S → A → S) (s : S) (as : List A) : S := as.foldl step s

@[simp] theorem runFrom_nil (s : S) : runFrom step s [] = s := rfl

@[simp] theorem runFrom_cons (s : S) (a : A) (as : List A) :
    runFrom step s (a :: as) = runFrom step (step s a) as := rfl

theorem runFrom_append (s : S) (as bs : List A) :
    runFrom step s (as ++ bs) = runFrom step (runFrom step s as) bs := List.foldl_append

def Meets (step : S → A → S) (C : S → A → Prop) (s : S) : List A → Prop
  | [] => True
  | a :: as => C s a ∧ Meets step C (step s a) as

instance [∀ s a, Decidable (C s a)] (s : S) (as : List A) : Decidable (Meets step C s as) := by
  induction as generalizing s with
  | nil => exact isTrue trivial
  | cons a as ih => exact inferInstanceAs (Decidable (C s a ∧ Meets step C (step s a) as))

@[simp] theorem meets_nil (s : S) : Meets step C s [] := trivial

@[simp] theorem meets_cons (s : S) (a : A) (as : List A) :
    Meets step C s (a :: as) ↔ C s a ∧ Meets step C (step s a) as := Iff.rfl

theorem meets_true (s : S) (as : List A) : Meets step (fun _ _ => True) s as := by
  induction as generalizing s with
  | nil => trivial
  | cons a as ih => exact ⟨trivial, ih _⟩

/-- A condition on the actions alone. -/
theorem meets_of_forall_mem {D : A → Prop} {s : S} {as : List A} (h : ∀ a ∈ as, D a) :
    Meets step (fun _ => D) s as := by
  induction as generalizing s with
  | nil => trivial
  | cons a as ih => exact ⟨h a List.mem_cons_self, ih fun b hb => h b (List.mem_cons_of_mem a hb)⟩

/-- What the allowed steps keep holds at the end of every guarded run. -/
theorem invariant_of_meets {I : S → Prop} (hstep : ∀ s a, I s → C s a → I (step s a))
    {s : S} (hs : I s) (as : List A) (h : Meets step C s as) : I (runFrom step s as) := by
  induction as generalizing s with
  | nil => exact hs
  | cons a as ih => exact ih (hstep s a hs h.1) h.2

/-- What an invariant and the guard give at one step holds at every step of a guarded run. -/
theorem meets_of_invariant {I : S → Prop} {D : S → A → Prop}
    (hstep : ∀ s a, I s → C s a → I (step s a)) (hD : ∀ s a, I s → C s a → D s a)
    {s : S} (hs : I s) (as : List A) (h : Meets step C s as) : Meets step D s as := by
  induction as generalizing s with
  | nil => trivial
  | cons a as ih => exact ⟨hD s a hs h.1, ih (hstep s a hs h.1) h.2⟩

/-- When a guard says exactly which steps keep the invariant, of the steps that another one
allows, the runs that have it in every state they reach are those that meet both. -/
theorem meets_iff_prefixes_of_meets {I : S → Prop} {D : S → A → Prop}
    (hstep : ∀ s a, I s → D s a → (I (step s a) ↔ C s a)) {s : S} (hs : I s) (as : List A)
    (h : Meets step D s as) :
    Meets step C s as ↔ ∀ bs, bs <+: as → I (runFrom step s bs) := by
  induction as generalizing s with
  | nil =>
    refine ⟨fun _ bs hbs => ?_, fun _ => trivial⟩
    rw [List.prefix_nil.mp hbs]
    exact hs
  | cons a as ih =>
    constructor
    · rintro ⟨hC, hrest⟩ bs hbs
      cases bs with
      | nil => exact hs
      | cons b bs =>
        obtain ⟨rfl, hprefix⟩ := List.cons_prefix_cons.mp hbs
        exact (ih ((hstep s b hs h.1).mpr hC) h.2).mp hrest bs hprefix
    · intro hall
      have hfirst : I (step s a) := hall [a] (List.cons_prefix_cons.mpr ⟨rfl, List.nil_prefix⟩)
      have hrest : ∀ bs, bs <+: as → I (runFrom step (step s a) bs) :=
        fun bs hbs => hall (a :: bs) (List.cons_prefix_cons.mpr ⟨rfl, hbs⟩)
      exact ⟨(hstep s a hs h.1).mp hfirst, (ih hfirst h.2).mpr hrest⟩

/-- When the guard says exactly which steps keep the invariant, the guarded runs are those
that have it in every state they reach. -/
theorem meets_iff_prefixes {I : S → Prop} (hstep : ∀ s a, I s → (I (step s a) ↔ C s a))
    {s : S} (hs : I s) (as : List A) :
    Meets step C s as ↔ ∀ bs, bs <+: as → I (runFrom step s bs) :=
  meets_iff_prefixes_of_meets (D := fun _ _ => True) (fun s a h _ => hstep s a h) hs as
    (meets_true s as)

/-- What holds at first holds at the end of a run, or one of its steps is the first to end it. -/
theorem invariant_or_first {I : S → Prop} {s : S} (hs : I s) (as : List A) :
    I (runFrom step s as) ∨ ∃ before a after, as = before ++ a :: after ∧
      (∀ bs, bs <+: before → I (runFrom step s bs)) ∧ ¬ I (step (runFrom step s before) a) := by
  induction as generalizing s with
  | nil => exact .inl hs
  | cons a as ih =>
    by_cases ha : I (step s a)
    · rcases ih ha with hend | ⟨before, b, after, rfl, hbefore, hb⟩
      · exact .inl hend
      · refine .inr ⟨a :: before, b, after, rfl, fun bs hbs => ?_, hb⟩
        cases bs with
        | nil => exact hs
        | cons c bs =>
          obtain ⟨rfl, hprefix⟩ := List.cons_prefix_cons.mp hbs
          exact hbefore bs hprefix
    · refine .inr ⟨[], a, as, rfl, fun bs hbs => ?_, ha⟩
      rw [List.prefix_nil.mp hbs]
      exact hs

/-- What every step keeps holds at the end of every run. -/
theorem invariant_runFrom {I : S → Prop} (hstep : ∀ s a, I s → I (step s a))
    {s : S} (hs : I s) (as : List A) : I (runFrom step s as) :=
  invariant_of_meets (fun s a h _ => hstep s a h) hs as (meets_true s as)

end DevSecOpsPlatform.GuardedRuns
