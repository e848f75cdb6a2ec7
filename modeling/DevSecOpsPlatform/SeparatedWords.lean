import Mathlib.Data.List.Infix

/-!
# Words after separators

Where a text is made of words, each after a separator, a phrase of several words is found as
consecutive words: the first ends with the phrase's first word, the last begins with its last.
-/

namespace DevSecOpsPlatform.SeparatedWords

variable {α : Type} {sep : α}

/-- Every word with a separator before it. -/
def separated (sep : α) (words : List (List α)) : List α := words.flatMap (sep :: ·)

@[simp] theorem separated_nil : separated sep [] = [] := rfl

@[simp] theorem separated_cons (w : List α) (words : List (List α)) :
    separated sep (w :: words) = sep :: (w ++ separated sep words) := List.flatMap_cons

/-- A separator stands between the words of a text and is followed by the next word. -/
theorem cons_prefix_separated {q : List α} {words : List (List α)} :
    sep :: q <+: separated sep words ↔
      ∃ w post, words = w :: post ∧ q <+: w ++ separated sep post := by
  cases words with
  | nil => simp
  | cons w post =>
    rw [separated_cons, List.cons_prefix_cons]
    constructor
    · rintro ⟨-, hq⟩
      exact ⟨w, post, rfl, hq⟩
    · rintro ⟨w', post', hwords, hq⟩
      obtain ⟨rfl, rfl⟩ := List.cons.inj hwords
      exact ⟨rfl, hq⟩

theorem prefix_word {p q u : List α} {words : List (List α)} (hp : sep ∉ p) (hu : sep ∉ u) :
    p ++ sep :: q <+: u ++ separated sep words ↔
      p = u ∧ sep :: q <+: separated sep words := by
  induction p generalizing u with
  | nil =>
    cases u with
    | nil => simp
    | cons d u =>
      have hne := List.ne_of_not_mem_cons hu
      simp [hne]
  | cons c p ih =>
    have hne := List.ne_of_not_mem_cons hp
    cases u with
    | nil =>
      refine iff_of_false ?_ (by simp)
      cases words with
      | nil => simp
      | cons w words => simp [hne.symm]
    | cons d u =>
      have hrest := ih (List.not_mem_of_not_mem_cons hp) (List.not_mem_of_not_mem_cons hu)
      simp only [List.cons_append, List.cons_prefix_cons, hrest, List.cons.injEq, and_assoc]

theorem prefix_last {q u : List α} {words : List (List α)} (hq : sep ∉ q) :
    q <+: u ++ separated sep words ↔ q <+: u := by
  induction q generalizing u with
  | nil => simp
  | cons c q ih =>
    have hne := List.ne_of_not_mem_cons hq
    cases u with
    | nil => cases words <;> simp [hne.symm]
    | cons d u =>
      simp only [List.cons_append, List.cons_prefix_cons, ih (List.not_mem_of_not_mem_cons hq)]

theorem infix_word {a q u : List α} {words : List (List α)} (ha : sep ∉ a) (hu : sep ∉ u) :
    a ++ sep :: q <:+: u ++ separated sep words ↔
      (a <:+ u ∧ sep :: q <+: separated sep words) ∨ a ++ sep :: q <:+: separated sep words := by
  induction u with
  | nil =>
    constructor
    · exact .inr
    · rintro (⟨hnil, hq⟩ | h)
      · rw [List.suffix_nil.mp hnil]
        exact hq.isInfix
      · exact h
  | cons d u ih =>
    rw [List.cons_append, List.infix_cons_iff, ← List.cons_append, prefix_word ha hu,
      ih (List.not_mem_of_not_mem_cons hu), List.suffix_cons_iff, or_and_right, or_assoc]

theorem infix_separated_cons {a q u : List α} {words : List (List α)} (ha : sep ∉ a)
    (hne : a ≠ []) : a ++ sep :: q <:+: separated sep (u :: words) ↔
      a ++ sep :: q <:+: u ++ separated sep words := by
  rw [separated_cons, List.infix_cons_iff, or_iff_right]
  cases a with
  | nil => exact absurd rfl hne
  | cons c a =>
    have hc := List.ne_of_not_mem_cons ha
    simp [hc.symm]

/-- A phrase of three words is found as three consecutive words. -/
theorem infix_phrase {a b c : List α} {words : List (List α)} (ha : sep ∉ a) (hb : sep ∉ b)
    (hc : sep ∉ c) (hne : a ≠ []) (hwords : ∀ w ∈ words, sep ∉ w) :
    a ++ sep :: (b ++ sep :: c) <:+: separated sep words ↔
      ∃ pre u v w post, words = pre ++ u :: v :: w :: post ∧ a <:+ u ∧ b = v ∧ c <+: w := by
  induction words with
  | nil => simp
  | cons u words ih =>
    obtain ⟨hu, hrest⟩ := List.forall_mem_cons.mp hwords
    rw [infix_separated_cons ha hne, infix_word ha hu, ih hrest]
    constructor
    · rintro (⟨hau, hq⟩ | ⟨pre, u', v, w, post, rfl, h⟩)
      · obtain ⟨v, after, rfl, hv⟩ := cons_prefix_separated.mp hq
        obtain ⟨hbv, hq⟩ := (prefix_word hb (hrest v List.mem_cons_self)).mp hv
        obtain ⟨w, post, rfl, hw⟩ := cons_prefix_separated.mp hq
        exact ⟨[], u, v, w, post, rfl, hau, hbv, (prefix_last hc).mp hw⟩
      · exact ⟨u :: pre, u', v, w, post, rfl, h⟩
    · rintro ⟨pre, u', v, w, post, hsplit, hau, hbv, hcw⟩
      cases pre with
      | nil =>
        obtain ⟨rfl, rfl⟩ := List.cons.inj hsplit
        refine .inl ⟨hau, cons_prefix_separated.mpr ⟨v, w :: post, rfl, ?_⟩⟩
        refine (prefix_word hb (hrest v List.mem_cons_self)).mpr ⟨hbv, ?_⟩
        exact cons_prefix_separated.mpr ⟨w, post, rfl, (prefix_last hc).mpr hcw⟩
      | cons d pre =>
        obtain ⟨rfl, rfl⟩ := List.cons.inj hsplit
        exact .inr ⟨pre, u', v, w, post, rfl, hau, hbv, hcw⟩

end DevSecOpsPlatform.SeparatedWords
