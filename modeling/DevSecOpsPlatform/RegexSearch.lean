import DevSecOpsPlatform.PythonValues
import Mathlib.Data.List.Forall2

/-!
# Searching a text for a regular expression

`re.search` with the flags `MULTILINE` and `IGNORECASE`, for expressions made of literals,
`.`, `\S`, repetitions of these by `+`, anchors `^` and alternatives `|`. An expression whose
sets take no line feed finds in a text of several lines what it finds in one of them, and
an expression made of literals finds its text in either case.
-/

namespace DevSecOpsPlatform.RegexSearch

open PythonValues

/-! ### Expressions -/

inductive CharSet where
  | literal (c : Char)
  | anyChar
  | notSpace
  deriving DecidableEq

inductive Piece where
  | lineStart
  | one (s : CharSet)
  | oneOrMore (s : CharSet)
  deriving DecidableEq

/-- The alternatives. -/
abbrev Regex := List (List Piece)

inductive Token where
  | set (s : CharSet)
  | plus
  | bar
  | caret

/-- What a pattern is written in; on these characters `IGNORECASE` is `foldCase` below. -/
def isAscii (c : Char) : Bool := c.toNat < 128

/-- An escaped character; the only class is `\S`, and punctuation stands for itself. -/
def escaped (c : Char) : Option CharSet :=
  if c == 'S' then some .notSpace
  else if c.isAlphanum || !isAscii c then none
  else some (.literal c)

def tokenize : List Char → Option (List Token)
  | [] => some []
  | '\\' :: c :: cs => do
    let s ← escaped c
    let tokens ← tokenize cs
    return .set s :: tokens
  | c :: cs => do
    let tokens ← tokenize cs
    if c == '.' then return .set .anyChar :: tokens
    if c == '+' then return .plus :: tokens
    if c == '|' then return .bar :: tokens
    if c == '^' then return .caret :: tokens
    if "$*?\x7b\x7d[]()\\".toList.contains c || !isAscii c then none
    return .set (.literal c) :: tokens

/-- A piece in front of the first alternative. -/
def inFront (p : Piece) : Regex → Regex
  | [] => [[p]]
  | branch :: branches => (p :: branch) :: branches

def parseTokens : List Token → Option Regex
  | [] => some [[]]
  | .bar :: tokens => (parseTokens tokens).map ([] :: ·)
  | .caret :: tokens => (parseTokens tokens).map (inFront .lineStart)
  | .set s :: .plus :: tokens => (parseTokens tokens).map (inFront (.oneOrMore s))
  | .set s :: tokens => (parseTokens tokens).map (inFront (.one s))
  | .plus :: _ => none

/-- The expression of a pattern, unless the pattern has other syntax. -/
def parsePattern (pattern : String) : Option Regex := tokenize pattern.toList >>= parseTokens

/-! ### Searching -/

/-- Two characters match under `IGNORECASE` when these are the same, one of them being
ASCII. -/
def foldCase (c : Char) : Char :=
  match c.toNat with
  | 0x130 | 0x131 => 'i'
  | 0x17f => 's'
  | 0x212a => 'k'
  | _ => c.toLower

def CharSet.accepts : CharSet → Char → Bool
  | literal p, c => foldCase p == foldCase c
  | anyChar, c => c != '\n'
  | notSpace, c => !isSpace c

/-- A character of the set, or several, and then the rest of the expression. -/
def repeatThen (s : CharSet) (rest : Bool → List Char → Bool) : List Char → Bool
  | [] => false
  | c :: cs => s.accepts c && (rest (c == '\n') cs || repeatThen s rest cs)

/-- The pieces match at the front of a text; `atStart` says whether a line starts there. -/
def matchHere : List Piece → Bool → List Char → Bool
  | [], _, _ => true
  | .lineStart :: ps, atStart, cs => atStart && matchHere ps atStart cs
  | .one _ :: _, _, [] => false
  | .one s :: ps, _, c :: cs => s.accepts c && matchHere ps (c == '\n') cs
  | .oneOrMore s :: ps, _, cs => repeatThen s (matchHere ps) cs

def searchFrom (r : Regex) : Bool → List Char → Bool
  | atStart, [] => r.any (fun ps => matchHere ps atStart [])
  | atStart, c :: cs => r.any (fun ps => matchHere ps atStart (c :: cs)) ||
      searchFrom r (c == '\n') cs

/-- `bool(re.search(pattern, text, re.MULTILINE | re.IGNORECASE))`. -/
def search (r : Regex) (text : String) : Bool := searchFrom r true text.toList

/-- `reSearch` answers for the patterns of this syntax as `search` does. -/
def Reads (reSearch : String → String → Except Exn Bool) : Prop :=
  ∀ pattern r, parsePattern pattern = some r → ∀ text, reSearch pattern text = .ok (search r text)

/-! ### What is found -/

/-- Whether a line starts after the text `x`. -/
def after (atStart : Bool) : List Char → Bool
  | [] => atStart
  | c :: x => after (c == '\n') x

/-- The pieces match the whole of a text. -/
def Matches : List Piece → Bool → List Char → Prop
  | [], _, x => x = []
  | .lineStart :: ps, atStart, x => atStart = true ∧ Matches ps atStart x
  | .one s :: ps, _, x => ∃ c y, x = c :: y ∧ s.accepts c = true ∧ Matches ps (c == '\n') y
  | .oneOrMore s :: ps, atStart, x => ∃ y z, x = y ++ z ∧ y ≠ [] ∧
      (∀ c ∈ y, s.accepts c = true) ∧ Matches ps (after atStart y) z

theorem repeatThen_iff {s : CharSet} {rest : Bool → List Char → Bool} (atStart : Bool)
    {cs : List Char} : repeatThen s rest cs = true ↔ ∃ y z, cs = y ++ z ∧ y ≠ [] ∧
      (∀ c ∈ y, s.accepts c = true) ∧ rest (after atStart y) z = true := by
  induction cs generalizing atStart with
  | nil =>
    refine iff_of_false (by simp [repeatThen]) ?_
    rintro ⟨y, z, hcs, hne, -⟩
    exact hne (List.append_eq_nil_iff.mp hcs.symm).1
  | cons c cs ih =>
    rw [repeatThen, Bool.and_eq_true, Bool.or_eq_true, ih (c == '\n')]
    constructor
    · rintro ⟨hc, hrest | ⟨y, z, rfl, -, hy, hrest⟩⟩
      · exact ⟨[c], cs, rfl, by simp, by simpa using hc, hrest⟩
      · exact ⟨c :: y, z, rfl, by simp, by simpa [hc] using hy, hrest⟩
    · rintro ⟨y, z, hcs, hne, hy, hrest⟩
      cases y with
      | nil => exact absurd rfl hne
      | cons d y =>
        obtain ⟨rfl, rfl⟩ := List.cons.inj hcs
        obtain ⟨hd, hy⟩ := List.forall_mem_cons.mp hy
        refine ⟨hd, ?_⟩
        cases y with
        | nil => exact .inl hrest
        | cons e y => exact .inr ⟨e :: y, z, rfl, by simp, hy, hrest⟩

theorem matchHere_iff (ps : List Piece) (atStart : Bool) (cs : List Char) :
    matchHere ps atStart cs = true ↔ ∃ x rest, cs = x ++ rest ∧ Matches ps atStart x := by
  induction ps generalizing atStart cs with
  | nil => exact iff_of_true rfl ⟨[], cs, rfl, rfl⟩
  | cons p ps ih =>
    cases p with
    | lineStart =>
      rw [matchHere, Bool.and_eq_true, ih]
      constructor
      · rintro ⟨hstart, x, rest, rfl, hx⟩
        exact ⟨x, rest, rfl, hstart, hx⟩
      · rintro ⟨x, rest, rfl, hstart, hx⟩
        exact ⟨hstart, x, rest, rfl, hx⟩
    | one s =>
      cases cs with
      | nil =>
        refine iff_of_false (by simp [matchHere]) ?_
        rintro ⟨x, rest, hcs, c, y, rfl, -⟩
        cases hcs
      | cons c cs =>
        rw [matchHere, Bool.and_eq_true, ih]
        constructor
        · rintro ⟨hc, x, rest, rfl, hx⟩
          exact ⟨c :: x, rest, rfl, c, x, rfl, hc, hx⟩
        · rintro ⟨x, rest, hcs, d, y, rfl, hd, hy⟩
          obtain ⟨rfl, rfl⟩ := List.cons.inj hcs
          exact ⟨hd, y, rest, rfl, hy⟩
    | oneOrMore s =>
      rw [matchHere, repeatThen_iff atStart]
      simp only [ih]
      constructor
      · rintro ⟨y, z, rfl, hne, hy, x, rest, rfl, hx⟩
        exact ⟨y ++ x, rest, by simp, y, x, rfl, hne, hy, hx⟩
      · rintro ⟨x, rest, rfl, y, z, rfl, hne, hy, hz⟩
        exact ⟨y, z ++ rest, by simp, hne, hy, z, rest, rfl, hz⟩

theorem searchFrom_iff (r : Regex) (atStart : Bool) (cs : List Char) :
    searchFrom r atStart cs = true ↔
      ∃ pre x post, cs = pre ++ x ++ post ∧ ∃ ps ∈ r, Matches ps (after atStart pre) x := by
  induction cs generalizing atStart with
  | nil =>
    rw [searchFrom, List.any_eq_true]
    simp only [matchHere_iff]
    constructor
    · rintro ⟨ps, hps, x, rest, hcs, hx⟩
      exact ⟨[], x, rest, hcs, ps, hps, hx⟩
    · rintro ⟨pre, x, post, hcs, ps, hps, hx⟩
      obtain ⟨hpre, rfl⟩ := List.append_eq_nil_iff.mp hcs.symm
      obtain ⟨rfl, rfl⟩ := List.append_eq_nil_iff.mp hpre
      exact ⟨ps, hps, [], [], rfl, hx⟩
  | cons c cs ih =>
    rw [searchFrom, Bool.or_eq_true, List.any_eq_true, ih]
    simp only [matchHere_iff]
    constructor
    · rintro (⟨ps, hps, x, rest, hcs, hx⟩ | ⟨pre, x, post, rfl, hx⟩)
      · exact ⟨[], x, rest, hcs, ps, hps, hx⟩
      · exact ⟨c :: pre, x, post, rfl, hx⟩
    · rintro ⟨pre, x, post, hcs, ps, hps, hx⟩
      cases pre with
      | nil => exact .inl ⟨ps, hps, x, post, hcs, hx⟩
      | cons d pre =>
        obtain ⟨rfl, rfl⟩ := List.cons.inj hcs
        exact .inr ⟨pre, x, post, rfl, ps, hps, hx⟩

/-- A search says whether one of the alternatives matches a part of the text. -/
theorem search_iff (r : Regex) (text : String) : search r text = true ↔
    ∃ pre x post, text.toList = pre ++ x ++ post ∧ ∃ ps ∈ r, Matches ps (after true pre) x :=
  searchFrom_iff r true text.toList

/-! ### Lines -/

/-- The piece takes no line feed. -/
def Piece.inLine : Piece → Bool
  | .lineStart => true
  | .one s | .oneOrMore s => !s.accepts '\n'

theorem repeatThen_append_newline {s : CharSet} {rest : Bool → List Char → Bool}
    {tail : List Char} (hs : s.accepts '\n' = false)
    (hrest : ∀ atStart l, rest atStart (l ++ '\n' :: tail) = rest atStart l) (l : List Char) :
    repeatThen s rest (l ++ '\n' :: tail) = repeatThen s rest l := by
  induction l with
  | nil => simp [repeatThen, hs]
  | cons c l ih => rw [List.cons_append, repeatThen, repeatThen, hrest, ih]

theorem matchHere_append_newline {ps : List Piece} (hps : ∀ p ∈ ps, p.inLine = true)
    (atStart : Bool) (l tail : List Char) :
    matchHere ps atStart (l ++ '\n' :: tail) = matchHere ps atStart l := by
  induction ps generalizing atStart l with
  | nil => rfl
  | cons p ps ih =>
    obtain ⟨hp, hrest⟩ := List.forall_mem_cons.mp hps
    cases p with
    | lineStart => rw [matchHere, matchHere, ih hrest]
    | one s =>
      have hs : s.accepts '\n' = false := by simpa [Piece.inLine] using hp
      cases l with
      | nil => simp [matchHere, hs]
      | cons c l => rw [List.cons_append, matchHere, matchHere, ih hrest]
    | oneOrMore s =>
      have hs : s.accepts '\n' = false := by simpa [Piece.inLine] using hp
      exact repeatThen_append_newline hs (ih hrest) l

theorem searchFrom_append_newline {r : Regex} (hr : ∀ ps ∈ r, ∀ p ∈ ps, p.inLine = true)
    (atStart : Bool) (l tail : List Char) : searchFrom r atStart (l ++ '\n' :: tail) =
      (searchFrom r atStart l || searchFrom r true tail) := by
  have hany (b : Bool) (l : List Char) : r.any (fun ps => matchHere ps b (l ++ '\n' :: tail)) =
      r.any (fun ps => matchHere ps b l) := by
    rw [Bool.eq_iff_iff, List.any_eq_true, List.any_eq_true]
    exact exists_congr fun ps => and_congr_right fun hps =>
      by rw [matchHere_append_newline (hr ps hps)]
  induction l generalizing atStart with
  | nil =>
    have hnil := hany atStart []
    rw [List.nil_append] at hnil
    rw [List.nil_append, searchFrom, searchFrom, hnil, beq_self_eq_true]
  | cons c l ih =>
    have hcons := hany atStart (c :: l)
    rw [List.cons_append] at hcons
    rw [List.cons_append, searchFrom, hcons, ih, searchFrom, Bool.or_assoc]

/-- A text is searched line by line. -/
theorem search_intercalate {r : Regex} (hr : ∀ ps ∈ r, ∀ p ∈ ps, p.inLine = true)
    (hempty : search r "" = false) (lines : List String) :
    search r ("\n".intercalate lines) = lines.any (search r) := by
  induction lines with
  | nil => exact hempty
  | cons line lines ih =>
    cases lines with
    | nil => simp
    | cons next lines =>
      have htext : ("\n".intercalate (line :: next :: lines)).toList =
          line.toList ++ '\n' :: ("\n".intercalate (next :: lines)).toList := by
        simp [String.intercalate_cons_cons]
      rw [List.any_cons, ← ih, search, htext, searchFrom_append_newline hr]
      rfl

/-! ### Literals -/

/-- What `IGNORECASE` keeps of a text. -/
def fold (x : List Char) : List Char := x.map foldCase

@[simp] theorem fold_append (x y : List Char) : fold (x ++ y) = fold x ++ fold y := List.map_append

theorem eq_space_of_toLower {c : Char} (hc : c.toLower = ' ') : c = ' ' := by
  delta Char.toLower at hc
  by_cases hupper : c.val ≥ 'A'.val ∧ c.val ≤ 'Z'.val
  · rw [dif_pos hupper] at hc
    have hval : (c.val + ('a'.val - 'A'.val)).toNat = 32 :=
      congrArg (fun d : Char => d.val.toNat) hc
    have hstep : ('a'.val - 'A'.val).toNat = 32 := by decide
    have hlow : 65 ≤ c.val.toNat := hupper.1
    rw [UInt32.toNat_add, hstep] at hval
    have hhigh : c.val.toNat ≤ 90 := hupper.2
    omega
  · rwa [dif_neg hupper] at hc

/-- No other character is a space in some case. -/
theorem eq_space_of_foldCase {c : Char} (hc : foldCase c = ' ') : c = ' ' := by
  unfold foldCase at hc
  split at hc
  case h_5 => exact eq_space_of_toLower hc
  all_goals cases hc

/-- The expression for a text. -/
def literals (w : List Char) : List Piece := w.map (fun c => .one (.literal c))

theorem matches_literals_append {w : List Char} {ps : List Piece} {atStart : Bool}
    {x : List Char} : Matches (literals w ++ ps) atStart x ↔
      ∃ y z, x = y ++ z ∧ fold y = fold w ∧ Matches ps (after atStart y) z := by
  induction w generalizing atStart x with
  | nil =>
    constructor
    · intro hx
      exact ⟨[], x, rfl, rfl, hx⟩
    · rintro ⟨y, z, rfl, hy, hz⟩
      obtain rfl : y = [] := List.map_eq_nil_iff.mp hy
      exact hz
  | cons c w ih =>
    constructor
    · rintro ⟨d, x, rfl, hd, hx⟩
      obtain ⟨y, z, rfl, hy, hz⟩ := ih.mp hx
      have hcd : foldCase c = foldCase d := by simpa [CharSet.accepts] using hd
      refine ⟨d :: y, z, rfl, ?_, hz⟩
      exact congrArg₂ List.cons hcd.symm hy
    · rintro ⟨y, z, rfl, hy, hz⟩
      obtain ⟨d, y, rfl, hd, hy⟩ := List.map_eq_cons_iff.mp hy
      refine ⟨d, y ++ z, rfl, ?_, ih.mpr ⟨y, z, rfl, hy, hz⟩⟩
      simp [CharSet.accepts, hd]

theorem matches_literals {w : List Char} {atStart : Bool} {x : List Char} :
    Matches (literals w) atStart x ↔ fold x = fold w := by
  have happend : Matches (literals w ++ []) atStart x ↔ _ := matches_literals_append
  rw [List.append_nil] at happend
  rw [happend]
  constructor
  · rintro ⟨y, z, rfl, hy, rfl⟩
    rw [List.append_nil, hy]
  · intro hx
    exact ⟨x, [], (List.append_nil x).symm, hx, rfl⟩

/-- A text is found in the lines that contain it, in either case. -/
theorem search_literals (w : List Char) (text : String) :
    search [literals w] text = true ↔ fold w <:+: fold text.toList := by
  rw [search_iff]
  constructor
  · rintro ⟨pre, x, post, htext, ps, hps, hx⟩
    obtain rfl := List.mem_singleton.mp hps
    refine ⟨fold pre, fold post, ?_⟩
    rw [htext, fold_append, fold_append, matches_literals.mp hx]
  · rintro ⟨pre, post, htext⟩
    obtain ⟨front, post', hfront, hpre, rfl⟩ := List.map_eq_append_iff.mp htext.symm
    obtain ⟨pre', x, rfl, rfl, hx⟩ := List.map_eq_append_iff.mp hpre
    exact ⟨pre', x, post', hfront, literals w, by simp, matches_literals.mpr hx⟩

theorem after_false {x : List Char} (hx : '\n' ∉ x) : after false x = false := by
  induction x with
  | nil => rfl
  | cons c x ih =>
    have hstart : (c == '\n') = false :=
      beq_eq_false_iff_ne.mpr (List.ne_of_not_mem_cons hx).symm
    rw [after, hstart, ih (List.not_mem_of_not_mem_cons hx)]

theorem eq_nil_of_after {atStart : Bool} {x : List Char} (hline : '\n' ∉ x)
    (hx : after atStart x = true) : x = [] := by
  cases x with
  | nil => rfl
  | cons c x =>
    have hstart : (c == '\n') = false :=
      beq_eq_false_iff_ne.mpr (List.ne_of_not_mem_cons hline).symm
    rw [after, hstart, after_false (List.not_mem_of_not_mem_cons hline)] at hx
    cases hx

/-- A text is found at the front of a line only. -/
theorem search_lineStart {branches : List (List Char)} {text : String}
    (hline : '\n' ∉ text.toList) :
    search (branches.map (fun w => .lineStart :: literals w)) text = true ↔
      ∃ w ∈ branches, fold w <+: fold text.toList := by
  rw [search_iff]
  constructor
  · rintro ⟨pre, x, post, htext, ps, hps, hx⟩
    obtain ⟨w, hw, rfl⟩ := List.mem_map.mp hps
    obtain ⟨hstart, hx⟩ := hx
    have hpre : '\n' ∉ pre := by
      rw [htext] at hline
      exact fun hmem => hline (List.mem_append_left _ (List.mem_append_left _ hmem))
    obtain rfl := eq_nil_of_after hpre hstart
    refine ⟨w, hw, fold post, ?_⟩
    rw [htext, List.nil_append, fold_append, matches_literals.mp hx]
  · rintro ⟨w, hw, post, htext⟩
    obtain ⟨x, post', hx, hfold, rfl⟩ := List.map_eq_append_iff.mp htext.symm
    exact ⟨[], x, post', hx, .lineStart :: literals w, List.mem_map.mpr ⟨w, hw, rfl⟩, rfl,
      matches_literals.mpr hfold⟩

example : (parsePattern "^a|\\S+ b").map (search · "x\nA") = some true := by decide

end DevSecOpsPlatform.RegexSearch
