import Mathlib.Data.List.Basic
import Mathlib.Data.Int.Notation

/-!
# Python values the platform passes around

JSON documents, the exceptions the code raises and catches, and the text operations
it uses. Text is a list of characters: `str.splitlines` cuts at every line boundary
Python knows, `str.strip` drops the characters `str.isspace` accepts.
-/

namespace DevSecOpsPlatform.PythonValues

/-- A JSON document. A float is kept by its literal. -/
inductive Json where
  | null
  | bool (b : Bool)
  | int (n : ℤ)
  | float (literal : String)
  | str (s : String)
  | arr (items : List Json)
  | obj (entries : List (String × Json))

namespace Json

def nat (n : ℕ) : Json := .int n

def ofOption {α : Type} (f : α → Json) : Option α → Json
  | none => .null
  | some a => f a

/-- `dict.get(key, default)`. -/
def dictGet (entries : List (String × Json)) (key : String) (default : Json) : Json :=
  (entries.lookup key).getD default

/-- `bool(value)`. -/
def truthy : Json → Bool
  | .null => false
  | .bool b => b
  | .int n => n != 0
  | .float l => (l.toList.takeWhile (fun c => c != 'e' && c != 'E')).any
      (fun c => c.isDigit && c != '0')
  | .str s => s != ""
  | .arr xs => !xs.isEmpty
  | .obj kvs => !kvs.isEmpty

/-- The type name that Python's messages give to a JSON value. -/
def typeName : Json → String
  | .null => "NoneType"
  | .bool _ => "bool"
  | .int _ => "int"
  | .float _ => "float"
  | .str _ => "str"
  | .arr _ => "list"
  | .obj _ => "dict"

/-- A character that PostgreSQL stores in no text. -/
def isNul (c : Char) : Bool := c == Char.ofNat 0

mutual

/-- A text of the document, or a key, has a NUL character. -/
def hasNul : Json → Bool
  | .str s => s.toList.any isNul
  | .arr items => hasNulItems items
  | .obj entries => hasNulEntries entries
  | _ => false

def hasNulItems : List Json → Bool
  | [] => false
  | v :: vs => hasNul v || hasNulItems vs

def hasNulEntries : List (String × Json) → Bool
  | [] => false
  | (k, v) :: kvs => k.toList.any isNul || hasNul v || hasNulEntries kvs

end

end Json

/-- No text has a NUL character. -/
def storable (texts : List String) : Bool := texts.all (fun s => !s.toList.any Json.isNul)

/-- The exception classes that the code tells apart. -/
inductive ExnClass where
  | notAuthenticated | permissionDenied | http404 | validationError
  | doesNotExist | multipleObjectsReturned
  | integrityError | dataError | databaseError
  | attributeError | typeError | valueError | reError
  | netmikoError | other
  deriving DecidableEq, Repr

/-- An exception with its `str()`. -/
structure Exn where
  cls : ExnClass
  message : String
  deriving DecidableEq, Repr

/-- Microseconds since the epoch, in UTC. -/
abbrev DateTime := ℤ

/-- Year, month and day of a day counted from 1970-01-01. -/
def civilDate (day : ℤ) : ℤ × ℤ × ℤ :=
  let z := day + 719468
  let era := z / 146097
  let doe := z % 146097
  let yoe := (doe - doe / 1460 + doe / 36524 - doe / 146096) / 365
  let doy := doe - (365 * yoe + yoe / 4 - yoe / 100)
  let mp := (5 * doy + 2) / 153
  let m := if mp < 10 then mp + 3 else mp - 9
  (yoe + 400 * era + (if m ≤ 2 then 1 else 0), m, doy - (153 * mp + 2) / 5 + 1)

def padded (width : ℕ) (n : ℤ) : String :=
  let digits := toString n.toNat
  String.ofList (List.replicate (width - digits.length) '0') ++ digits

/-- `str(t.date())`. -/
def dateText (t : DateTime) : String :=
  let (y, m, d) := civilDate (t / 86400000000)
  padded 4 y ++ "-" ++ padded 2 m ++ "-" ++ padded 2 d

/-- The text a serializer gives a timestamp. -/
def isoText (t : DateTime) : String :=
  let us := t % 86400000000
  let fraction := us % 1000000
  dateText t ++ "T" ++ padded 2 (us / 3600000000) ++ ":" ++ padded 2 (us / 60000000 % 60) ++ ":" ++
    padded 2 (us / 1000000 % 60) ++ (if fraction = 0 then "" else "." ++ padded 6 fraction) ++ "Z"

example : isoText 1717243200000005 = "2024-06-01T12:00:00.000005Z" := by decide

/-- `str.lower`, exact on text whose letters are ASCII. -/
def lower (s : String) : String := String.ofList (s.toList.map Char.toLower)

/-- `str.isspace` of one character. -/
def isSpace (c : Char) : Bool :=
  let n := c.toNat
  (9 ≤ n && n ≤ 13) || (28 ≤ n && n ≤ 32) || n == 0x85 || n == 0xa0 || n == 0x1680 ||
    (0x2000 ≤ n && n ≤ 0x200a) || n == 0x2028 || n == 0x2029 || n == 0x202f ||
    n == 0x205f || n == 0x3000

def strip (cs : List Char) : List Char :=
  ((cs.dropWhile isSpace).reverse.dropWhile isSpace).reverse

/-- The characters at which `str.splitlines` ends a line. -/
def isLineBoundary (c : Char) : Bool :=
  let n := c.toNat
  (10 ≤ n && n ≤ 13) || (28 ≤ n && n ≤ 30) || n == 0x85 || n == 0x2028 || n == 0x2029

/-- The lines of a text, each with its terminator; `line` is the current one, reversed. -/
def cutLines (line : List Char) : List Char → List (List Char × List Char)
  | [] => if line.isEmpty then [] else [(line.reverse, [])]
  | '\r' :: '\n' :: cs => (line.reverse, ['\r', '\n']) :: cutLines [] cs
  | c :: cs =>
    if isLineBoundary c then (line.reverse, [c]) :: cutLines [] cs else cutLines (c :: line) cs

/-- `str.splitlines()`. -/
def splitlines (s : String) : List String :=
  (cutLines [] s.toList).map (fun l => String.ofList l.1)

/-- `str.splitlines(keepends=True)`. -/
def splitlinesKeepends (s : String) : List String :=
  (cutLines [] s.toList).map (fun l => String.ofList (l.1 ++ l.2))

theorem flatMap_cutLines (line cs : List Char) :
    (cutLines line cs).flatMap (fun l => l.1 ++ l.2) = line.reverse ++ cs := by
  fun_induction cutLines line cs with
  | case1 line hline =>
    have hnil : line = [] := by simpa using hline
    simp [hnil]
  | case2 line hline => simp
  | case3 line cs ih => simp [ih]
  | case4 line c cs _ hc ih => simp [ih]
  | case5 line c cs _ hc ih => simp [ih]

/-- The lines with their terminators, one after the other, are the text. -/
theorem join_splitlinesKeepends (s : String) : String.join (splitlinesKeepends s) = s := by
  have hflat := flatMap_cutLines [] s.toList
  refine String.toList_inj.mp ?_
  simpa [splitlinesKeepends, List.flatMap_map] using hflat

theorem splitlinesKeepends_inj {s t : String} :
    splitlinesKeepends s = splitlinesKeepends t ↔ s = t := by
  refine ⟨fun h => ?_, congrArg splitlinesKeepends⟩
  rw [← join_splitlinesKeepends s, h, join_splitlinesKeepends]

/-- `text[:n]`. -/
def textTake (n : ℕ) (s : String) : String := String.ofList (s.toList.take n)

/-! ### Texts without NUL characters -/

@[simp] theorem storable_nil : storable [] = true := rfl

theorem storable_cons (s : String) (texts : List String) :
    storable (s :: texts) = (storable [s] && storable texts) := by
  simp [storable]

theorem storable_append (texts texts' : List String) :
    storable (texts ++ texts') = (storable texts && storable texts') := List.all_append ..

theorem storable_singleton_iff (s : String) :
    storable [s] = true ↔ ∀ c ∈ s.toList, Json.isNul c = false := by
  simp [storable]

theorem storable_textAppend (s t : String) :
    storable [s ++ t] = (storable [s] && storable [t]) := by
  simp [storable, String.toList_append]

theorem storable_join (texts : List String) : storable [String.join texts] = storable texts := by
  induction texts with
  | nil => rfl
  | cons s texts ih => rw [String.join_cons, storable_textAppend, ih, ← storable_cons]

theorem storable_splitlinesKeepends (s : String) :
    storable (splitlinesKeepends s) = storable [s] := by
  rw [← storable_join, join_splitlinesKeepends]

theorem storable_textTake (n : ℕ) {s : String} (h : storable [s] = true) :
    storable [textTake n s] = true := by
  rw [storable_singleton_iff] at h ⊢
  intro c hc
  rw [textTake, String.toList_ofList] at hc
  exact h c (List.mem_of_mem_take hc)

theorem mem_padded {width : ℕ} {n : ℤ} {c : Char} (h : c ∈ (padded width n).toList) :
    c.isDigit = true := by
  rw [padded, String.toList_append, String.toList_ofList] at h
  rcases List.mem_append.mp h with hzero | hdigit
  · rw [(List.mem_replicate.mp hzero).2]
    decide
  · have hmem : c ∈ Nat.toDigits 10 n.toNat := by simpa using hdigit
    exact Nat.isDigit_of_mem_toDigits (by decide) (by decide) hmem

/-- A date is written in digits and hyphens. -/
theorem mem_dateText {t : DateTime} {c : Char} (h : c ∈ (dateText t).toList) :
    c.isDigit = true ∨ c = '-' := by
  have hdash {c : Char} (hc : c ∈ "-".toList) : c = '-' := by simpa using hc
  simp only [dateText, String.toList_append, List.mem_append] at h
  rcases h with (((h | h) | h) | h) | h
  · exact .inl (mem_padded h)
  · exact .inr (hdash h)
  · exact .inl (mem_padded h)
  · exact .inr (hdash h)
  · exact .inl (mem_padded h)

theorem storable_dateText (t : DateTime) : storable [dateText t] = true := by
  rw [storable_singleton_iff]
  intro c hc
  rcases mem_dateText hc with hdigit | rfl
  · refine beq_eq_false_iff_ne.mpr ?_
    rintro rfl
    exact absurd hdigit (by decide)
  · decide

example : splitlines "a\r\nb\n\nc" = ["a", "b", "", "c"] := by decide

end DevSecOpsPlatform.PythonValues
