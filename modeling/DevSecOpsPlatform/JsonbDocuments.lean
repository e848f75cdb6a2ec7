import DevSecOpsPlatform.PythonValues
import Mathlib.Algebra.Ring.Int.Defs
import Mathlib.Data.List.Sort

/-!
# JSON documents in PostgreSQL

A `jsonb` column keeps what a document says and not how it was written. What comes back lists
the keys of an object by their length and then by their bytes, and prints a number as a plain
decimal: a float in exponent notation without fraction digits is read again as an integer.
-/

namespace DevSecOpsPlatform.JsonbDocuments

open PythonValues

/-- The number that decimal digits spell. -/
def decimalValue (digits : List Char) : ℕ :=
  digits.foldl (fun n c => 10 * n + (c.toNat - '0'.toNat)) 0

/-- The literal of a float: its sign, all its digits, how many of them follow the point, and
its exponent. -/
structure Numeral where
  negative : Bool
  digits : ℕ
  scale : ℕ
  exponent : ℤ

def readExponent : List Char → ℤ
  | '-' :: digits => -decimalValue digits
  | '+' :: digits => decimalValue digits
  | digits => decimalValue digits

def readUnsigned (negative : Bool) (cs : List Char) : Numeral :=
  let mantissa := cs.takeWhile (fun c => c != 'e' && c != 'E')
  let whole := mantissa.takeWhile (· != '.')
  let fraction := mantissa.drop (whole.length + 1)
  { negative
    digits := decimalValue (whole ++ fraction)
    scale := fraction.length
    exponent := readExponent (cs.drop (mantissa.length + 1)) }

def readNumeral (literal : String) : Numeral :=
  match literal.toList with
  | '-' :: cs => readUnsigned true cs
  | cs => readUnsigned false cs

/-- What a float comes back as. A numeric has no negative zero. -/
def jsonbNumber (literal : String) : Json :=
  let n := readNumeral literal
  if n.scale ≤ n.exponent then
    let value : ℤ := n.digits * 10 ^ (n.exponent.toNat - n.scale)
    .int (if n.negative then -value else value)
  else if n.negative && n.digits == 0 then .float "0.0"
  else .float literal

/-- The order of the keys of an object. -/
def keyLe (a b : String) : Prop :=
  a.utf8ByteSize < b.utf8ByteSize ∨ (a.utf8ByteSize = b.utf8ByteSize ∧ a ≤ b)

instance decidableKeyLe (a b : String) : Decidable (keyLe a b) :=
  inferInstanceAs (Decidable (_ ∨ (_ ∧ _)))

mutual

/-- What a document written to a `jsonb` column comes back as. -/
def jsonb : Json → Json
  | .float literal => jsonbNumber literal
  | .arr items => .arr (jsonbItems items)
  | .obj entries => .obj ((jsonbEntries entries).insertionSort (fun a b => keyLe a.1 b.1))
  | v => v

def jsonbItems : List Json → List Json
  | [] => []
  | v :: vs => jsonb v :: jsonbItems vs

def jsonbEntries : List (String × Json) → List (String × Json)
  | [] => []
  | (k, v) :: kvs => (k, jsonb v) :: jsonbEntries kvs

end

theorem hasNulEntries_eq_any (entries : List (String × Json)) :
    Json.hasNulEntries entries = entries.any (fun e => e.1.toList.any Json.isNul || e.2.hasNul) := by
  induction entries with
  | nil => rfl
  | cons e entries ih => rw [List.any_cons, ← ih, Json.hasNulEntries]

theorem hasNul_jsonbNumber (literal : String) : (jsonbNumber literal).hasNul = false := by
  unfold jsonbNumber
  dsimp only
  split
  · rfl
  · split <;> rfl

mutual

/-- A document comes back with NUL characters exactly if it had some. -/
theorem hasNul_jsonb (v : Json) : (jsonb v).hasNul = v.hasNul := by
  cases v with
  | float literal => exact hasNul_jsonbNumber literal
  | arr items => exact hasNulItems_jsonbItems items
  | obj entries =>
    have hperm := List.perm_insertionSort (fun a b => keyLe a.1 b.1) (jsonbEntries entries)
    rw [jsonb, Json.hasNul, Json.hasNul, hasNulEntries_eq_any, hperm.any_eq,
      ← hasNulEntries_eq_any, hasNulEntries_jsonbEntries entries]
  | _ => rfl

theorem hasNulItems_jsonbItems (items : List Json) :
    Json.hasNulItems (jsonbItems items) = Json.hasNulItems items := by
  cases items with
  | nil => rfl
  | cons v vs =>
    rw [jsonbItems, Json.hasNulItems, Json.hasNulItems, hasNul_jsonb v, hasNulItems_jsonbItems vs]

theorem hasNulEntries_jsonbEntries (entries : List (String × Json)) :
    Json.hasNulEntries (jsonbEntries entries) = Json.hasNulEntries entries := by
  match entries with
  | [] => rfl
  | (k, v) :: kvs =>
    rw [jsonbEntries, Json.hasNulEntries, Json.hasNulEntries, hasNul_jsonb v,
      hasNulEntries_jsonbEntries kvs]

end

example : jsonb (.obj [("mtu", .float "1e+16"), ("ip", .float "-1.5")]) =
    .obj [("ip", .float "-1.5"), ("mtu", .int 10000000000000000)] := by rfl

end DevSecOpsPlatform.JsonbDocuments
