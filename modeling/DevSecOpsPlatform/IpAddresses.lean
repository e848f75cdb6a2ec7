import Mathlib.Data.List.Basic

/-!
# IP addresses and their texts

`ipAddress` reads a text as `ipaddress.ip_address` does: dotted-quad IPv4 without
leading zeros, or IPv6 as hextets with at most one `::` and an optional dotted-quad
tail. The same texts are the ones the `inet` columns of the database accept. A scope id
(`fe80::1%eth0`) is not read: the serializer field drops it, and `inet` has none.
-/

namespace DevSecOpsPlatform.IpAddresses

abbrev Octets := {l : List (Fin 256) // l.length = 4}

abbrev Hextets := {l : List (Fin 65536) // l.length = 8}

inductive IpAddress where
  | v4 (octets : Octets)
  | v6 (hextets : Hextets)
  deriving DecidableEq, Repr

def digitValue (c : Char) : ℕ := c.toNat - '0'.toNat

def hexValue (c : Char) : ℕ :=
  if c.isDigit then digitValue c
  else if 'a' ≤ c ∧ c ≤ 'f' then c.toNat - 'a'.toNat + 10
  else c.toNat - 'A'.toNat + 10

def isHexDigit (c : Char) : Bool :=
  c.isDigit || ('a' ≤ c && c ≤ 'f') || ('A' ≤ c && c ≤ 'F')

def decimalOctet (cs : List Char) : Option (Fin 256) :=
  if cs ≠ [] ∧ cs.all Char.isDigit ∧ cs.length ≤ 3 ∧ (cs.head? = some '0' → cs.length = 1) then
    let n := cs.foldl (fun n c => 10 * n + digitValue c) 0
    if h : n < 256 then some ⟨n, h⟩ else none
  else none

def hextet (cs : List Char) : Option (Fin 65536) :=
  if cs ≠ [] ∧ cs.all isHexDigit ∧ cs.length ≤ 4 then
    let n := cs.foldl (fun n c => 16 * n + hexValue c) 0
    if h : n < 65536 then some ⟨n, h⟩ else none
  else none

/-- `ipaddress.IPv4Address`. -/
def ipv4Address (cs : List Char) : Option Octets :=
  match (cs.splitOn '.').mapM decimalOctet with
  | some os => if h : os.length = 4 then some ⟨os, h⟩ else none
  | none => none

/-- A dotted quad as the two hextets it stands for at the end of an IPv6 address. -/
def octetHextets (os : Octets) : List (Fin 65536) :=
  match os.val with
  | [a, b, c, d] => [Fin.ofNat _ (256 * a + b), Fin.ofNat _ (256 * c + d)]
  | _ => []

/-- The hextets of colon-separated parts, of which the last may be a dotted quad. -/
def partHextets : List (List Char) → Option (List (Fin 65536))
  | [] => some []
  | [part] => if '.' ∈ part then (ipv4Address part).map octetHextets else (hextet part).map ([·])
  | part :: parts => do return (← hextet part) :: (← partHextets parts)

/-- The parts before and after the `::`, or all of them and none when there is no `::`.
A first or last part may be empty only next to the `::`. -/
def skipSplit (parts : List (List Char)) : Option (List (List Char) × Option (List (List Char))) :=
  let hi := parts.takeWhile (· ≠ [])
  match hi, parts.drop hi.length with
  | hi, [] => some (hi, none)
  | [], _ :: [] :: lo@(_ :: _) => some ([], some (if lo = [[]] then [] else lo))
  | [], _ => none
  | hi, _ :: lo@(_ :: _) => some (hi, some (if lo = [[]] then [] else lo))
  | _, _ => none

/-- `ipaddress.IPv6Address`; the `::` stands for at least one hextet. -/
def ipv6Address (cs : List Char) : Option Hextets := do
  let (hi, lo) ← skipSplit (cs.splitOn ':')
  match lo with
  | none =>
    let hs ← partHextets hi
    if h : hs.length = 8 then some ⟨hs, h⟩ else none
  | some lo =>
    let hs ← hi.mapM hextet
    let ls ← partHextets lo
    if h : hs.length + ls.length < 8 then
      some ⟨hs ++ (List.replicate (8 - (hs.length + ls.length)) 0 ++ ls), by simp; omega⟩
    else none

def ipAddress (text : String) : Option IpAddress :=
  match ipv4Address text.toList with
  | some octets => some (.v4 octets)
  | none => (ipv6Address text.toList).map .v6

/-! ### The text of an address -/

def hexText (n : ℕ) : String := String.ofList (Nat.toDigits 16 n)

/-- The length of the run of zeros a list starts with. -/
def zeroRun (hs : List (Fin 65536)) : ℕ := (hs.takeWhile (· = 0)).length

/-- Start and length of the first longest run of zeros. -/
def longestZeroRun : List (Fin 65536) → ℕ × ℕ
  | [] => (0, 0)
  | h :: hs =>
    let (start, length) := longestZeroRun hs
    if zeroRun (h :: hs) ≥ length then (0, zeroRun (h :: hs)) else (start + 1, length)

def colonText (hs : List (Fin 65536)) : String :=
  String.intercalate ":" (hs.map (fun h => hexText h))

/-- `str(address)`: an IPv6 address has its first longest run of two zero hextets or more
written `::`. -/
def IpAddress.text : IpAddress → String
  | .v4 os => String.intercalate "." (os.val.map (fun o => toString o.val))
  | .v6 hs =>
    let (start, length) := longestZeroRun hs.val
    if length < 2 then colonText hs.val
    else colonText (hs.val.take start) ++ "::" ++ colonText (hs.val.drop (start + length))

example : ipAddress "192.168.100.1" = some (.v4 ⟨[192, 168, 100, 1], rfl⟩) := by decide

example : (ipAddress "2001:db8:0:0:1::192.0.2.33").map IpAddress.text =
    some "2001:db8::1:0:c000:221" := by decide

/-! ### Addresses and colons -/

theorem exists_part_of_mem {c sep : Char} {cs : List Char} (h : c ∈ cs) (hc : c ≠ sep) :
    ∃ part ∈ cs.splitOn sep, c ∈ part := by
  induction cs with
  | nil => cases h
  | cons d cs ih =>
    rw [List.splitOn_cons_eq_if_modifyHead]
    obtain ⟨p, ps, hps⟩ := List.exists_cons_of_ne_nil (List.splitOn_ne_nil sep cs)
    rw [hps] at ih ⊢
    rcases List.mem_cons.mp h with rfl | h
    · refine ⟨c :: p, ?_, by simp⟩
      rw [if_neg (by simpa using hc)]
      simp
    · obtain ⟨part, hmem, hpart⟩ := ih h
      split
      · exact ⟨part, List.mem_cons_of_mem _ hmem, hpart⟩
      · rcases List.mem_cons.mp hmem with rfl | hmem
        · exact ⟨d :: part, by simp, List.mem_cons_of_mem _ hpart⟩
        · exact ⟨part, by simp [hmem], hpart⟩

theorem isDigit_of_decimalOctet {cs : List Char} {o : Fin 256} (h : decimalOctet cs = some o) :
    ∀ c ∈ cs, c.isDigit = true := by
  unfold decimalOctet at h
  split at h
  · rename_i hcs
    exact List.all_eq_true.mp hcs.2.1
  · cases h

theorem exists_of_mapM {α β : Type} {f : α → Option β} {l : List α} {bs : List β}
    (h : l.mapM f = some bs) : (∀ a ∈ l, ∃ b, f a = some b) ∧ bs.length = l.length := by
  induction l generalizing bs with
  | nil =>
    obtain rfl : bs = [] := by simpa using h.symm
    simp
  | cons a l ih =>
    simp only [List.mapM_cons, Option.bind_eq_bind, Option.pure_def, Option.bind_eq_some_iff,
      Option.some.injEq] at h
    obtain ⟨b, hb, cs, hcs, rfl⟩ := h
    obtain ⟨hl, hlen⟩ := ih hcs
    exact ⟨List.forall_mem_cons.mpr ⟨⟨b, hb⟩, hl⟩, by simp [hlen]⟩

/-- The parts of a dotted quad are four octets. -/
theorem ipv4Address_parts {cs : List Char} {os : Octets} (h : ipv4Address cs = some os) :
    (∀ part ∈ cs.splitOn '.', ∃ o, decimalOctet part = some o) ∧ (cs.splitOn '.').length = 4 := by
  unfold ipv4Address at h
  split at h
  · rename_i bs hbs
    obtain ⟨hparts, hlen⟩ := exists_of_mapM hbs
    split at h
    · rename_i h4
      exact ⟨hparts, hlen ▸ h4⟩
    · cases h
  · cases h

/-- A dotted quad has digits and dots only. -/
theorem ipv4Address_chars {cs : List Char} {os : Octets} (h : ipv4Address cs = some os) {c : Char}
    (hc : c ∈ cs) : c = '.' ∨ c.isDigit = true := by
  by_cases hdot : c = '.'
  · exact .inl hdot
  · obtain ⟨part, hmem, hpart⟩ := exists_part_of_mem hc hdot
    obtain ⟨o, ho⟩ := (ipv4Address_parts h).1 part hmem
    exact .inr (isDigit_of_decimalOctet ho c hpart)

theorem dot_mem_of_ipv4Address {cs : List Char} {os : Octets} (h : ipv4Address cs = some os) :
    '.' ∈ cs := by
  by_contra hdot
  have hlen := (ipv4Address_parts h).2
  rw [List.splitOn_eq_singleton hdot] at hlen
  simp at hlen

theorem hextet_eq_none_of_dot {cs : List Char} (h : '.' ∈ cs) : hextet cs = none := by
  have hall : ¬ (cs.all isHexDigit = true) := by
    intro hall
    exact absurd (List.all_eq_true.mp hall '.' h) (by decide)
  unfold hextet
  rw [if_neg (fun hcs => hall hcs.2.1)]

theorem length_partHextets_singleton {part : List Char} {hs : List (Fin 65536)}
    (h : partHextets [part] = some hs) : hs.length ≤ 2 := by
  unfold partHextets at h
  split at h
  · obtain ⟨os, -, rfl⟩ := Option.map_eq_some_iff.mp h
    unfold octetHextets
    split <;> simp
  · obtain ⟨n, -, rfl⟩ := Option.map_eq_some_iff.mp h
    simp

/-- An IPv6 address has a colon. -/
theorem ipv6Address_eq_none_of_no_colon {cs : List Char} (h : ':' ∉ cs) :
    ipv6Address cs = none := by
  unfold ipv6Address
  rw [List.splitOn_eq_singleton h]
  by_cases hcs : cs = []
  · simp [skipSplit, hcs]
  · have hskip : skipSplit [cs] = some ([cs], none) := by simp [skipSplit, hcs]
    rw [hskip]
    cases hp : partHextets [cs] with
    | none => simp [hp]
    | some hs =>
      have := length_partHextets_singleton hp
      simp [hp, show hs.length ≠ 8 by omega]

theorem skipSplit_first {part : List Char} {parts hi : List (List Char)}
    {lo : Option (List (List Char))} (hpart : part ≠ [])
    (h : skipSplit (part :: parts) = some (hi, lo)) :
    ∃ tail, hi = part :: tail ∧ (lo = none → tail = parts) := by
  have htake : (part :: parts).takeWhile (· ≠ []) = part :: parts.takeWhile (· ≠ []) := by
    simp [hpart]
  unfold skipSplit at h
  simp only [htake] at h
  split at h
  · rename_i hdrop
    obtain ⟨rfl, rfl⟩ := Prod.mk.inj (Option.some.inj h)
    refine ⟨_, rfl, fun _ => ?_⟩
    have hlen := List.drop_eq_nil_iff.mp hdrop
    exact (List.takeWhile_prefix _).eq_of_length_le (by simpa using hlen)
  · rename_i hnil _
    cases hnil
  · cases h
  · obtain ⟨rfl, rfl⟩ := Prod.mk.inj (Option.some.inj h)
    exact ⟨_, rfl, fun hlo => by cases hlo⟩
  · cases h

/-- What stands before the first colon of an IPv6 address is no dotted quad. -/
theorem ipv6Address_eq_none_of_dot {cs ds : List Char} (hc : ':' ∉ cs) (h : '.' ∈ cs) :
    ipv6Address (cs ++ ':' :: ds) = none := by
  have hcs : cs ≠ [] := List.ne_nil_of_mem h
  have hnone := hextet_eq_none_of_dot h
  unfold ipv6Address
  rw [List.splitOn_append_cons_self_of_not_mem hc]
  obtain ⟨p, ps, hps⟩ := List.exists_cons_of_ne_nil (List.splitOn_ne_nil ':' ds)
  rw [hps]
  cases hskip : skipSplit (cs :: p :: ps) with
  | none => rfl
  | some r =>
    obtain ⟨hi, lo⟩ := r
    obtain ⟨tail, rfl, htail⟩ := skipSplit_first hcs hskip
    cases lo with
    | none =>
      rw [htail rfl]
      simp [partHextets, hnone]
    | some lo => simp [hnone]

theorem ipAddress_eq_ipv4 {text : String} (h : ':' ∉ text.toList) :
    ipAddress text = (ipv4Address text.toList).map .v4 := by
  unfold ipAddress
  rw [ipv6Address_eq_none_of_no_colon h]
  cases ipv4Address text.toList <;> rfl

/-- A dotted quad that a colon follows begins no address. -/
theorem ipAddress_eq_none_of_ipv4_colon {cs ds : List Char} {os : Octets}
    (h : ipv4Address cs = some os) : ipAddress (String.ofList (cs ++ ':' :: ds)) = none := by
  have hc : ':' ∉ cs := by
    intro hc
    exact absurd (ipv4Address_chars h hc) (by decide)
  have hv4 : ipv4Address (cs ++ ':' :: ds) = none := by
    cases hv4 : ipv4Address (cs ++ ':' :: ds) with
    | none => rfl
    | some qs =>
      have hmem : ':' ∈ cs ++ ':' :: ds := by simp
      exact absurd (ipv4Address_chars hv4 hmem) (by decide)
  unfold ipAddress
  rw [String.toList_ofList, hv4, ipv6Address_eq_none_of_dot hc (dot_mem_of_ipv4Address h)]
  rfl

end DevSecOpsPlatform.IpAddresses
