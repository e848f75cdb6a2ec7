import DevSecOpsPlatform.PythonValues

/-!
# RFC 3339 timestamps

`rfc3339` reads `2024-01-01T00:00:00.5+02:00` as microseconds since the epoch. The letters
are upper case, a fraction may have any number of digits of which six count, and there are
no leap seconds.
-/

namespace DevSecOpsPlatform.Rfc3339Timestamps

open PythonValues

/-- Days from 1970-01-01 to a day of the proleptic Gregorian calendar. -/
def dayNumber (year month day : ℕ) : ℤ :=
  let y : ℤ := if month ≤ 2 then (year : ℤ) - 1 else year
  let m : ℤ := if month ≤ 2 then (month : ℤ) + 9 else (month : ℤ) - 3
  let yoe := y % 400
  let doy := (153 * m + 2) / 5 + (day : ℤ) - 1
  y / 400 * 146097 + (yoe * 365 + yoe / 4 - yoe / 100 + doy) - 719468

def isLeapYear (year : ℕ) : Bool := year % 4 == 0 && (year % 100 != 0 || year % 400 == 0)

def daysInMonth (year month : ℕ) : ℕ :=
  if month = 2 then (if isLeapYear year then 29 else 28)
  else if month ∈ [4, 6, 9, 11] then 30 else 31

def decimal (cs : List Char) : ℕ := cs.foldl (fun n c => 10 * n + (c.toNat - '0'.toNat)) 0

/-- A number of exactly `n` digits, and what follows it. -/
def digits (n : ℕ) (cs : List Char) : Option (ℕ × List Char) :=
  if (cs.take n).length = n ∧ (cs.take n).all Char.isDigit then
    some (decimal (cs.take n), cs.drop n)
  else none

def literal (c : Char) : List Char → Option (List Char)
  | d :: cs => if d = c then some cs else none
  | [] => none

/-- The microseconds of an optional fraction. -/
def fraction (cs : List Char) : Option (ℕ × List Char) :=
  match literal '.' cs with
  | none => some (0, cs)
  | some cs =>
    let ds := cs.takeWhile Char.isDigit
    if ds = [] then none
    else some (decimal ((ds ++ List.replicate 6 '0').take 6), cs.drop ds.length)

/-- The seconds by which the local time of a zone is ahead of UTC. -/
def offset : List Char → Option ℤ
  | ['Z'] => some 0
  | sign :: cs => do
    let (hours, cs) ← digits 2 cs
    let cs ← literal ':' cs
    let (minutes, cs) ← digits 2 cs
    let seconds : ℤ := 3600 * hours + 60 * minutes
    if cs = [] ∧ hours ≤ 23 ∧ minutes ≤ 59 then
      if sign = '+' then some seconds else if sign = '-' then some (-seconds) else none
    else none
  | [] => none

def rfc3339 (text : String) : Option DateTime := do
  let (year, cs) ← digits 4 text.toList
  let (month, cs) ← digits 2 (← literal '-' cs)
  let (day, cs) ← digits 2 (← literal '-' cs)
  let (hour, cs) ← digits 2 (← literal 'T' cs)
  let (minute, cs) ← digits 2 (← literal ':' cs)
  let (second, cs) ← digits 2 (← literal ':' cs)
  let (micros, cs) ← fraction cs
  let ahead ← offset cs
  if 1 ≤ year ∧ 1 ≤ month ∧ month ≤ 12 ∧ 1 ≤ day ∧ day ≤ daysInMonth year month ∧
      hour ≤ 23 ∧ minute ≤ 59 ∧ second ≤ 59 then
    let seconds : ℤ := 86400 * dayNumber year month day + 3600 * hour + 60 * minute + second
    some (1000000 * (seconds - ahead) + micros)
  else none

@[simp] theorem rfc3339_empty : rfc3339 "" = none := rfl

example : (rfc3339 "2024-06-01T14:00:00.000005+02:00").map isoText =
    some "2024-06-01T12:00:00.000005Z" := by decide

example : rfc3339 "0001-01-01T00:00:00Z" = some (-62135596800000000) := by decide

end DevSecOpsPlatform.Rfc3339Timestamps
