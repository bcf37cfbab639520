import Mathlib

namespace Js

def padLeft (width : Nat) (n : Nat) : String :=
  let digits := toString n
  String.ofList (List.replicate (width - digits.length) '0') ++ digits

/-- Year, month and day of a day counted from 1970-01-01. -/
def civilFromDays (days : Int) : Int × Nat × Nat :=
  -- counted from 0000-03-01, so that the leap day ends a year
  let z := days + 719468
  let era := z / 146097
  let doe := (z % 146097).toNat
  let yoe := (doe - doe / 1460 + doe / 36524 - doe / 146096) / 365
  let doy := doe - (365 * yoe + yoe / 4 - yoe / 100)
  let mp := (5 * doy + 2) / 153
  let day := doy - (153 * mp + 2) / 5 + 1
  let month := if mp < 10 then mp + 3 else mp - 9
  let year := Int.ofNat yoe + era * 400 + if month ≤ 2 then 1 else 0
  (year, month, day)

/-- `new Date(ms).toISOString()`. -/
def toISOString (ms : Int) : String :=
  let (year, month, day) := civilFromDays (ms / 86400000)
  let rest := (ms % 86400000).toNat
  let yearText :=
    if 0 ≤ year ∧ year ≤ 9999 then padLeft 4 year.toNat
    else (if year < 0 then "-" else "+") ++ padLeft 6 year.natAbs
  yearText ++ "-" ++ padLeft 2 month ++ "-" ++ padLeft 2 day ++ "T" ++
    padLeft 2 (rest / 3600000) ++ ":" ++ padLeft 2 (rest / 60000 % 60) ++ ":" ++
    padLeft 2 (rest / 1000 % 60) ++ "." ++ padLeft 3 (rest % 1000) ++ "Z"

example : toISOString 1709210096789 = "2024-02-29T12:34:56.789Z" := by decide +kernel

/-- The day counted from 1970-01-01 of a year, month and day. -/
def daysFromCivil (year : Int) (month day : Nat) : Int :=
  let y := if month ≤ 2 then year - 1 else year
  let era := y / 400
  let yoe := (y % 400).toNat
  let mp := if month > 2 then month - 3 else month + 9
  let doy := (153 * mp + 2) / 5 + day - 1
  let doe := yoe * 365 + yoe / 4 - yoe / 100 + doy
  era * 146097 + Int.ofNat doe - 719468

/-- The milliseconds of an instant of the years 0 to 9999 as `toISOString` writes it. -/
def fromISOString (s : String) : Option Int := do
  match s.toList with
  | [y1, y2, y3, y4, '-', m1, m2, '-', d1, d2, 'T', h1, h2, ':', n1, n2, ':', s1, s2, '.', f1, f2, f3, 'Z'] =>
    let year ← number [y1, y2, y3, y4]
    let month ← number [m1, m2]
    let day ← number [d1, d2]
    let hours ← number [h1, h2]
    let minutes ← number [n1, n2]
    let seconds ← number [s1, s2]
    let fraction ← number [f1, f2, f3]
    return daysFromCivil year month day * 86400000 +
      Int.ofNat (hours * 3600000 + minutes * 60000 + seconds * 1000 + fraction)
  | _ => none
where
  number (digits : List Char) : Option Nat :=
    if digits.all Char.isDigit then some (digits.foldl (fun n d => 10 * n + (d.toNat - '0'.toNat)) 0) else none

example : fromISOString "2024-02-29T12:34:56.789Z" = some 1709210096789 := by decide +kernel

end Js
