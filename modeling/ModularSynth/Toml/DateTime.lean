import ModularSynth.Toml.Scan
import ModularSynth.Toml.Value

/-!
This module contains the reading of TOML dates and times. A patch has no use for them, so they are
checked and kept as they are written.
-/

namespace ModularSynth
namespace Toml

def isLeapYear (year : Nat) : Bool :=
  year % 4 = 0 && (year % 100 ≠ 0 || year % 400 = 0)

def daysInMonth (year month : Nat) : Nat :=
  if month = 2 then
    if isLeapYear year then 29 else 28
  else if [4, 6, 9, 11].contains month then
    30
  else
    31

/-! The readers below give the text of what they take. -/

def date? (s : List Char) : Option (List Char × List Char) := do
  let (year, rest) ← fixedDigits? 4 s
  let rest ← expect? '-' rest
  let (month, rest) ← fixedDigits? 2 rest
  let rest ← expect? '-' rest
  let (day, rest) ← fixedDigits? 2 rest
  if 1 ≤ month ∧ month ≤ 12 ∧ 1 ≤ day ∧ day ≤ daysInMonth year month then
    some (s.take 10, rest)
  else
    none

/-- A point with digits behind it, if there is one. -/
def secondFraction : List Char → List Char × List Char
  | '.' :: c :: s =>
    if c.isDigit then
      ('.' :: c :: s.takeWhile Char.isDigit, s.dropWhile Char.isDigit)
    else
      ([], '.' :: c :: s)
  | s => ([], s)

/-- Hours and minutes, `hour:minute`. -/
def hourMinute? (s : List Char) : Option (List Char × List Char) := do
  let (hour, rest) ← fixedDigits? 2 s
  let rest ← expect? ':' rest
  let (minute, rest) ← fixedDigits? 2 rest
  if hour ≤ 23 ∧ minute ≤ 59 then some (s.take 5, rest) else none

/-- A time, `hour:minute:second`, in which a minute may have a leap second. -/
def time? (s : List Char) : Option (List Char × List Char) := do
  let (_, rest) ← hourMinute? s
  let rest ← expect? ':' rest
  let (second, rest) ← fixedDigits? 2 rest
  let (fraction, rest) := secondFraction rest
  if second ≤ 60 then some (s.take 8 ++ fraction, rest) else none

def offset? : Reader (List Char)
  | [] => none
  | c :: s =>
    if c = 'Z' || c = 'z' then some ([c], s)
    else if c = '+' || c = '-' then (hourMinute? s).map fun (taken, rest) => (c :: taken, rest)
    else none

/-- A time behind a date, with or without an offset. -/
def timeOfDate? : Reader (List Char)
  | [] => none
  | c :: s =>
    if c = 'T' || c = 't' || c = ' ' then do
      let (time, rest) ← time? s
      let (offset, rest) := (offset? rest).getD ([], rest)
      return (c :: time ++ offset, rest)
    else
      none

def dateTime? (s : List Char) : Option (Value × List Char) := do
  let (taken, rest) ← match date? s with
    | some (date, rest) =>
      let (time, rest) := (timeOfDate? rest).getD ([], rest)
      some (date ++ time, rest)
    | none => time? s
  return (.dateTime (String.ofList taken), rest)

end Toml
end ModularSynth
