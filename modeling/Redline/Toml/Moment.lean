/-
  TOML dates and times.

  A moment is a date, a time, or a date and a time with `T`, `t` or a space between them, and then
  possibly an offset.  Months have their days of the Gregorian calendar; a minute may have a
  leap second.
-/
import Redline.Text.Numeral
import Redline.Toml.Scanner

namespace Redline.Toml.Scanner

/-- The number in the next `count` digits, if it is between `low` and `high`. -/
def numberBetween (count low high : Nat) : Scanner Nat := do
  let ds ← List.replicate count () |>.mapM fun _ => accept Char.isDigit
  let n := Text.digitsFrom 0 ds
  if low ≤ n ∧ n ≤ high then return n else failure

/-- Whether a year has a leap day. -/
def isLeapYear (year : Nat) : Bool :=
  year % 4 = 0 && (year % 100 ≠ 0 || year % 400 = 0)

/-- How many days a month has. -/
def daysInMonth (year month : Nat) : Nat :=
  if month = 2 then if isLeapYear year then 29 else 28
  else if month = 4 ∨ month = 6 ∨ month = 9 ∨ month = 11 then 30
  else 31

/-- A date. -/
def date : Scanner Unit := do
  let year ← numberBetween 4 0 9999
  char '-'
  let month ← numberBetween 2 1 12
  char '-'
  let _ ← numberBetween 2 1 (daysInMonth year month)

/-- A time of day. -/
def time : Scanner Unit := do
  let _ ← numberBetween 2 0 23
  char ':'
  let _ ← numberBetween 2 0 59
  char ':'
  let _ ← numberBetween 2 0 60
  let _ ← option (do char '.'; span1 Char.isDigit)

/-- The distance of a local time from the time of Greenwich. -/
def offset : Scanner Unit := do
  match ← accept fun c => c = 'Z' || c = 'z' || c = '+' || c = '-' with
  | '+' | '-' => do
    let _ ← numberBetween 2 0 23
    char ':'
    let _ ← numberBetween 2 0 59
  | _ => return ()

/-- A time behind a date. -/
def timeOfDate : Scanner Unit := do
  let _ ← accept fun c => c = 'T' || c = 't' || c = ' '
  time
  let _ ← option offset

/-- A date, a time or both, as they are written. -/
def moment : Scanner String :=
  source ((do date; let _ ← option timeOfDate) <|> time)

end Redline.Toml.Scanner
