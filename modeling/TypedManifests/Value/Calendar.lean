/-
Module: TypedManifests.Value.Calendar
Purpose: Calendar dates and times of day, and their texts.
Main exports: Date, Timestamp, Date.valid, Date.next, Timestamp.nextSecond, Timestamp.iso
-/

namespace TypedManifests

structure Date where
  year : Nat
  month : Nat
  day : Nat
deriving DecidableEq, Repr, Inhabited

/-- A date with a time of day; `offset` is the distance from universal time in seconds. -/
structure Timestamp where
  date : Date
  hour : Nat
  minute : Nat
  second : Nat
  microsecond : Nat
  offset : Option Int
deriving DecidableEq, Repr, Inhabited

/-- `n` with zeros in front, up to the given number of digits. -/
def padded (width n : Nat) : String :=
  let digits := Nat.toDigits 10 n
  String.ofList (List.replicate (width - digits.length) '0' ++ digits)

namespace Date

def isLeap (year : Nat) : Bool :=
  year % 4 = 0 && (year % 100 ≠ 0 || year % 400 = 0)

def daysIn (year : Nat) : Nat → Nat
  | 2 => if isLeap year then 29 else 28
  | 4 | 6 | 9 | 11 => 30
  | _ => 31

/-- The date is one of the calendar, in the years 1 to 9999. -/
def valid (d : Date) : Bool :=
  1 ≤ d.year && d.year ≤ 9999 && 1 ≤ d.month && d.month ≤ 12 && 1 ≤ d.day &&
    d.day ≤ daysIn d.year d.month

/-- The day after. -/
def next (d : Date) : Date :=
  if d.day < daysIn d.year d.month then { d with day := d.day + 1 }
  else if d.month < 12 then ⟨d.year, d.month + 1, 1⟩
  else ⟨d.year + 1, 1, 1⟩

/-- Year, month and day, with hyphens. -/
def iso (d : Date) : String :=
  padded 4 d.year ++ "-" ++ padded 2 d.month ++ "-" ++ padded 2 d.day

end Date

namespace Timestamp

def valid (t : Timestamp) : Bool :=
  t.date.valid && t.hour < 24 && t.minute < 60 && t.second < 60

/-- The time one second later. -/
def nextSecond (t : Timestamp) : Timestamp :=
  if t.second < 59 then { t with second := t.second + 1 }
  else if t.minute < 59 then { t with second := 0, minute := t.minute + 1 }
  else if t.hour < 23 then { t with second := 0, minute := 0, hour := t.hour + 1 }
  else { t with date := t.date.next, hour := 0, minute := 0, second := 0 }

/-- Hours and minutes from universal time, and seconds unless they are zero. -/
def offsetText : Option Int → String
  | none => ""
  | some seconds =>
    let n := seconds.natAbs
    (if seconds < 0 then "-" else "+") ++ padded 2 (n / 3600) ++ ":" ++ padded 2 (n / 60 % 60) ++
      (if n % 60 = 0 then "" else ":" ++ padded 2 (n % 60))

/-- Date and time in one line, with `separator` between. -/
def iso (separator : String) (t : Timestamp) : String :=
  t.date.iso ++ separator ++ padded 2 t.hour ++ ":" ++ padded 2 t.minute ++ ":" ++
    padded 2 t.second ++
    (if t.microsecond = 0 then "" else "." ++ padded 6 t.microsecond) ++ offsetText t.offset

end Timestamp

end TypedManifests
