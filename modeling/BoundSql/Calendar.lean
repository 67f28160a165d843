import BoundSql.Value

/-! # Dates and times

Dates of the Gregorian calendar, counted back before its start, and times of day to the
nanosecond. A leap second may follow any second and is held as that second with a nanosecond count
from one thousand million on. It is shown as the second behind: the sixtieth of the minute if it
follows the last one, and else the next second of the minute.
-/

namespace BoundSql

structure Date where
  year : Int
  month : Nat
  day : Nat
  deriving DecidableEq, Repr

structure TimeOfDay where
  hour : Nat
  minute : Nat
  second : Nat
  nanosecond : Nat
  deriving DecidableEq, Repr

inductive CalendarError where
  | noSuchDate
  | noSuchTime
  deriving DecidableEq, Repr

def CalendarError.message : CalendarError → String
  | noSuchDate => "no such date"
  | noSuchTime => "no such time"

namespace Calendar

/-- The digits of `n`, filled up with zeros in front. -/
def padded (width n : Nat) : String :=
  let digits := Nat.toDigits 10 n
  String.ofList (List.replicate (width - digits.length) '0' ++ digits)

def isLeap (year : Int) : Bool :=
  year % 4 == 0 && (year % 100 != 0 || year % 400 == 0)

def daysInMonth (year : Int) (month : Nat) : Nat :=
  if month = 2 then (if isLeap year then 29 else 28)
  else if month = 4 ∨ month = 6 ∨ month = 9 ∨ month = 11 then 30
  else 31

end Calendar

namespace Date

open Calendar

def firstYear : Int := -262143

def lastYear : Int := 262142

def Exists (d : Date) : Prop :=
  firstYear ≤ d.year ∧ d.year ≤ lastYear ∧ 1 ≤ d.month ∧ d.month ≤ 12 ∧
    1 ≤ d.day ∧ d.day ≤ daysInMonth d.year d.month

instance (d : Date) : Decidable d.Exists := by
  unfold Exists; infer_instance

/-- A year has four digits, and a sign when it is negative or has more. -/
def yearText (year : Int) : String :=
  if 0 ≤ year ∧ year ≤ 9999 then padded 4 year.toNat
  else (if year < 0 then "-" else "+") ++ padded 4 year.natAbs

def toText (d : Date) : String :=
  yearText d.year ++ "-" ++ padded 2 d.month ++ "-" ++ padded 2 d.day

def named (year : Int) (month day : Nat) : Except CalendarError Date :=
  let d : Date := ⟨year, month, day⟩
  if d.Exists then .ok d else .error .noSuchDate

def toValue (d : Date) : Value :=
  .text d.toText

end Date

namespace TimeOfDay

open Calendar

/-- The nanoseconds of a second. -/
def nanoseconds : Nat := 1000000000

def Exists (t : TimeOfDay) : Prop :=
  t.hour < 24 ∧ t.minute < 60 ∧ t.second < 60 ∧ t.nanosecond < 2 * nanoseconds

instance (t : TimeOfDay) : Decidable t.Exists := by
  unfold Exists; infer_instance

/-- The second of the minute that is shown, sixty in a leap second at the end of the minute. -/
def wholeSecond (t : TimeOfDay) : Nat :=
  t.second + t.nanosecond / nanoseconds

def toText (t : TimeOfDay) : String :=
  padded 2 t.hour ++ ":" ++ padded 2 t.minute ++ ":" ++ padded 2 t.wholeSecond

/-- The time of day that four numbers name; a leap second they name only at the end of a minute. -/
def named (hour minute second nanosecond : Nat) : Except CalendarError TimeOfDay :=
  let t : TimeOfDay := ⟨hour, minute, second, nanosecond⟩
  if t.Exists ∧ (t.nanosecond < nanoseconds ∨ t.second = 59) then .ok t else .error .noSuchTime

def toValue (t : TimeOfDay) : Value :=
  .text t.toText

end TimeOfDay

structure DateTime where
  date : Date
  time : TimeOfDay
  deriving DecidableEq, Repr

namespace DateTime

def toText (m : DateTime) : String :=
  m.date.toText ++ " " ++ m.time.toText

def toValue (m : DateTime) : Value :=
  .text m.toText

end DateTime

end BoundSql
