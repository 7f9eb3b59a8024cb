import TypedPattern.Text.Digits

/-! Dates of the proleptic Gregorian calendar. -/

namespace TypedPattern.Calendar

structure Date where
  year : Int
  month : Nat
  day : Nat
  deriving DecidableEq, Repr

def isLeapYear (year : Int) : Bool :=
  year % 4 == 0 && (year % 100 != 0 || year % 400 == 0)

def daysInMonth (year : Int) (month : Nat) : Nat :=
  if month = 2 then (if isLeapYear year then 29 else 28)
  else if month = 4 ∨ month = 6 ∨ month = 9 ∨ month = 11 then 30
  else 31

def minYear : Int :=
  -262143

def maxYear : Int :=
  262142

/-- The date exists, in a year that the calendar covers. -/
def Date.Valid (d : Date) : Prop :=
  minYear ≤ d.year ∧ d.year ≤ maxYear ∧ 1 ≤ d.month ∧ d.month ≤ 12 ∧ 1 ≤ d.day ∧ d.day ≤ daysInMonth d.year d.month

instance (d : Date) : Decidable d.Valid := by
  unfold Date.Valid
  infer_instance

/-- Four digits, and a sign in front of years that need more or are negative. -/
def yearText (year : Int) : List Char :=
  let ds := Text.padLeft 4 (Text.decimal year.natAbs)
  if year < 0 then '-' :: ds else if 9999 < year then '+' :: ds else ds

def twoDigits (n : Nat) : List Char :=
  Text.padLeft 2 (Text.decimal n)

def Date.chars (d : Date) : List Char :=
  yearText d.year ++ '-' :: twoDigits d.month ++ '-' :: twoDigits d.day

def Date.toText (d : Date) : String :=
  String.ofList d.chars

/-- The number of days before the first of March of a year, counted from that of the year zero. -/
def daysBeforeMarch (year : Int) : Int :=
  365 * year + year / 4 - year / 100 + year / 400

/-- A count of days that grows by one from each date to the next. -/
def Date.dayNumber (d : Date) : Int :=
  let (year, month) := if d.month ≤ 2 then (d.year - 1, d.month + 9) else (d.year, d.month - 3)
  daysBeforeMarch year + ((153 * month + 2) / 5 : Nat) + d.day

end TypedPattern.Calendar
