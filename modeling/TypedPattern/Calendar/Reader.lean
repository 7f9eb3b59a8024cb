import TypedPattern.Unicode.Classes
import TypedPattern.Text.Utf8
import TypedPattern.Number.Integer
import TypedPattern.Calendar.Moment
import TypedPattern.Number.Power

/-! Reading dates, times and moments. -/

namespace TypedPattern.Calendar

open Text

inductive ReadError where
  | outOfRange
  | invalid
  | tooShort
  | trailing
  | missingTime
  | offsetHours
  | offsetNumber (cause : Integer.ReadError)
  | offsetRange
  | noLocalTime
  deriving DecidableEq, Repr

def maxInt64 : Nat :=
  twoTo 63 - 1

def skipWhite (cs : List Char) : List Char :=
  cs.dropWhile isWhite

/-- Digits up to a width, at least one of them. -/
def number (width : Option Nat) (cs : List Char) : Except ReadError (Nat × List Char) :=
  let run := cs.takeWhile isDigit
  let ds := match width with
    | some w => run.take w
    | none => run
  if cs.isEmpty then .error .tooShort
  else if ds.isEmpty then .error .invalid
  else if maxInt64 < decimalValue ds then .error .outOfRange
  else .ok (decimalValue ds, cs.drop ds.length)

/-- A field: blanks, then a number of at most two digits, between two bounds. -/
def field (lo hi : Nat) (cs : List Char) : Except ReadError (Nat × List Char) := do
  let (n, rest) ← number (some 2) (skipWhite cs)
  if lo ≤ n ∧ n ≤ hi then .ok (n, rest) else .error .outOfRange

/-- A year: four digits at most, or a sign and any number of them. -/
def year (cs : List Char) : Except ReadError (Int × List Char) := do
  let (n, rest) ← match skipWhite cs with
    | '-' :: ds => (number none ds).map fun (n, rest) => (-(n : Int), rest)
    | '+' :: ds => (number none ds).map fun (n, rest) => ((n : Int), rest)
    | ds => (number (some 4) ds).map fun (n, rest) => ((n : Int), rest)
  if -(twoTo 31 : Int) ≤ n ∧ n < twoTo 31 then .ok (n, rest) else .error .outOfRange

def mark (c : Char) : List Char → Except ReadError (List Char)
  | [] => .error .tooShort
  | d :: rest => if d = c then .ok rest else .error .invalid

def finish : List Char → Except ReadError Unit
  | [] => .ok ()
  | _ :: _ => .error .trailing

/-- A year, a month and a day with hyphens between them. -/
def readDate (cs : List Char) : Except ReadError Date := do
  let (y, cs) ← year cs
  let cs ← mark '-' cs
  let (m, cs) ← field 1 12 cs
  let cs ← mark '-' cs
  let (d, cs) ← field 1 31 cs
  finish cs
  let date : Date := ⟨y, m, d⟩
  if date.Valid then .ok date else .error .outOfRange

/-- A fraction of a second after a point, cut after nine digits. -/
def fraction : List Char → Except ReadError (Nat × List Char)
  | '.' :: cs => do
    let (n, rest) ← number (some 9) cs
    .ok (n * tenTo (9 - (cs.length - rest.length)), rest.dropWhile isDigit)
  | cs => .ok (0, cs)

/-- Hours, minutes and, if `withSeconds`, seconds and their fraction. -/
def readClock (withSeconds : Bool) (cs : List Char) : Except ReadError Clock := do
  let (h, cs) ← field 0 23 cs
  let cs ← mark ':' cs
  let (m, cs) ← field 0 59 cs
  if withSeconds then
    let cs ← mark ':' cs
    let (s, cs) ← field 0 60 cs
    let (n, cs) ← fraction cs
    finish cs
    .ok ⟨h, m, s, n⟩
  else
    finish cs
    .ok ⟨h, m, 0, 0⟩

/-- The seconds that an offset's hours and minutes make, hours first, colons anywhere. -/
def readOffset (negative : Bool) (cs : List Char) : Except ReadError Int := do
  let ds := cs.filter (· != ':')
  let hours ← match takeBytes 2 ds with
    | some hs => (Integer.read 32 hs).mapError .offsetNumber
    | none => .error .offsetHours
  let minutes ← match (dropBytes 2 ds).getD [] with
    | [] => .ok 0
    | ms => (Integer.read 32 ms).mapError .offsetNumber
  let seconds := (if negative then -1 else 1) * (hours * 3600 + minutes * 60)
  if -86400 < seconds ∧ seconds < 86400 then .ok seconds else .error .offsetRange

def isSign (c : Char) : Bool :=
  c == '+' || c == '-'

/-- Cuts an offset off: a letter for universal time at the end, or what follows the first sign. -/
def cutOffset (cs : List Char) : Except ReadError (List Char × Option Int) :=
  let last := cs.getLast?
  if last = some 'Z' ∨ last = some 'z' then .ok (cs.dropLast, some 0)
  else match cs.dropWhile fun c => !isSign c with
    | [] => .ok (cs, none)
    | c :: rest => (readOffset (c == '-') rest).map fun offset => (cs.takeWhile fun c => !isSign c, some offset)

def isTimeMark (c : Char) : Bool :=
  c == 'T' || c == 't' || c == ' '

/-- A moment, and its offset if it has one. -/
def readMoment (cs : List Char) : Except ReadError (Moment × Option Int) :=
  match cs.dropWhile fun c => !isTimeMark c with
  | [] => .error .missingTime
  | _ :: rest => do
    let date ← readDate (cs.takeWhile fun c => !isTimeMark c)
    let (time, offset) ← cutOffset rest
    let time := time.map fun c => if c = ',' then '.' else c
    let clock ← readClock (time.count ':' == 2) time
    match offset with
    | none => .ok (⟨date, clock⟩, none)
    | some seconds =>
      if (ZonedMoment.mk ⟨date, clock⟩ seconds).Covered then .ok (⟨date, clock⟩, some seconds)
      else .error .noLocalTime

end TypedPattern.Calendar
