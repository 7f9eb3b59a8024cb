import TypedPattern.Calendar.Date
import TypedPattern.Number.Power

/-! Times of day, moments, and moments with an offset from universal time. -/

namespace TypedPattern.Calendar

/-- A time of day; the second is 60 in a leap second. -/
structure Clock where
  hour : Nat
  minute : Nat
  second : Nat
  nanosecond : Nat
  deriving DecidableEq, Repr

def Clock.Valid (t : Clock) : Prop :=
  t.hour ≤ 23 ∧ t.minute ≤ 59 ∧ t.second ≤ 60 ∧ t.nanosecond < tenTo 9

instance (t : Clock) : Decidable t.Valid := by
  unfold Clock.Valid
  infer_instance

/-- Nothing, or a point and as many of three, six or nine digits as it takes. -/
def fractionText (nanosecond : Nat) : List Char :=
  if nanosecond = 0 then []
  else if nanosecond % tenTo 6 = 0 then '.' :: Text.padLeft 3 (Text.decimal (nanosecond / tenTo 6))
  else if nanosecond % tenTo 3 = 0 then '.' :: Text.padLeft 6 (Text.decimal (nanosecond / tenTo 3))
  else '.' :: Text.padLeft 9 (Text.decimal nanosecond)

def Clock.chars (t : Clock) : List Char :=
  twoDigits t.hour ++ ':' :: twoDigits t.minute ++ ':' :: twoDigits t.second ++ fractionText t.nanosecond

structure Moment where
  date : Date
  clock : Clock
  deriving DecidableEq, Repr

def Moment.chars (m : Moment) : List Char :=
  m.date.chars ++ 'T' :: m.clock.chars

def Moment.toText (m : Moment) : String :=
  String.ofList m.chars

/-- Seconds on a scale without leap seconds; a leap second counts as the one before it. -/
def Moment.seconds (m : Moment) : Int :=
  86400 * m.date.dayNumber + (3600 * m.clock.hour + 60 * m.clock.minute + min m.clock.second 59 : Nat)

/-- Nanoseconds past `Moment.seconds`, at least `10 ^ 9` in a leap second. -/
def Moment.excess (m : Moment) : Nat :=
  (if m.clock.second = 60 then tenTo 9 else 0) + m.clock.nanosecond

/-- A moment as clocks show it that many seconds east of universal time. -/
structure ZonedMoment where
  moment : Moment
  offset : Int
  deriving DecidableEq, Repr

/-- The same instant, wherever it is shown. -/
def ZonedMoment.sameInstant (a b : ZonedMoment) : Bool :=
  a.moment.seconds - a.offset == b.moment.seconds - b.offset && a.moment.excess == b.moment.excess

/-- The instant lies in the years that the calendar covers. -/
def ZonedMoment.Covered (z : ZonedMoment) : Prop :=
  86400 * (Date.mk minYear 1 1).dayNumber ≤ z.moment.seconds - z.offset ∧
    z.moment.seconds - z.offset < 86400 * ((Date.mk maxYear 12 31).dayNumber + 1)

instance (z : ZonedMoment) : Decidable z.Covered := by
  unfold ZonedMoment.Covered
  infer_instance

def offsetChars (offset : Int) : List Char :=
  (if offset < 0 then '-' else '+') ::
    twoDigits (offset.natAbs / 3600) ++ ':' :: twoDigits (offset.natAbs / 60 % 60)

def ZonedMoment.toText (z : ZonedMoment) : String :=
  String.ofList (z.moment.chars ++ offsetChars z.offset)

/-- The text of data exchange, where universal time is marked by a letter. -/
def ZonedMoment.toExchangeText (z : ZonedMoment) : String :=
  String.ofList (z.moment.chars ++ (if z.offset = 0 then ['Z'] else offsetChars z.offset))

end TypedPattern.Calendar
