import TypedPattern.Text.Json
import TypedPattern.Number.Binary64Text
import TypedPattern.Number.Decimal
import TypedPattern.Number.Integer
import TypedPattern.Calendar.Moment

/-! The values that captured text is converted to. -/

namespace TypedPattern

open Calendar (Date Moment ZonedMoment)

inductive Value where
  | null
  | text (s : String)
  | int (n : Int)
  | float (x : Binary64)
  | decimal (d : Decimal)
  | date (d : Date)
  | moment (m : Moment)
  | zoned (z : ZonedMoment)
  deriving DecidableEq, Repr

namespace Value

def toText : Value → String
  | null => ""
  | text s => s
  | int n => Integer.toText n
  | float x => x.toText
  | decimal d => d.toText
  | date d => d.toText
  | moment m => m.toText
  | zoned z => z.toText

/-- Whole numbers and floats are JSON numbers; decimals, dates and moments are JSON strings. -/
def toJson : Value → String
  | null => "null"
  | text s => Text.Json.string s
  | int n => Integer.toText n
  | float x => x.toJson
  | decimal d => Text.Json.string d.toText
  | date d => Text.Json.string d.toText
  | moment m => Text.Json.string m.toText
  | zoned z => Text.Json.string z.toExchangeText

def text? : Value → Option String
  | text s => some s
  | _ => none

def int? : Value → Option Int
  | int n => some n
  | _ => none

/-- The number as a float, if it is a float or a whole number. -/
def float? : Value → Option Binary64
  | float x => some x
  | int n => some (.ofInt n)
  | _ => none

def isNull : Value → Bool
  | null => true
  | _ => false

/-- Equality of what is denoted: numbers by their size, zoned moments by their instant. -/
def same : Value → Value → Bool
  | float x, float y => x.numericEq y
  | decimal x, decimal y => x.numericEq y
  | zoned x, zoned y => x.sameInstant y
  | x, y => x == y

end Value

end TypedPattern
