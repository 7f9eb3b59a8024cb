import TypedPattern.Value
import TypedPattern.Calendar.Reader

/-! Converters: from captured text to values. -/

namespace TypedPattern

inductive ConvertError where
  | integer (cause : Integer.ReadError)
  | float (cause : Binary64.ReadError)
  | calendar (cause : Calendar.ReadError)
  | notHexadecimal
  | custom (message : String)
  deriving DecidableEq, Repr

def Integer.ReadError.message : Integer.ReadError → String
  | empty => "cannot parse integer from empty string"
  | invalidDigit => "invalid digit found in string"
  | tooLarge => "number too large to fit in target type"
  | tooSmall => "number too small to fit in target type"

def Binary64.ReadError.message : Binary64.ReadError → String
  | empty => "cannot parse float from empty string"
  | invalid => "invalid float literal"

def Calendar.ReadError.message : Calendar.ReadError → String
  | outOfRange => "input is out of range"
  | invalid => "input contains invalid characters"
  | tooShort => "premature end of input"
  | trailing => "trailing input"
  | missingTime => "missing time"
  | offsetHours => "offset needs hours"
  | offsetNumber cause => cause.message
  | offsetRange => "offset out of range"
  | noLocalTime => "ambiguous local time"

def ConvertError.message : ConvertError → String
  | integer cause => cause.message
  | float cause => cause.message
  | calendar cause => cause.message
  | notHexadecimal => "expected 32 hexadecimal digits"
  | custom message => message

abbrev Converter :=
  String → Except ConvertError Value

namespace Converter

open Text

def identity : Converter :=
  fun raw => .ok (.text raw)

def float : Converter := fun raw =>
  match Binary64.read raw.toList with
  | .ok x => .ok (.float x)
  | .error cause => .error (.float cause)

/-- A sign is taken off, and kept if it is a minus; a point in front gets a zero before it. -/
def readDecimal (cs : List Char) : Option Decimal :=
  let (sign, digits) : List Char × List Char := match cs with
    | '-' :: rest => (['-'], rest)
    | '+' :: rest => ([], rest)
    | _ => ([], cs)
  if digits.head? = some '.' then Decimal.read (sign ++ '0' :: digits) else Decimal.read (sign ++ digits)

/-- A decimal, or a float where the digits do not fit one. -/
def decimal : Converter := fun raw =>
  match readDecimal raw.toList with
  | some d => .ok (.decimal d)
  | none => float raw

/-- A whole number of 64 bits, or else what `decimal` makes of it. -/
def int : Converter := fun raw =>
  match Integer.read 64 raw.toList with
  | .ok n => .ok (.int n)
  | .error _ => decimal raw

/-- 32 hexadecimal digits in lower case, with hyphens after the 8th, 12th, 16th and 20th. -/
def hyphenate (ds : List Char) : List Char :=
  let part (start count : Nat) : List Char := (ds.drop start).take count
  part 0 8 ++ '-' :: part 8 4 ++ '-' :: part 12 4 ++ '-' :: part 16 4 ++ '-' :: ds.drop 20

/-- The normal form of an identifier: hyphens of the raw text do not count, nor does case. -/
def uuid : Converter := fun raw =>
  let ds := (raw.toList.filter (· != '-')).map asciiLower
  if ds.length = 32 ∧ ds.all isHexDigit then .ok (.text (String.ofList (hyphenate ds)))
  else .error .notHexadecimal

def date : Converter := fun raw =>
  match Calendar.readDate raw.toList with
  | .ok d => .ok (.date d)
  | .error cause => .error (.calendar cause)

def datetime : Converter := fun raw =>
  match Calendar.readMoment raw.toList with
  | .ok (m, none) => .ok (.moment m)
  | .ok (m, some offset) => .ok (.zoned ⟨m, offset⟩)
  | .error cause => .error (.calendar cause)

end Converter

end TypedPattern
