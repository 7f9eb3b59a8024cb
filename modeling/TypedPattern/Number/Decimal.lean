import TypedPattern.Text.Digits
import TypedPattern.Number.Power

/-! Decimal numbers with a coefficient of at most 96 bits and at most 28 places. -/

namespace TypedPattern

/-- The number `coefficient / 10 ^ scale`, or its negative. -/
structure Decimal where
  negative : Bool
  coefficient : Nat
  scale : Nat
  deriving DecidableEq, Repr

namespace Decimal

open Text

def maxCoefficient : Nat :=
  twoTo 96 - 1

def maxScale : Nat :=
  28

/-- A decimal; zero has no sign. -/
def make (negative : Bool) (coefficient scale : Nat) : Decimal :=
  ⟨negative && coefficient != 0, coefficient, scale⟩

def numerator (d : Decimal) : Int :=
  if d.negative then -(d.coefficient : Int) else d.coefficient

/-- Equality of the numbers, whatever their scales. -/
def numericEq (a b : Decimal) : Bool :=
  a.numerator * tenTo b.scale == b.numerator * tenTo a.scale

/-- All places of the scale are written. -/
def toText (d : Decimal) : String :=
  let ds := padLeft (d.scale + 1) (decimal d.coefficient)
  let whole := ds.take (ds.length - d.scale)
  let fraction := ds.drop (ds.length - d.scale)
  String.ofList <| (if d.negative then ['-'] else []) ++ whole ++
    (if fraction.isEmpty then [] else '.' :: fraction)

/-- Rounds half up at the first digit that does not fit, `next`. Where rounding itself does not fit, the last place
is given up. -/
def roundLast (negative : Bool) (coefficient scale : Nat) (next : Char) : Option Decimal :=
  let digit? : Option Nat :=
    if isDigit next then some (digitValue next) else if next = '_' ∨ next = '.' then some 0 else none
  match digit? with
  | none => none
  | some digit =>
    let rounded := if 5 ≤ digit then coefficient + 1 else coefficient
    if rounded ≤ maxCoefficient then some (make negative rounded scale)
    else if scale = 0 then none
    else some (make negative ((rounded + 4) / 10) (scale - 1))

/-- Reads on after some digits. `point` tells whether the point has been seen, `started` whether a digit has.
Digits past the places or the coefficient are rounded away once the point has been seen. -/
def readFrom (negative : Bool) : (point started : Bool) → (coefficient scale : Nat) → List Char → Option Decimal
  | _, started, coefficient, scale, [] => if started then some (make negative coefficient scale) else none
  | point, started, coefficient, scale, c :: cs =>
    if point && started && decide (maxScale ≤ scale) then roundLast negative coefficient scale c
    else if isDigit c then
      let next := 10 * coefficient + digitValue c
      if next ≤ maxCoefficient then readFrom negative point true next (if point then scale + 1 else scale) cs
      else if point then roundLast negative coefficient scale c
      else none
    else if c = '.' ∧ !point then readFrom negative true started coefficient scale cs
    else if c = '_' ∧ started then readFrom negative point started coefficient scale cs
    else none

/-- Digits with an optional sign, one optional point, and underscores after the first digit. -/
def readPlain : List Char → Option Decimal
  | '-' :: cs => readFrom true false false 0 0 cs
  | '+' :: cs => readFrom false false false 0 0 cs
  | cs => readFrom false false false 0 0 cs

/-- An exponent without its minus: digits, with a plus allowed, below `2 ^ 32`. -/
def readExponent (cs : List Char) : Option Nat :=
  let ds := match cs with
    | '+' :: rest => rest
    | _ => cs
  if ds.isEmpty || !ds.all isDigit then none
  else if decimalValue ds < twoTo 32 then some (decimalValue ds) else none

/-- The decimal times `10 ^ exponent`; what is left of the exponent past the places goes to the coefficient. -/
def shiftUp (d : Decimal) (exponent : Nat) : Option Decimal :=
  if exponent ≤ d.scale then some ⟨d.negative, d.coefficient, d.scale - exponent⟩
  else if maxScale < exponent then none
  else
    let coefficient := d.coefficient * tenTo (exponent - d.scale)
    if coefficient ≤ maxCoefficient then some ⟨d.negative, coefficient, 0⟩ else none

def shiftDown (d : Decimal) (exponent : Nat) : Option Decimal :=
  if d.scale + exponent ≤ maxScale then some ⟨d.negative, d.coefficient, d.scale + exponent⟩ else none

/-- Reads a decimal, with an exponent after `e` if there is one. -/
def read (cs : List Char) : Option Decimal :=
  let isMark (c : Char) : Bool := c == 'e' || c == 'E'
  match cs.dropWhile fun c => !isMark c with
  | [] => readPlain cs
  | _ :: exponent => do
    let d ← readPlain (cs.takeWhile fun c => !isMark c)
    match exponent with
    | '-' :: digits => shiftDown d (← readExponent digits)
    | _ => shiftUp d (← readExponent exponent)

end Decimal

end TypedPattern
