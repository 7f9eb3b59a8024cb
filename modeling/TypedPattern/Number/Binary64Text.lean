import TypedPattern.Number.Binary64
import TypedPattern.Text.Digits
import TypedPattern.Number.Power

/-! Reading doubles from decimal text, and writing them with the fewest digits that read back. -/

namespace TypedPattern.Binary64

open Text

inductive ReadError where
  | empty
  | invalid
  deriving DecidableEq, Repr

/-- An optional sign: whether it is a minus, and what follows. -/
def sign : List Char → Bool × List Char
  | '-' :: cs => (true, cs)
  | '+' :: cs => (false, cs)
  | cs => (false, cs)

/-- The exponent after a mantissa: nothing, or `e` and an integer up to the end. -/
def readExponent : List Char → Option Int
  | [] => some 0
  | c :: cs =>
    if c = 'e' ∨ c = 'E' then
      let (negative, ds) := sign cs
      if ds.isEmpty || !ds.all isDigit then none
      else some (if negative then -(decimalValue ds : Int) else decimalValue ds)
    else none

/-- Digits with an optional point among them and an optional exponent, or a name. -/
def readMagnitude (negative : Bool) (cs : List Char) : Option Binary64 :=
  let lower := cs.map asciiLower
  if lower = ['i', 'n', 'f'] ∨ lower = ['i', 'n', 'f', 'i', 'n', 'i', 't', 'y'] then some (infinity negative)
  else if lower = ['n', 'a', 'n'] then some nan
  else
    let whole := cs.takeWhile isDigit
    let rest := cs.dropWhile isDigit
    let (fraction, rest) := match rest with
      | '.' :: ds => (ds.takeWhile isDigit, ds.dropWhile isDigit)
      | _ => ([], rest)
    if whole.isEmpty && fraction.isEmpty then none
    else (readExponent rest).map fun e =>
      ofDecimal negative (decimalValue (whole ++ fraction)) (e - (fraction.length : Int))

def read (cs : List Char) : Except ReadError Binary64 :=
  if cs.isEmpty then .error .empty
  else
    let (negative, rest) := sign cs
    match readMagnitude negative rest with
    | some x => .ok x
    | none => .error .invalid

/-- A positive decimal `digits * 10 ^ exponent`. -/
structure Decimal where
  digits : Nat
  exponent : Int
  deriving DecidableEq, Repr

/-- Which of two equally near decimals is chosen. -/
inductive Tie where
  | upward
  | toEven
  deriving DecidableEq, Repr

/-- A positive double in units of `1 / den`: its value, and half the way to its two neighbours. -/
structure Neighbourhood where
  num : Nat
  below : Nat
  above : Nat
  den : Nat
  closed : Bool

/-- The numbers that are read as `m * 2 ^ e`; the way down is half as long at the least mantissa. -/
def neighbourhood (m : Nat) (e : Int) : Neighbourhood :=
  let unit := if 0 ≤ e then twoTo e.toNat else 1
  let den := if 0 ≤ e then 4 else 4 * twoTo (-e).toNat
  let narrow := m = twoTo 52 ∧ -1074 < e
  ⟨4 * m * unit, if narrow then unit else 2 * unit, 2 * unit, den, m % 2 = 0⟩

def Neighbourhood.holds (h : Neighbourhood) (num den : Nat) : Bool :=
  let x := num * h.den
  let lo := (h.num - h.below) * den
  let hi := (h.num + h.above) * den
  if h.closed then decide (lo ≤ x) && decide (x ≤ hi) else decide (lo < x) && decide (x < hi)

def powerOfTen (digits : Nat) (exponent : Int) : Nat × Nat :=
  if 0 ≤ exponent then (digits * tenTo exponent.toNat, 1) else (digits, tenTo (-exponent).toNat)

/-- The nearest multiple of `10 ^ exponent` in a neighbourhood, if one of the two around the value lies there. -/
def nearestAt (tie : Tie) (h : Neighbourhood) (exponent : Int) : Option Nat :=
  let (n, d) := if 0 ≤ exponent then (h.num, h.den * tenTo exponent.toNat)
    else (h.num * tenTo (-exponent).toNat, h.den)
  let q := n / d
  let r := n % d
  let inside (k : Nat) : Bool :=
    let (a, b) := powerOfTen k exponent
    h.holds a b
  let down := decide (0 < q) && inside q
  let up := inside (q + 1)
  if r = 0 then (if down then some q else none)
  else if down && up then
    if 2 * r < d then some q
    else if d < 2 * r then some (q + 1)
    else match tie with
      | .upward => some (q + 1)
      | .toEven => if q % 2 = 0 then some q else some (q + 1)
  else if down then some q
  else if up then some (q + 1)
  else none

/-- The first exponent, from `exponent` downwards, that has a decimal in the neighbourhood. -/
def searchGrid (tie : Tie) (h : Neighbourhood) : (fuel : Nat) → (exponent : Int) → Decimal
  | 0, exponent => ⟨0, exponent⟩
  | k + 1, exponent =>
    match nearestAt tie h exponent with
    | some digits => ⟨digits, exponent⟩
    | none => searchGrid tie h k (exponent - 1)

/-- Digits without zeros at their end. -/
def Decimal.trim : (fuel : Nat) → Decimal → Decimal
  | 0, x => x
  | k + 1, x => if x.digits ≠ 0 ∧ x.digits % 10 = 0 then trim k ⟨x.digits / 10, x.exponent + 1⟩ else x

/-- The decimal with the fewest digits that is read as `m * 2 ^ e`, for a positive mantissa. -/
def shortest (tie : Tie) (m : Nat) (e : Int) : Decimal :=
  let magnitude : Int := ((m.log2 : Int) + e) * 30103 / 100000 + 1
  (searchGrid tie (neighbourhood m e) 40 magnitude).trim 400

/-- Digits with a point, as many zeros as it takes, and no exponent. -/
def positional (x : Decimal) : List Char :=
  let ds := decimal x.digits
  if 0 ≤ x.exponent then ds ++ List.replicate x.exponent.toNat '0'
  else
    let places := (-x.exponent).toNat
    let padded := padLeft (places + 1) ds
    padded.take (padded.length - places) ++ '.' :: padded.drop (padded.length - places)

def signText (negative : Bool) : List Char :=
  if negative then ['-'] else []

/-- Plain text: never an exponent, and no point where the number is whole. -/
def toText : Binary64 → String
  | nan => "NaN"
  | infinity negative => String.ofList (signText negative ++ ['i', 'n', 'f'])
  | finite negative 0 _ => String.ofList (signText negative ++ ['0'])
  | finite negative m e => String.ofList (signText negative ++ positional (shortest .upward m e))

/-- One digit before the point, and a power of ten. -/
def scientific (x : Decimal) : List Char :=
  let ds := decimal x.digits
  let e := x.exponent + ((ds.length - 1 : Nat) : Int)
  let mantissa := match ds with
    | [] => []
    | [d] => [d]
    | d :: rest => d :: '.' :: rest
  mantissa ++ 'e' :: (if e < 0 then '-' else '+') :: decimal e.natAbs

/-- JSON text: positional between `10 ^ -5` and `10 ^ 16`, with a point always, and null for what JSON has no
number for. -/
def toJson : Binary64 → String
  | nan => "null"
  | infinity _ => "null"
  | finite negative 0 _ => String.ofList (signText negative ++ ['0', '.', '0'])
  | finite negative m e =>
    let x := shortest .toEven m e
    let leading := x.exponent + (((decimal x.digits).length - 1 : Nat) : Int)
    String.ofList <| signText negative ++
      if -5 ≤ leading ∧ leading ≤ 15 then
        positional x ++ (if 0 ≤ x.exponent then ['.', '0'] else [])
      else scientific x

end TypedPattern.Binary64
