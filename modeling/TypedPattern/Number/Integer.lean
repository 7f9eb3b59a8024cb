import TypedPattern.Text.Digits
import TypedPattern.Number.Power

/-! Reading integers of a fixed width. -/

namespace TypedPattern.Integer

open Text

inductive ReadError where
  | empty
  | invalidDigit
  | tooLarge
  | tooSmall
  deriving DecidableEq, Repr

/-- An integer of `bits` bits with its sign: an optional sign, then digits alone. A sign alone is an invalid digit. -/
def read (bits : Nat) (cs : List Char) : Except ReadError Int :=
  let (negative, ds) := match cs with
    | '-' :: rest => (true, rest)
    | '+' :: rest => (false, rest)
    | _ => (false, cs)
  if cs.isEmpty then .error .empty
  else if ds.isEmpty || !ds.all isDigit then .error .invalidDigit
  else if negative then
    if decimalValue ds ≤ twoTo (bits - 1) then .ok (-(decimalValue ds : Int)) else .error .tooSmall
  else if decimalValue ds < twoTo (bits - 1) then .ok (decimalValue ds) else .error .tooLarge

def toText (n : Int) : String :=
  String.ofList ((if n < 0 then ['-'] else []) ++ decimal n.natAbs)

end TypedPattern.Integer
