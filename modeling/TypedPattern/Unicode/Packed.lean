import TypedPattern.CharSet
import TypedPattern.Number.Power

/-! Reading tables of code points that are packed into rows, each row one number. -/

namespace TypedPattern.Unicode

/-- The digits of `n` to the base `2 ^ bits`, the most significant one first, in front of `acc`. -/
def digits (bits : Nat) : Nat → Nat → List Nat → List Nat
  | 0, _, acc => acc
  | k + 1, n, acc => if n = 0 then acc else digits bits k (n >>> bits) (n % twoTo bits :: acc)

/-- The entries of a table whose rows hold at most ten of them. -/
def entries (bits : Nat) (rows : List Nat) : List Nat :=
  rows.flatMap fun row => digits bits 10 row []

/-- A stretch of code points with one value. -/
structure Stretch where
  range : CharRange
  value : Nat

/-- Stretches from their starts: each lasts until the next one begins. -/
def stretches : List Nat → List Stretch
  | [] => []
  | [e] => [⟨⟨e >>> 8, 0x10FFFF⟩, e % 256⟩]
  | e :: f :: rest => ⟨⟨e >>> 8, (f >>> 8) - 1⟩, e % 256⟩ :: stretches (f :: rest)

/-- The code points whose value in a table of runs satisfies `p`. -/
def charsWhere (rows : List Nat) (p : Nat → Bool) : CharSet :=
  .ofSorted (((stretches (entries 32 rows)).filter fun s => p s.value).map (·.range))

/-- The code points `lo`, `lo + step`, up to `hi`, as ranges. -/
def stride (lo hi step : Nat) : List CharRange :=
  if step ≤ 1 then [⟨lo, hi⟩]
  else (List.range ((hi - lo) / step + 1)).map fun i => ⟨lo + i * step, lo + i * step⟩

def charsOf (rows : List Nat) : CharSet :=
  .ofSorted ((entries 52 rows).flatMap fun e => stride (e >>> 28) (e >>> 4 % twoTo 24) (e % 16))

/-- The ranges of a table that names a script for each of them. -/
def charsOfScript (rows : List Nat) (script : Nat) : CharSet :=
  .ofSorted (((entries 56 rows).filter fun e => e >>> 48 == script).map fun e =>
    ⟨e >>> 24 % twoTo 24, e % twoTo 24⟩)

end TypedPattern.Unicode
