import TypedPattern.CharSet
import TypedPattern.Number.Power

/-! Sets of characters as sequences of byte ranges, in the order of their UTF-8 forms. -/

namespace TypedPattern.Regex

/-- For each byte of a character's UTF-8 form the range that it is in. -/
abbrev ByteSequence :=
  List CharRange

namespace ByteSequence

def bytes (n : Nat) : List Nat :=
  let tail (k : Nat) : Nat := 0x80 + n / power 64 k % 64
  if n < 0x80 then [n]
  else if n < 0x800 then [0xC0 + n / 64, tail 0]
  else if n < 0x10000 then [0xE0 + n / power 64 2, tail 1, tail 0]
  else [0xF0 + n / power 64 3, tail 2, tail 1, tail 0]

/-- Where a range is cut when its last `6 * i` bits do not run through all their values. -/
def cutAt (r : CharRange) (i : Nat) : Option Nat :=
  let block := power 64 i
  if r.lo / block = r.hi / block then none
  else if r.lo % block ≠ 0 then some (r.lo / block * block + (block - 1))
  else if r.hi % block ≠ block - 1 then some (r.hi / block * block - 1)
  else none

/-- The end of the first part of a range that is more than one sequence. -/
def cut? (r : CharRange) : Option Nat :=
  match [0x7F, 0x7FF, 0xD7FF, 0xFFFF].find? fun n => decide (r.lo ≤ n) && decide (n < r.hi) with
  | some n => some n
  | none => if r.hi < 0x80 then none else [1, 2, 3].findSome? (cutAt r)

/-- The sequences of a range, which is cut `fuel` times in a row at most. -/
def ofRange : (fuel : Nat) → CharRange → List ByteSequence
  | 0, _ => []
  | k + 1, r =>
    match cut? r with
    | some n => ofRange k ⟨r.lo, n⟩ ++ ofRange k ⟨n + 1, r.hi⟩
    | none => [List.zipWith CharRange.mk (bytes r.lo) (bytes r.hi)]

def withoutSurrogates (r : CharRange) : List CharRange :=
  if r.lo < 0xD800 ∧ 0xDFFF < r.hi then [⟨r.lo, 0xD7FF⟩, ⟨0xE000, r.hi⟩] else r.clip.toList

def ofSet (s : CharSet) : List ByteSequence :=
  (s.ranges.flatMap withoutSurrogates).flatMap (ofRange 16)

/-- How many ranges two sequences begin alike with. -/
def common : ByteSequence → ByteSequence → Nat
  | a :: as, b :: bs => if a = b then common as bs + 1 else 0
  | _, _ => 0

/-- The number of beginnings that some sequences have, the same ones counted once if they are neighbours. -/
def beginnings (before : ByteSequence) : List ByteSequence → Nat
  | [] => 0
  | s :: rest => s.length - common before s + beginnings s rest

/-- Groups neighbours by their first range: the range, and what follows it. -/
def byFirst : List ByteSequence → List (CharRange × List ByteSequence)
  | [] => []
  | [] :: rest => byFirst rest
  | (r :: s) :: rest =>
    match byFirst rest with
    | (q, group) :: groups => if q = r then (r, s :: group) :: groups else (r, [s]) :: (q, group) :: groups
    | [] => [(r, [s])]

/-- What may follow at each of the next `depth` bytes, with repetitions. -/
def continuations : (depth : Nat) → List ByteSequence → List (List ByteSequence)
  | 0, _ => []
  | k + 1, ss =>
    let ss := ss.filter fun s => !s.isEmpty
    if ss.isEmpty then [] else ss :: (byFirst ss).flatMap fun g => continuations k g.2

end ByteSequence

end TypedPattern.Regex
