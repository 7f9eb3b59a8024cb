/-! Sets of characters as lists of code point ranges, in increasing order and with a gap between neighbours. -/

namespace TypedPattern

/-- The code points from `lo` to `hi`, both included. -/
structure CharRange where
  lo : Nat
  hi : Nat
  deriving DecidableEq, Repr

namespace CharRange

def contains (r : CharRange) (n : Nat) : Bool :=
  decide (r.lo ≤ n) && decide (n ≤ r.hi)

/-- Adds a range to a list of separate ranges, joining what it meets or touches. -/
def insert (r : CharRange) : List CharRange → List CharRange
  | [] => [r]
  | s :: rest =>
    if r.hi + 1 < s.lo then r :: s :: rest
    else if s.hi + 1 < r.lo then s :: insert r rest
    else insert ⟨min r.lo s.lo, max r.hi s.hi⟩ rest

/-- Joins neighbours of a list that meet or touch. -/
def coalesce : List CharRange → List CharRange
  | [] => []
  | r :: rest => go r rest
where
  go (r : CharRange) : List CharRange → List CharRange
    | [] => [r]
    | s :: rest =>
      if r.lo ≤ s.hi + 1 ∧ s.lo ≤ r.hi + 1 then go ⟨min r.lo s.lo, max r.hi s.hi⟩ rest
      else r :: go s rest

/-- Merges two lists by the starts of their ranges, as far as `fuel` lasts. -/
def merge : (fuel : Nat) → List CharRange → List CharRange → List CharRange
  | 0, rs, ss => rs ++ ss
  | _ + 1, [], ss => ss
  | _ + 1, rs, [] => rs
  | k + 1, r :: rs, s :: ss =>
    if r.lo ≤ s.lo then r :: merge k rs (s :: ss) else s :: merge k (r :: rs) ss

def inter (r s : CharRange) : Option CharRange :=
  let lo := max r.lo s.lo
  let hi := min r.hi s.hi
  if lo ≤ hi then some ⟨lo, hi⟩ else none

/-- The range without surrogates at its ends. -/
def clip (r : CharRange) : Option CharRange :=
  let lo := if 0xD800 ≤ r.lo ∧ r.lo ≤ 0xDFFF then 0xE000 else r.lo
  let hi := if 0xD800 ≤ r.hi ∧ r.hi ≤ 0xDFFF then 0xD7FF else r.hi
  if lo ≤ hi then some ⟨lo, hi⟩ else none

/-- The code points from `next` on that a list of increasing ranges leaves out. -/
def gaps (next : Nat) : List CharRange → List CharRange
  | [] => if next ≤ 0x10FFFF then [⟨next, 0x10FFFF⟩] else []
  | r :: rest =>
    (if next < r.lo then [⟨next, r.lo - 1⟩] else []) ++ gaps (max next (r.hi + 1)) rest

end CharRange

structure CharSet where
  ranges : List CharRange
  deriving DecidableEq, Repr

namespace CharSet

def empty : CharSet :=
  ⟨[]⟩

def range (lo hi : Nat) : CharSet :=
  ⟨[⟨lo, hi⟩]⟩

def singleton (c : Char) : CharSet :=
  range c.toNat c.toNat

def ofRanges (rs : List CharRange) : CharSet :=
  ⟨rs.foldr CharRange.insert []⟩

def ofSorted (rs : List CharRange) : CharSet :=
  ⟨CharRange.coalesce rs⟩

def isEmpty (s : CharSet) : Bool :=
  s.ranges.isEmpty

def containsCode (s : CharSet) (n : Nat) : Bool :=
  s.ranges.any (·.contains n)

def contains (s : CharSet) (c : Char) : Bool :=
  s.containsCode c.toNat

def union (s t : CharSet) : CharSet :=
  ofSorted (CharRange.merge 0x110000 s.ranges t.ranges)

def inter (s t : CharSet) : CharSet :=
  ⟨s.ranges.flatMap fun r => t.ranges.filterMap r.inter⟩

def complement (s : CharSet) : CharSet :=
  ⟨(CharRange.gaps 0 s.ranges).filterMap CharRange.clip⟩

def diff (s t : CharSet) : CharSet :=
  s.inter t.complement

def symmDiff (s t : CharSet) : CharSet :=
  (s.union t).diff (s.inter t)

def isAscii (s : CharSet) : Bool :=
  s.ranges.all fun r => decide (r.hi < 0x80)

/-- The one character of a set that has no other. -/
def only? (s : CharSet) : Option Char :=
  match s.ranges with
  | [r] => if r.lo = r.hi ∧ (Char.ofNat r.lo).toNat = r.lo then some (Char.ofNat r.lo) else none
  | _ => none

end CharSet

end TypedPattern
