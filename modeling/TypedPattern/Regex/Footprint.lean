import TypedPattern.Text.Utf8
import TypedPattern.Regex.ByteSequence
import TypedPattern.Regex.Core
import TypedPattern.Number.Power

/-!
The room that the automata of an expression take, in bytes. There is one that reads forward and keeps groups, and
one that reads backward and does not.
-/

namespace TypedPattern.Regex

namespace Footprint

def limit : Nat :=
  10 * twoTo 20

def state : Nat :=
  32

/-- A state with ways for some ranges of bytes. -/
def ranged (count : Nat) : Nat :=
  state + 8 * count

def choice (count : Nat) : Nat :=
  state + 4 * count

/-- Forward, what may follow a byte is shared between all bytes that it follows. -/
def forwardClass (s : CharSet) : Nat :=
  let nodes := (ByteSequence.continuations 4 (ByteSequence.ofSet s)).eraseDups
  nodes.foldl (fun total ss => total + ranged (ByteSequence.byFirst ss).length) state

/-- Backward, what may come before a byte is shared. -/
def backwardClass (s : CharSet) : Nat :=
  let sequences := ByteSequence.ofSet s
  choice sequences.length + state + state * ByteSequence.beginnings [] sequences

def ofClass (backward : Bool) (s : CharSet) : Nat :=
  if s.isAscii then state + ranged s.ranges.length
  else if backward then backwardClass s
  else forwardClass s

def copies (count body : Nat) : Nat :=
  if count = 0 then state else count * body

def repetition (nullable : Bool) (min : Nat) (more : Option Nat) (body : Nat) : Nat :=
  match min, more with
  | 0, some 1 => choice 2 + state + body
  | 0, none => if nullable then body + choice 2 + choice 2 + state else body + choice 2
  | min, none => copies min body + choice 2
  | min, some more => if more = 0 then copies min body else copies min body + state + more * (choice 2 + body)

end Footprint

namespace Core

open Footprint

def isAlternation : Core → Bool
  | alt _ _ => true
  | _ => false

def footprint (backward : Bool) : Core → Nat
  | empty => state
  | literal cs => state * Text.byteLength cs
  | chars s => ofClass backward s
  | look _ => state
  | capture _ body => (if backward then 0 else 2 * state) + body.footprint backward
  | repetition min more _ body =>
    Footprint.repetition (body.minLength.all (· == 0)) min more (body.footprint backward)
  | seq a b => a.footprint backward + b.footprint backward
  | alt a b => a.footprint backward + b.footprint backward + if b.isAlternation then 4 else choice 2 + state

/-- Whether every match begins where the text does. -/
def anchoredAtStart : Core → Bool
  | look .textStart => true
  | capture _ body => body.anchoredAtStart
  | seq a _ => a.anchoredAtStart
  | alt a b => a.anchoredAtStart && b.anchoredAtStart
  | repetition min _ _ body => min != 0 && body.anchoredAtStart
  | _ => false

/-- Whether every match ends where the text does. -/
def anchoredAtEnd : Core → Bool
  | look .textEnd => true
  | capture _ body => body.anchoredAtEnd
  | seq _ b => b.anchoredAtEnd
  | alt a b => a.anchoredAtEnd && b.anchoredAtEnd
  | repetition min _ _ body => min != 0 && body.anchoredAtEnd
  | _ => false

/-- The room of what skips the text before a match. -/
def skipFootprint (anchored : Bool) : Nat :=
  if anchored then state else choice 2 + state + ranged 1

/-- Whether both automata keep to the limit. The forward one has the whole match as a group. -/
def fits (r : Core) : Bool :=
  decide (skipFootprint r.anchoredAtStart + 2 * state + r.footprint false + state ≤ limit) &&
    decide (skipFootprint r.anchoredAtEnd + r.footprint true + state ≤ limit)

end Core

end TypedPattern.Regex
