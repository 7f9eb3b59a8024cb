import TypedPattern.Text.Utf8
import TypedPattern.Unicode.Classes
import TypedPattern.Regex.Core

/-!
What an expression matches, in order of preference. From each point the earlier branch and the longer repetition, or
the shorter one if it is lazy, come first; of two ways to one and the same point only the preferred one counts.
-/

namespace TypedPattern.Regex

open Text (ByteSpan)

/-- Where a part stands in an expression, from the inside out. -/
abbrev Path :=
  List Nat

/-- A point of the text between two characters. The trail holds the choices made since the last character: to come
back to one of them without a character between is no way on. `opened` holds the groups that have begun, the last
one first, with where they begin; `groups` those that have ended. -/
structure Point where
  pos : Nat
  prev : Option Char
  rest : List Char
  trail : List Path
  opened : List (Nat × Nat)
  groups : List (Nat × ByteSpan)
  deriving DecidableEq, Repr

namespace Point

def fresh (pos : Nat) (prev : Option Char) (rest : List Char) : Point :=
  ⟨pos, prev, rest, [], [], []⟩

def ofText (text : List Char) : Point :=
  fresh 0 none text

/-- Past the next character, if it is one of some. -/
def next? (p : Point) (accepts : Char → Bool) : Option Point :=
  match p.rest with
  | [] => none
  | c :: rest => if accepts c then some ⟨p.pos + c.utf8Size, some c, rest, [], p.opened, p.groups⟩ else none

/-- Past a literal text. -/
def literal? (p : Point) : List Char → Option Point
  | [] => some p
  | c :: cs => (p.next? (· == c)).bind fun q => q.literal? cs

def mark (p : Point) (choice : Path) : Point :=
  { p with trail := choice :: p.trail }

def begin (p : Point) (index : Nat) : Point :=
  { p with opened := (index, p.pos) :: p.opened }

def finish (p : Point) : Point :=
  match p.opened with
  | [] => p
  | (index, start) :: rest => { p with opened := rest, groups := (index, ⟨start, p.pos⟩) :: p.groups }

end Point

/-- Whether an assertion holds between two characters, or at an end of the text. -/
def Look.holds (l : Look) (prev next : Option Char) : Bool :=
  match l with
  | textStart => prev.isNone
  | textEnd => next.isNone
  | lineStart => prev.all (· == '\n')
  | lineEnd => next.all (· == '\n')
  | crlfLineStart => prev.all fun c => c == '\n' || (c == '\r' && next != some '\n')
  | crlfLineEnd => next.all fun c => c == '\r' || (c == '\n' && prev != some '\r')
  | word kind unicode =>
    let inWord (c : Option Char) : Bool := c.any (if unicode then Unicode.word else Unicode.asciiWord).contains
    let before := inWord prev
    let after := inWord next
    match kind with
    | .boundary => before != after
    | .notBoundary => before == after
    | .start => !before && after
    | .stop => before && !after
    | .startHalf => !before
    | .stopHalf => !after

/-- Keeps the first of the points that share a position. -/
def distinct (ps : List Point) : List Point :=
  go 0 ps
where
  go (seen : Nat) : List Point → List Point
    | [] => []
    | p :: rest => if seen.testBit p.pos then go seen rest else p :: go (seen ||| 1 <<< p.pos) rest

/-- What a repetition has been through: a mask of positions for each of its levels, and the points that it has
reached, the last one first. -/
structure Tour where
  masks : List Nat
  found : List Point

namespace Tour

def empty : Tour :=
  ⟨[], []⟩

def visited (t : Tour) (pos : Nat) : Bool :=
  (t.masks.headD 0).testBit pos

def visit (t : Tour) (pos : Nat) : Tour :=
  { t with masks := ((t.masks.headD 0) ||| 1 <<< pos) :: t.masks.tail }

def add (t : Tour) (p : Point) : Tour :=
  { t with found := p :: t.found }

/-- Goes on one level deeper and comes back. -/
def below (t : Tour) (f : Tour → Tour) : Tour :=
  let u := f ⟨t.masks.tail, t.found⟩
  ⟨t.masks.headD 0 :: u.masks, u.found⟩

def points (t : Tour) : List Point :=
  distinct t.found.reverse

end Tour

/-- Runs a part again and again, as long as it gets on. Each point is left once. -/
def laps (step : List Point → List Point) (choice : Path) (greedy : Bool) : (fuel : Nat) → Point → Tour → Tour
  | 0, _, t => t
  | k + 1, p, t =>
    if t.visited p.pos || p.trail.contains choice then t
    else
      let q := p.mark choice
      let again (t : Tour) : Tour := (step [q]).foldl (fun t e => laps step choice greedy k e t) t
      if greedy then (again (t.visit p.pos)).add q else again ((t.visit p.pos).add q)

def allLaps (step : List Point → List Point) (choice : Path) (greedy : Bool) (ps : List Point) : List Point :=
  (ps.foldl (fun t p => laps step choice greedy (p.rest.length + 1) p t) .empty).points

/-- Runs the copies of a part that may be left out, `count` of them from the one numbered `level`. -/
def options (step : Nat → List Point → List Point) (choice : Nat → Path) (greedy : Bool) :
    (count level : Nat) → Point → Tour → Tour
  | 0, _, p, t => t.add p
  | k + 1, level, p, t =>
    if t.visited p.pos || p.trail.contains (choice level) then t
    else
      let q := p.mark (choice level)
      let again (t : Tour) : Tour :=
        (step level [q]).foldl (fun t e => options step choice greedy k (level + 1) e t) t
      (t.visit p.pos).below fun t => if greedy then (again t).add q else again (t.add q)

/-- Runs the copies of a part that must be there, `count` of them from the one numbered `level`. -/
def copies (step : Nat → List Point → List Point) : (count level : Nat) → List Point → List Point
  | 0, _, ps => ps
  | k + 1, level, ps => copies step k (level + 1) (step level ps)

/-- A part that may match nothing, any number of times: it is tried once before its laps. -/
def lapsOrNone (step : List Point → List Point) (enter choice : Path) (greedy : Bool) (p : Point) : List Point :=
  if p.trail.contains enter then []
  else
    let q := p.mark enter
    let some := allLaps step choice greedy (step [q])
    if greedy then some ++ [q] else q :: some

def repeats (step : Nat → List Point → List Point) (choice : Nat → Path) (nullable : Bool) (min : Nat)
    (more : Option Nat) (greedy : Bool) (ps : List Point) : List Point :=
  match min, more with
  | min, some more =>
    ((copies step min 0 ps).foldl (fun t p => options step choice greedy more min p t) .empty).points
  | 0, none =>
    if nullable then distinct (ps.flatMap (lapsOrNone (step 0) (choice 1) (choice 0) greedy))
    else allLaps (step 0) (choice 0) greedy ps
  | k + 1, none => allLaps (step k) (choice k) greedy (copies step (k + 1) 0 ps)

namespace Core

/-- Whether the expression is not sure to take a character. -/
def nullable (r : Core) : Bool :=
  match r.minLength with
  | some n => n == 0
  | none => true

/-- The points that an expression leads to from some points, the preferred ones first. Parts of a repetition stand
at even places below it and its choices at odd ones. -/
def ends : Core → Path → List Point → List Point
  | empty, _, ps => ps
  | literal cs, _, ps => ps.filterMap (·.literal? cs)
  | chars s, _, ps => ps.filterMap (·.next? s.contains)
  | look l, _, ps => ps.filter fun p => l.holds p.prev p.rest.head?
  | capture index body, path, ps => (body.ends (0 :: path) (ps.map (·.begin index))).map Point.finish
  | seq a b, path, ps => b.ends (1 :: path) (a.ends (0 :: path) ps)
  | alt a b, path, ps =>
    distinct <| (ps.filter fun p => !p.trail.contains path).flatMap fun p =>
      a.ends (0 :: path) [p.mark path] ++ b.ends (1 :: path) [p.mark path]
  | repetition min more greedy body, path, ps =>
    repeats (fun i => body.ends (2 * i :: path)) (fun i => (2 * i + 1) :: path) body.nullable min more greedy ps

end Core

/-- What was matched: from where to where, and its groups. -/
structure Match where
  start : Point
  stop : Point
  deriving DecidableEq, Repr

namespace Match

def group? (m : Match) (index : Nat) : Option ByteSpan :=
  m.stop.groups.lookup index

def isEmpty (m : Match) : Bool :=
  m.start.pos == m.stop.pos

end Match

namespace Core

/-- The preferred match that starts at a point. -/
def matchAt (r : Core) (p : Point) : Option Match :=
  (r.ends [] [p]).head?.map (Match.mk p)

end Core

def Point.onwards (p : Point) : List Point :=
  go p.pos p.prev p.rest
where
  go (pos : Nat) (prev : Option Char) : List Char → List Point
    | [] => [fresh pos prev []]
    | c :: rest => fresh pos prev (c :: rest) :: go (pos + c.utf8Size) (some c) rest

namespace Core

/-- The match that starts leftmost, at a point or behind it. -/
def search (r : Core) (p : Point) : Option Match :=
  p.onwards.findSome? r.matchAt

/-- The next match after another one, which ended at a point: it may not be empty there. -/
def searchAfter (r : Core) (p : Point) : Option Match :=
  match r.search p with
  | none => none
  | some m => if m.isEmpty && m.stop.pos == p.pos then p.onwards.tail.findSome? r.matchAt else some m

/-- The matches after another one, from left to right. -/
def matchesAfter (r : Core) : (fuel : Nat) → Point → List Match
  | 0, _ => []
  | k + 1, p =>
    match r.searchAfter p with
    | none => []
    | some m => m :: r.matchesAfter k m.stop

/-- All matches that do not overlap, from left to right. -/
def searchAll (r : Core) (text : List Char) : List Match :=
  match r.search (.ofText text) with
  | none => []
  | some m => m :: r.matchesAfter (text.length + 1) m.stop

end Core

end TypedPattern.Regex
