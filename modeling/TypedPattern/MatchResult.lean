import TypedPattern.Error
import TypedPattern.Text.Json

/-! The outcome of matching: values by name and by position, and the text with its captures. -/

namespace TypedPattern

open Text (ByteSpan)

/-- A group that took part in a match. -/
structure Captured where
  name : Option String
  span : ByteSpan
  deriving DecidableEq, Repr

/-- The outcome of one attempt. Only a match has a haystack, and only then is there anything else. -/
structure MatchResult where
  named : List (String × Value)
  unnamed : List Value
  captures : List Captured
  haystack : Option String
  deriving DecidableEq, Repr

namespace MatchResult

def noMatch : MatchResult :=
  ⟨[], [], [], none⟩

def matched (haystack : String) : MatchResult :=
  ⟨[], [], [], some haystack⟩

/-- Gives a name a value, in place of one that it has. -/
def put (name : String) (value : Value) : List (String × Value) → List (String × Value)
  | [] => [(name, value)]
  | (n, v) :: rest => if n = name then (n, value) :: rest else (n, v) :: put name value rest

/-- Adds a group that took part. -/
def addPresent (r : MatchResult) (name : Option String) (value : Value) (span : ByteSpan) : MatchResult :=
  match name with
  | some n => { r with named := put n value r.named, captures := r.captures ++ [⟨name, span⟩] }
  | none => { r with unnamed := r.unnamed ++ [value], captures := r.captures ++ [⟨name, span⟩] }

/-- Adds a group that took no part: it keeps its position if it has no name. -/
def addAbsent (r : MatchResult) (name : Option String) : MatchResult :=
  match name with
  | some _ => r
  | none => { r with unnamed := r.unnamed ++ [.null] }

/-- Adds another result: its names take over, its positions follow. The first haystack stays. -/
def merge (r s : MatchResult) : MatchResult :=
  ⟨s.named.foldl (fun named (n, v) => put n v named) r.named, r.unnamed ++ s.unnamed, r.captures ++ s.captures,
    r.haystack.or s.haystack⟩

def isMatch (r : MatchResult) : Bool :=
  r.haystack.isSome

def get? (r : MatchResult) (name : String) : Option Value :=
  r.named.lookup name

def size (r : MatchResult) : Nat :=
  r.named.length

def isEmpty (r : MatchResult) : Bool :=
  r.named.isEmpty

/-- The values by position, then those by name. -/
def values (r : MatchResult) : List Value :=
  r.unnamed ++ r.named.map (·.2)

def items (r : MatchResult) : List (Option String × Value) :=
  r.unnamed.map (fun v => (none, v)) ++ r.named.map fun (n, v) => (some n, v)

def toJson (r : MatchResult) : String :=
  Text.Json.object (r.named.map fun (n, v) => (n, v.toJson))

/-- Equality with values compared by what they denote. -/
def same (r s : MatchResult) : Bool :=
  r.named.length == s.named.length && (r.named.zip s.named).all (fun (a, b) => a.1 == b.1 && a.2.same b.2) &&
    r.unnamed.length == s.unnamed.length && (r.unnamed.zip s.unnamed).all (fun (a, b) => a.same b) &&
    r.captures == s.captures && r.haystack == s.haystack

end MatchResult

/-- A stretch of text and what is put in its place. -/
structure Edit where
  span : ByteSpan
  text : String
  deriving DecidableEq, Repr

namespace Edit

/-- Spans are ordered by where they start, then by where they end. -/
def spanLe (a b : ByteSpan) : Bool :=
  decide (a.start < b.start) || (a.start == b.start && decide (a.stop ≤ b.stop))

/-- Carries out edits from left to right; one that starts before the end of the last one is left out. -/
def weave (text : List Char) : (last : Nat) → List Edit → Except Text.CutFault (List Char)
  | last, [] => Text.slice last (Text.byteLength text) text
  | last, e :: rest =>
    if e.span.start < last then weave text last rest
    else do
      let kept ← Text.slice last e.span.start text
      let more ← weave text e.span.stop rest
      .ok (kept ++ e.text.toList ++ more)

def apply (haystack : String) (edits : List Edit) : Except Error String :=
  match weave haystack.toList 0 edits with
  | .ok cs => .ok (String.ofList cs)
  | .error fault => .error (.badCut fault haystack)

/-- Puts values in the place of captures, from left to right, for as long as there are values. -/
def inOrder (captures : List Captured) (values : List String) : List Edit :=
  ((captures.map (·.span)).mergeSort spanLe).zipWith Edit.mk values

def byName (captures : List Captured) (values : List (String × String)) : List Edit :=
  (captures.filterMap fun c => (c.name.bind fun n => values.lookup n).map (Edit.mk c.span)).mergeSort
    fun a b => spanLe a.span b.span

end Edit

namespace MatchResult

def replace (r : MatchResult) (values : List String) : Except Error String :=
  match r.haystack with
  | none => .error .noMatch
  | some haystack => Edit.apply haystack (Edit.inOrder r.captures values)

def replaceNamed (r : MatchResult) (values : List (String × String)) : Except Error String :=
  match r.haystack with
  | none => .error .noMatch
  | some haystack => Edit.apply haystack (Edit.byName r.captures values)

def missingMessage (name : String) : String :=
  "no group named " ++ Text.quoted name ++ " in match result"

end MatchResult

/-- Every match of a search, from left to right. -/
abbrev MatchList :=
  List MatchResult

namespace MatchList

def values (l : MatchList) : List Value :=
  l.flatMap MatchResult.values

def items (l : MatchList) : List (Option String × Value) :=
  l.flatMap MatchResult.items

/-- Replaces the groups of all matches in order, in the text of the first one. -/
def replace (l : MatchList) (values : List String) : Except Error String :=
  match l.findSome? (·.haystack) with
  | none => .error .noMatch
  | some haystack => Edit.apply haystack (Edit.inOrder (l.flatMap (·.captures)) values)

def same (l m : MatchList) : Bool :=
  l.length == m.length && (l.zip m).all fun (r, s) => r.same s

end MatchList

end TypedPattern
