import TypedPattern.Regex.Nesting
import TypedPattern.Regex.Reader.Bracket
import TypedPattern.Regex.Reader.Group
import TypedPattern.Regex.Reader.Repetition

/-! Reading regular expressions. -/

namespace TypedPattern.Regex

open TypedPattern.Regex.Group (CaptureName)

/-- The part of a group that has been read: its finished branches and the items of the current one, each with the
last one first. `first` is where the first branch begins, `start` where the current one does. -/
structure Level where
  first : Nat
  start : Nat
  branches : List Syntax
  items : List Syntax

namespace Level

def startingAt (pos : Nat) : Level :=
  ⟨pos, pos, [], []⟩

def push (l : Level) (x : Syntax) : Level :=
  { l with items := x :: l.items }

def branch (l : Level) (stop : Nat) : Syntax :=
  .ofItems ⟨l.start, stop⟩ l.items.reverse

def split (l : Level) (stop : Nat) : Level :=
  { l with start := stop + 1, branches := l.branch stop :: l.branches, items := [] }

def toSyntax (l : Level) (stop : Nat) : Syntax :=
  if l.branches.isEmpty then l.branch stop
  else .alternation ⟨l.first, stop⟩ (l.branch stop :: l.branches).reverse

end Level

def readPrimitive (x : Char) (c : Cursor) : Except Error (Syntax × Cursor) :=
  if x = '\\' then Escape.read c
  else if x = '[' then Bracket.read c
  else if x = '.' then .ok (.dot c.spanChar, c.bump)
  else if x = '^' then .ok (.assertion c.spanChar .lineStart, c.bump)
  else if x = '$' then .ok (.assertion c.spanChar .lineEnd, c.bump)
  else .ok (.literal ⟨c.spanChar, .verbatim, x⟩, c.bump)

def isOperator (x : Char) : Bool :=
  x == '?' || x == '*' || x == '+' || x == '\x7b'

def readRepetition (l : Level) (c : Cursor) : Except Error (Level × Cursor) :=
  match l.items with
  | [] => fail .repetitionMissing c.pos c.pos
  | body :: before =>
    if !Repetition.repeatable body then fail .repetitionMissing c.pos c.pos
    else do
      let (kind, greedy, stop) ← Repetition.read c
      let item : Syntax := .repetition ⟨body.span.start, stop.pos⟩ ⟨c.pos, stop.pos⟩ kind greedy body
      .ok ({ l with items := item :: before }, stop)

/-- Reads up to the end of the enclosing group, whose parenthesis is at `opening`, or of the text where there is
none. The cursor stays at what ends the group. -/
def readLevel : (fuel : Nat) → (opening : Option Nat) → Level → List CaptureName → Cursor →
    Except Error (Syntax × List CaptureName × Cursor)
  | 0, _, _, _, c => fail .groupUnclosed c.pos c.pos
  | k + 1, opening, l, seen, c =>
    let c := c.skip
    match c.rest with
    | [] =>
      match opening with
      | some start => fail .groupUnclosed start (start + 1)
      | none => .ok (l.toSyntax c.pos, seen, c)
    | x :: _ =>
      if x = '(' then do
        match ← Group.readHead seen c with
        | (.setting items, seen, d) =>
          let d := { d with verbose := (flagState .ignoreWhitespace false items).getD c.verbose }
          readLevel k opening (l.push (.flags ⟨c.pos, d.pos⟩ items)) seen d
        | (.opened kind, seen, d) =>
          let verbose := match kind with
            | .plain items => (flagState .ignoreWhitespace false items).getD c.verbose
            | _ => c.verbose
          let (body, seen, d) ← readLevel k (some c.pos) (Level.startingAt d.pos) seen { d with verbose }
          let d := { d.bump with verbose := c.verbose }
          readLevel k opening (l.push (.group ⟨c.pos, d.pos⟩ kind body)) seen d
      else if x = ')' then
        match opening with
        | some _ => .ok (l.toSyntax c.pos, seen, c)
        | none => fail .groupUnopened c.pos (c.pos + 1)
      else if x = '|' then readLevel k opening (l.split c.pos) seen c.bump
      else if isOperator x then do
        let (l, c) ← readRepetition l c
        readLevel k opening l seen c
      else do
        let (item, c) ← readPrimitive x c
        readLevel k opening (l.push item) seen c

/-- The tree of a text, if it is an expression that does not nest too deep. -/
def read (text : List Char) : Except Error Syntax := do
  let (tree, _, _) ← readLevel (text.length + 1) none (Level.startingAt 0) [] ⟨0, text, false⟩
  match tree.tooDeep? nestLimit with
  | some span => .error ⟨.nestLimitExceeded, span, none⟩
  | none => .ok tree

end TypedPattern.Regex
