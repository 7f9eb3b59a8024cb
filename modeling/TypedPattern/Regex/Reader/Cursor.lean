import TypedPattern.Unicode.Classes
import TypedPattern.Regex.Error

/-! A place in the text of an expression. In verbose mode blanks and comments are passed over. -/

namespace TypedPattern.Regex

structure Cursor where
  pos : Nat
  rest : List Char
  verbose : Bool
  deriving Repr

namespace Cursor

/-- Passes blanks and comments, which last from a hash sign to the end of the line. -/
def passBlanks : (comment : Bool) → (pos : Nat) → List Char → Nat × List Char
  | _, pos, [] => (pos, [])
  | true, pos, c :: cs => passBlanks (c != '\n') (pos + 1) cs
  | false, pos, c :: cs =>
    if isWhite c then passBlanks false (pos + 1) cs
    else if c = '#' then passBlanks true (pos + 1) cs
    else (pos, c :: cs)

def skip (c : Cursor) : Cursor :=
  if c.verbose then
    let (pos, rest) := passBlanks false c.pos c.rest
    { c with pos, rest }
  else c

def bump (c : Cursor) : Cursor :=
  match c.rest with
  | [] => c
  | _ :: rest => { c with pos := c.pos + 1, rest }

def bumpSkip (c : Cursor) : Cursor :=
  c.bump.skip

def atEnd (c : Cursor) : Bool :=
  c.rest.isEmpty

def at? (c : Cursor) (x : Char) : Bool :=
  c.rest.head? == some x

def after? (c : Cursor) (text : List Char) : Option Cursor :=
  if text.isPrefixOf c.rest then
    some { c with pos := c.pos + text.length, rest := c.rest.drop text.length }
  else none

def peek (c : Cursor) : Option Char :=
  c.rest.tail.head?

/-- The first character that is no blank, from a place inside or outside a comment. -/
def firstPast (comment : Bool) : List Char → Option Char
  | [] => none
  | c :: cs =>
    if isWhite c then firstPast comment cs
    else if !comment && c == '#' then firstPast true cs
    else some c

/-- The character after the current one, blanks left out in verbose mode. Where only blanks follow, the first of
them. -/
def peekPast (c : Cursor) : Option Char :=
  if c.verbose then (firstPast false c.rest.tail).or c.rest.tail.head? else c.peek

def spanChar (c : Cursor) : Span :=
  ⟨c.pos, if c.atEnd then c.pos else c.pos + 1⟩

end Cursor

end TypedPattern.Regex
