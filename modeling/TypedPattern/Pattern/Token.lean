import TypedPattern.Text.Utf8
import TypedPattern.Unicode.Classes

/-! The tokens of a pattern. They follow one another without a gap. -/

namespace TypedPattern.Pattern

inductive Wildcard where
  /-- Any number of characters. -/
  | any
  /-- Exactly one character. -/
  | one
  /-- One character or none. -/
  | maybe
  deriving DecidableEq, Repr

def Wildcard.char : Wildcard → Char
  | any => '*'
  | one => '+'
  | maybe => '?'

def Wildcard.ofChar? (c : Char) : Option Wildcard :=
  if c = '*' then some any
  else if c = '+' then some one
  else if c = '?' then some maybe
  else none

/-- A group as it is written: its name, its constraint and the byte position of its bracket. -/
structure WrittenGroup where
  name : Option String
  constraint : Option String
  pos : Nat
  deriving DecidableEq, Repr

/-- Without white space at both ends. -/
def trim (cs : List Char) : List Char :=
  ((cs.dropWhile isWhite).reverse.dropWhile isWhite).reverse

def nonEmpty (cs : List Char) : Option String :=
  if cs.isEmpty then none else some (String.ofList cs)

/-- The group between two brackets: a name up to the first colon, a constraint behind it. -/
def WrittenGroup.ofContent (pos : Nat) (content : List Char) : WrittenGroup :=
  ⟨nonEmpty (trim (content.takeWhile (· != ':'))), nonEmpty (trim (content.dropWhile (· != ':')).tail), pos⟩

inductive TokenKind where
  | text (cs : List Char)
  | wildcard (w : Wildcard)
  | bar
  | group (g : WrittenGroup)
  | unterminated (snippet : List Char)
  deriving DecidableEq, Repr

/-- A token and the bytes of the pattern that it takes. -/
structure Token where
  start : Nat
  stop : Nat
  kind : TokenKind
  deriving DecidableEq, Repr

namespace Token

/-- The symbols that stand for themselves between brackets. -/
def escapable (c : Char) : Bool :=
  c == '*' || c == '+' || c == '?' || c == '|'

def ofChar (pos : Nat) (c : Char) : Token :=
  ⟨pos, pos + c.utf8Size,
    match Wildcard.ofChar? c with
    | some w => .wildcard w
    | none => if c = '|' then .bar else .text [c]⟩

mutual

/-- The tokens from a position on, each character of text a token by itself. Doubled brackets and bracketed symbols
are text. -/
def single (pos : Nat) : List Char → List Token
  | [] => []
  | '[' :: '[' :: rest => ⟨pos, pos + 2, .text ['[']⟩ :: single (pos + 2) rest
  | ']' :: ']' :: rest => ⟨pos, pos + 2, .text [']']⟩ :: single (pos + 2) rest
  | '[' :: c :: ']' :: rest =>
    if escapable c then ⟨pos, pos + 3, .text [c]⟩ :: single (pos + 3) rest
    else singleGroup pos (pos + 1) [] (c :: ']' :: rest)
  | '[' :: rest => singleGroup pos (pos + 1) [] rest
  | c :: rest => ofChar pos c :: single (pos + c.utf8Size) rest

/-- The tokens from inside a group on, whose content up to here is given with its last character first. -/
def singleGroup (start pos : Nat) (content : List Char) : List Char → List Token
  | [] => [⟨start, pos, .unterminated ('[' :: content.reverse)⟩]
  | c :: rest =>
    if c = ']' then ⟨start, pos + 1, .group (.ofContent start content.reverse)⟩ :: single (pos + 1) rest
    else if c = '[' then [⟨start, pos, .unterminated ('[' :: content.reverse)⟩]
    else singleGroup start (pos + c.utf8Size) (c :: content) rest

end

/-- Puts a token in front of others, joining texts. -/
def join (t : Token) (ts : List Token) : List Token :=
  match t, ts with
  | ⟨start, _, .text a⟩, ⟨_, stop, .text b⟩ :: rest => ⟨start, stop, .text (a ++ b)⟩ :: rest
  | t, ts => t :: ts

end Token

/-- The tokens of a pattern. One of them may be a group that does not end; it is the last one then. -/
def tokens (text : List Char) : List Token :=
  (Token.single 0 text).foldr Token.join []

end TypedPattern.Pattern
