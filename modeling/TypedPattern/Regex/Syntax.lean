/-! Regular expressions as they are written: every spelling has a tree of its own, with the place of each part. -/

namespace TypedPattern.Regex

/-- A stretch of the text, from one character position up to another. -/
structure Span where
  start : Nat
  stop : Nat
  deriving DecidableEq, Repr

/-- The letters that hexadecimal escapes begin with, for two, four and eight digits. -/
inductive HexKind where
  | byte
  | short
  | long
  deriving DecidableEq, Repr

def HexKind.digits : HexKind → Nat
  | byte => 2
  | short => 4
  | long => 8

def HexKind.letter : HexKind → Char
  | byte => 'x'
  | short => 'u'
  | long => 'U'

inductive LiteralForm where
  | verbatim
  | escaped
  | control
  | hexFixed (kind : HexKind)
  | hexBraced (kind : HexKind)
  deriving DecidableEq, Repr

structure Literal where
  span : Span
  form : LiteralForm
  char : Char
  deriving DecidableEq, Repr

inductive AssertionKind where
  | lineStart | lineEnd | textStart | textEnd
  | wordBoundary | notWordBoundary
  | wordStart | wordEnd | wordStartAngle | wordEndAngle | wordStartHalf | wordEndHalf
  deriving DecidableEq, Repr

inductive PerlKind where
  | digit | space | word
  deriving DecidableEq, Repr

structure PerlClass where
  span : Span
  kind : PerlKind
  negated : Bool
  deriving DecidableEq, Repr

inductive AsciiKind where
  | alnum | alpha | ascii | blank | cntrl | digit | graph | lower | print | punct | space | upper | word | xdigit
  deriving DecidableEq, Repr

namespace AsciiKind

def name : AsciiKind → String
  | alnum => "alnum" | alpha => "alpha" | ascii => "ascii" | blank => "blank" | cntrl => "cntrl" | digit => "digit"
  | graph => "graph" | lower => "lower" | print => "print" | punct => "punct" | space => "space" | upper => "upper"
  | word => "word" | xdigit => "xdigit"

def all : List AsciiKind :=
  [alnum, alpha, ascii, blank, cntrl, digit, graph, lower, print, punct, space, upper, word, xdigit]

def ofName? (cs : List Char) : Option AsciiKind :=
  all.find? fun k => k.name.toList == cs

end AsciiKind

inductive ValueMark where
  | equal | colon | notEqual
  deriving DecidableEq, Repr

inductive UnicodeKind where
  | letter (c : Char)
  | named (name : List Char)
  | valued (mark : ValueMark) (name value : List Char)
  deriving DecidableEq, Repr

structure UnicodeClass where
  span : Span
  negated : Bool
  kind : UnicodeKind
  deriving DecidableEq, Repr

inductive SetOperator where
  | intersection | difference | symmetricDifference
  deriving DecidableEq, Repr

/-- The inside of a bracketed class. -/
inductive ClassSet where
  | empty (span : Span)
  | literal (l : Literal)
  | range (span : Span) (first last : Literal)
  | ascii (span : Span) (kind : AsciiKind) (negated : Bool)
  | unicode (c : UnicodeClass)
  | perl (c : PerlClass)
  | bracketed (span : Span) (negated : Bool) (inner : ClassSet)
  | union (span : Span) (items : List ClassSet)
  | operation (span : Span) (operator : SetOperator) (left right : ClassSet)
  deriving Repr

def ClassSet.span : ClassSet → Span
  | empty s => s
  | literal l => l.span
  | range s _ _ => s
  | ascii s _ _ => s
  | unicode c => c.span
  | perl c => c.span
  | bracketed s _ _ => s
  | union s _ => s
  | operation s _ _ _ => s

inductive Flag where
  | caseInsensitive | multiLine | dotMatchesNewLine | swapGreed | unicode | crlf | ignoreWhitespace
  deriving DecidableEq, Repr

def Flag.letter : Flag → Char
  | caseInsensitive => 'i'
  | multiLine => 'm'
  | dotMatchesNewLine => 's'
  | swapGreed => 'U'
  | unicode => 'u'
  | crlf => 'R'
  | ignoreWhitespace => 'x'

inductive FlagItem where
  | negation (span : Span)
  | flag (span : Span) (flag : Flag)
  deriving DecidableEq, Repr

def FlagItem.span : FlagItem → Span
  | negation s => s
  | flag s _ => s

/-- What some flags say about one of them: on before the negation, off after it. -/
def flagState (f : Flag) : (negated : Bool) → List FlagItem → Option Bool
  | _, [] => none
  | _, .negation _ :: rest => flagState f true rest
  | negated, .flag _ g :: rest => if g = f then some (!negated) else flagState f negated rest

inductive RepetitionKind where
  | zeroOrOne
  | zeroOrMore
  | oneOrMore
  | exactly (n : Nat)
  | atLeast (n : Nat)
  | between (m n : Nat)
  deriving DecidableEq, Repr

inductive GroupKind where
  | numbered
  | named (letter : Bool) (name : List Char)
  | plain (flags : List FlagItem)
  deriving DecidableEq, Repr

def GroupKind.isCapture : GroupKind → Bool
  | numbered => true
  | named _ _ => true
  | plain _ => false

inductive Syntax where
  | empty (span : Span)
  | flags (span : Span) (items : List FlagItem)
  | literal (l : Literal)
  | dot (span : Span)
  | assertion (span : Span) (kind : AssertionKind)
  | unicode (c : UnicodeClass)
  | perl (c : PerlClass)
  | bracketed (span : Span) (negated : Bool) (inner : ClassSet)
  | repetition (span opSpan : Span) (kind : RepetitionKind) (greedy : Bool) (body : Syntax)
  | group (span : Span) (kind : GroupKind) (body : Syntax)
  | alternation (span : Span) (branches : List Syntax)
  | concat (span : Span) (items : List Syntax)
  deriving Repr

namespace Syntax

def span : Syntax → Span
  | empty s => s
  | flags s _ => s
  | literal l => l.span
  | dot s => s
  | assertion s _ => s
  | unicode c => c.span
  | perl c => c.span
  | bracketed s _ _ => s
  | repetition s _ _ _ _ => s
  | group s _ _ => s
  | alternation s _ => s
  | concat s _ => s

/-- One item stands for itself, no item for the empty expression. -/
def ofItems (span : Span) : List Syntax → Syntax
  | [] => empty span
  | [x] => x
  | xs => concat span xs

mutual

/-- The expression with every capturing group made an ordinary one. -/
def withoutCaptures : Syntax → Syntax
  | group s k body => group s (if k.isCapture then .plain [] else k) (withoutCaptures body)
  | repetition s o k g body => repetition s o k g (withoutCaptures body)
  | alternation s xs => alternation s (withoutCapturesAll xs)
  | concat s xs => concat s (withoutCapturesAll xs)
  | x => x

def withoutCapturesAll : List Syntax → List Syntax
  | [] => []
  | x :: xs => withoutCaptures x :: withoutCapturesAll xs

end

mutual

/-- The names of the capturing groups from left to right, `none` for those without a name. -/
def captures : Syntax → List (Option (List Char))
  | group _ .numbered body => none :: captures body
  | group _ (.named _ name) body => some name :: captures body
  | group _ (.plain _) body => captures body
  | repetition _ _ _ _ body => captures body
  | alternation _ xs => capturesOfAll xs
  | concat _ xs => capturesOfAll xs
  | _ => []

def capturesOfAll : List Syntax → List (Option (List Char))
  | [] => []
  | x :: xs => captures x ++ capturesOfAll xs

end

end Syntax

/-- The characters that mean something unless escaped. -/
def isMeta (c : Char) : Bool :=
  ['\\', '.', '+', '*', '?', '(', ')', '|', '[', ']', '\x7b', '\x7d', '^', '$', '#', '&', '-', '~'].contains c

end TypedPattern.Regex
