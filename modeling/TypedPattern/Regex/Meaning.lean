import TypedPattern.Unicode.Folding
import TypedPattern.Unicode.Property
import TypedPattern.Regex.Error
import TypedPattern.Regex.Core

/-! What the spelling of a regular expression means. -/

namespace TypedPattern.Regex

structure Flags where
  caseInsensitive : Bool
  multiLine : Bool
  dotMatchesNewLine : Bool
  swapGreed : Bool
  unicode : Bool
  crlf : Bool
  deriving DecidableEq, Repr

namespace Flags

def standard (caseInsensitive : Bool) : Flags :=
  ⟨caseInsensitive, false, false, false, true, false⟩

/-- The flags with those changed that some items name. -/
def apply (f : Flags) (items : List FlagItem) : Flags :=
  let get (flag : Flag) (old : Bool) : Bool := (flagState flag false items).getD old
  ⟨get .caseInsensitive f.caseInsensitive, get .multiLine f.multiLine, get .dotMatchesNewLine f.dotMatchesNewLine,
   get .swapGreed f.swapGreed, get .unicode f.unicode, get .crlf f.crlf⟩

end Flags

def failAt {α : Type} (kind : ErrorKind) (span : Span) : Except Error α :=
  .error ⟨kind, span, none⟩

def AsciiKind.chars : AsciiKind → CharSet
  | alnum => ⟨[⟨0x30, 0x39⟩, ⟨0x41, 0x5A⟩, ⟨0x61, 0x7A⟩]⟩
  | alpha => ⟨[⟨0x41, 0x5A⟩, ⟨0x61, 0x7A⟩]⟩
  | ascii => ⟨[⟨0x00, 0x7F⟩]⟩
  | blank => ⟨[⟨0x09, 0x09⟩, ⟨0x20, 0x20⟩]⟩
  | cntrl => ⟨[⟨0x00, 0x1F⟩, ⟨0x7F, 0x7F⟩]⟩
  | digit => ⟨[⟨0x30, 0x39⟩]⟩
  | graph => ⟨[⟨0x21, 0x7E⟩]⟩
  | lower => ⟨[⟨0x61, 0x7A⟩]⟩
  | print => ⟨[⟨0x20, 0x7E⟩]⟩
  | punct => ⟨[⟨0x21, 0x2F⟩, ⟨0x3A, 0x40⟩, ⟨0x5B, 0x60⟩, ⟨0x7B, 0x7E⟩]⟩
  | space => ⟨[⟨0x09, 0x0D⟩, ⟨0x20, 0x20⟩]⟩
  | upper => ⟨[⟨0x41, 0x5A⟩]⟩
  | word => ⟨[⟨0x30, 0x39⟩, ⟨0x41, 0x5A⟩, ⟨0x5F, 0x5F⟩, ⟨0x61, 0x7A⟩]⟩
  | xdigit => ⟨[⟨0x30, 0x39⟩, ⟨0x41, 0x46⟩, ⟨0x61, 0x66⟩]⟩

namespace Meaning

/-- The closure under case, where case is of no account. -/
def fold (f : Flags) (s : CharSet) : CharSet :=
  if !f.caseInsensitive then s
  else if f.unicode then Unicode.closeUnderFolding s
  else Unicode.closeUnderAsciiFolding s

/-- The complement, where a class is negated. Without Unicode a negated class holds single bytes past ASCII. -/
def negate (f : Flags) (span : Span) (negated : Bool) (s : CharSet) : Except Error CharSet :=
  if !negated then .ok s
  else if f.unicode then .ok s.complement
  else failAt .invalidUtf8 span

/-- The character of a literal. Without Unicode an escape of two digits past ASCII is a byte, which is no text. -/
def literalChar (f : Flags) (l : Literal) : Except Error Char :=
  if !f.unicode && l.form == .hexFixed .byte && decide (0x7F < l.char.toNat) then failAt .invalidUtf8 l.span
  else .ok l.char

/-- A literal as a member of a class: without Unicode only ASCII will do. -/
def member (f : Flags) (l : Literal) : Except Error Nat := do
  let c ← literalChar f l
  if !f.unicode && decide (0x7F < c.toNat) then failAt .unicodeNotAllowed l.span else .ok c.toNat

def perl (f : Flags) (p : PerlClass) : Except Error CharSet :=
  let s := match p.kind, f.unicode with
    | .digit, true => Unicode.decimalDigit
    | .digit, false => Unicode.asciiDigit
    | .space, true => Unicode.whiteSpace
    | .space, false => Unicode.asciiSpace
    | .word, true => Unicode.word
    | .word, false => Unicode.asciiWord
  negate f p.span p.negated s

def unicodeClass (f : Flags) (u : UnicodeClass) : Except Error CharSet :=
  if !f.unicode then failAt .unicodeNotAllowed u.span
  else
    let found := match u.kind with
      | .letter c => Unicode.classNamed [c]
      | .named name => Unicode.classNamed name
      | .valued _ name value => Unicode.classOfValue name value
    match found with
    | .ok s => negate f u.span u.negated (fold f s)
    | .error .propertyNotFound => failAt .propertyNotFound u.span
    | .error .valueNotFound => failAt .propertyValueNotFound u.span

def applyOperator : SetOperator → CharSet → CharSet → CharSet
  | .intersection => .inter
  | .difference => .diff
  | .symmetricDifference => .symmDiff

mutual

def classSet (f : Flags) : ClassSet → Except Error CharSet
  | .empty _ => .ok .empty
  | .literal l => (member f l).map fun n => .range n n
  | .range _ first last => do
    let lo ← member f first
    let hi ← member f last
    .ok (.range lo hi)
  | .ascii span kind negated => negate f span negated (fold f kind.chars)
  | .unicode u => unicodeClass f u
  | .perl p => perl f p
  | .bracketed span negated inner => do negate f span negated (fold f (← classSet f inner))
  | .union _ items => unionOf f items
  | .operation _ operator left right => do
    let l ← classSet f left
    let r ← classSet f right
    .ok (applyOperator operator (fold f l) (fold f r))

def unionOf (f : Flags) : List ClassSet → Except Error CharSet
  | [] => .ok .empty
  | x :: xs => do
    let s ← classSet f x
    let t ← unionOf f xs
    .ok (s.union t)

end

/-- A literal, or the class of all its cases. -/
def literal (f : Flags) (l : Literal) : Except Error Core := do
  let c ← literalChar f l
  if !f.caseInsensitive then .ok (.literal [c])
  else if !f.unicode && decide (0x7F < c.toNat) then failAt .unicodeNotAllowed l.span
  else .ok (.ofChars (fold f (.singleton c)))

/-- Any character but a line feed, or any but the ends of a line, or any at all. -/
def dot (f : Flags) (span : Span) : Except Error Core :=
  if !f.unicode then failAt .invalidUtf8 span
  else if f.dotMatchesNewLine then .ok (.chars (.range 0 0x10FFFF))
  else if f.crlf then .ok (.chars ⟨[⟨0, 0x09⟩, ⟨0x0B, 0x0C⟩, ⟨0x0E, 0x10FFFF⟩]⟩)
  else .ok (.chars ⟨[⟨0, 0x09⟩, ⟨0x0B, 0x10FFFF⟩]⟩)

def look (f : Flags) : AssertionKind → Look
  | .lineStart => if f.multiLine then (if f.crlf then .crlfLineStart else .lineStart) else .textStart
  | .lineEnd => if f.multiLine then (if f.crlf then .crlfLineEnd else .lineEnd) else .textEnd
  | .textStart => .textStart
  | .textEnd => .textEnd
  | .wordBoundary => .word .boundary f.unicode
  | .notWordBoundary => .word .notBoundary f.unicode
  | .wordStart => .word .start f.unicode
  | .wordStartAngle => .word .start f.unicode
  | .wordEnd => .word .stop f.unicode
  | .wordEndAngle => .word .stop f.unicode
  | .wordStartHalf => .word .startHalf f.unicode
  | .wordEndHalf => .word .stopHalf f.unicode

/-- How often at least, and how much more often at most. -/
def bounds : RepetitionKind → Nat × Option Nat
  | .zeroOrOne => (0, some 1)
  | .zeroOrMore => (0, none)
  | .oneOrMore => (1, none)
  | .exactly n => (n, some 0)
  | .atLeast n => (n, none)
  | .between m n => (m, some (n - m))

/-- The flags in force and the index of the next capturing group. -/
structure Context where
  flags : Flags
  next : Nat

mutual

/-- The expression and the context behind it. Flags last to the end of their group, across its bars. -/
def expression (x : Context) : Syntax → Except Error (Core × Context)
  | .empty _ => .ok (.empty, x)
  | .flags _ items => .ok (.empty, { x with flags := x.flags.apply items })
  | .literal l => (literal x.flags l).map (·, x)
  | .dot span => (dot x.flags span).map (·, x)
  | .assertion _ kind => .ok (.look (look x.flags kind), x)
  | .unicode u => (unicodeClass x.flags u).map fun s => (.ofChars s, x)
  | .perl p => (perl x.flags p).map fun s => (.ofChars s, x)
  | .bracketed span negated inner => do
    let s ← negate x.flags span negated (fold x.flags (← classSet x.flags inner))
    .ok (.ofChars s, x)
  | .repetition _ _ kind greedy body => do
    let (r, y) ← expression x body
    let (min, more) := bounds kind
    .ok (.repeated min more (greedy != y.flags.swapGreed) r, y)
  | .group _ (.plain items) body => do
    let (r, y) ← expression { x with flags := x.flags.apply items } body
    .ok (r, { y with flags := x.flags })
  | .group _ _ body => do
    let (r, y) ← expression { x with next := x.next + 1 } body
    .ok (.capture x.next r, { y with flags := x.flags })
  | .alternation _ branches => do
    let (rs, y) ← expressions x branches
    .ok (.alternate rs, y)
  | .concat _ items => do
    let (rs, y) ← expressions x items
    .ok (.concat rs, y)

def expressions (x : Context) : List Syntax → Except Error (List Core × Context)
  | [] => .ok ([], x)
  | s :: rest => do
    let (r, y) ← expression x s
    let (rs, z) ← expressions y rest
    .ok (r :: rs, z)

end

end Meaning

/-- What an expression means where case counts or not. -/
def Syntax.meaning (caseInsensitive : Bool) (s : Syntax) : Except Error Core :=
  (Meaning.expression ⟨.standard caseInsensitive, 0⟩ s).map (·.1)

end TypedPattern.Regex
