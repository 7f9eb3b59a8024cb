import TypedPattern.Regex.Syntax
import TypedPattern.Text.Digits

/-! What can be wrong with a regular expression, and how that is shown under its text. -/

namespace TypedPattern.Regex

def nestLimit : Nat :=
  250

inductive ErrorKind where
  | classEscapeInvalid | classRangeInvalid | classRangeLiteral | classUnclosed
  | decimalEmpty | decimalInvalid
  | escapeHexEmpty | escapeHexInvalid | escapeHexInvalidDigit | escapeUnexpectedEnd | escapeUnrecognized
  | flagDanglingNegation | flagDuplicate | flagRepeatedNegation | flagUnexpectedEnd | flagUnrecognized
  | groupNameDuplicate | groupNameEmpty | groupNameInvalid | groupNameUnexpectedEnd | groupUnclosed | groupUnopened
  | nestLimitExceeded
  | repetitionCountInvalid | repetitionCountDecimalEmpty | repetitionCountUnclosed | repetitionMissing
  | specialWordBoundaryUnclosed | specialWordBoundaryUnrecognized | specialWordOrRepetitionUnexpectedEnd
  | unicodeClassInvalid
  | unsupportedBackreference | unsupportedLookAround
  | unicodeNotAllowed | invalidUtf8 | propertyNotFound | propertyValueNotFound
  deriving DecidableEq, Repr

def ErrorKind.message : ErrorKind → String
  | classEscapeInvalid => "invalid escape sequence found in character class"
  | classRangeInvalid => "invalid character class range, the start must be <= the end"
  | classRangeLiteral => "invalid range boundary, must be a literal"
  | classUnclosed => "unclosed character class"
  | decimalEmpty => "decimal literal empty"
  | decimalInvalid => "decimal literal invalid"
  | escapeHexEmpty => "hexadecimal literal empty"
  | escapeHexInvalid => "hexadecimal literal is not a Unicode scalar value"
  | escapeHexInvalidDigit => "invalid hexadecimal digit"
  | escapeUnexpectedEnd => "incomplete escape sequence, reached end of pattern prematurely"
  | escapeUnrecognized => "unrecognized escape sequence"
  | flagDanglingNegation => "dangling flag negation operator"
  | flagDuplicate => "duplicate flag"
  | flagRepeatedNegation => "flag negation operator repeated"
  | flagUnexpectedEnd => "expected flag but got end of regex"
  | flagUnrecognized => "unrecognized flag"
  | groupNameDuplicate => "duplicate capture group name"
  | groupNameEmpty => "empty capture group name"
  | groupNameInvalid => "invalid capture group character"
  | groupNameUnexpectedEnd => "unclosed capture group name"
  | groupUnclosed => "unclosed group"
  | groupUnopened => "unopened group"
  | nestLimitExceeded => "exceed the maximum number of nested parentheses/brackets (" ++ toString nestLimit ++ ")"
  | repetitionCountInvalid => "invalid repetition count range, the start must be <= the end"
  | repetitionCountDecimalEmpty => "repetition quantifier expects a valid decimal"
  | repetitionCountUnclosed => "unclosed counted repetition"
  | repetitionMissing => "repetition operator missing expression"
  | specialWordBoundaryUnclosed =>
    "special word boundary assertion is either unclosed or contains an invalid character"
  | specialWordBoundaryUnrecognized =>
    "unrecognized special word boundary assertion, valid choices are: start, end, start-half or end-half"
  | specialWordOrRepetitionUnexpectedEnd =>
    "found either the beginning of a special word boundary or a bounded repetition on a \\b " ++
      "with an opening brace, but no closing brace"
  | unicodeClassInvalid => "invalid Unicode character class"
  | unsupportedBackreference => "backreferences are not supported"
  | unsupportedLookAround => "look-around, including look-ahead and look-behind, is not supported"
  | unicodeNotAllowed => "Unicode not allowed here"
  | invalidUtf8 => "pattern can match invalid UTF-8"
  | propertyNotFound => "Unicode property not found"
  | propertyValueNotFound => "Unicode property value not found"

/-- What is wrong, where, and the place of what it collides with. -/
structure Error where
  kind : ErrorKind
  span : Span
  other : Option Span
  deriving DecidableEq, Repr

def fail {α : Type} (kind : ErrorKind) (start stop : Nat) : Except Error α :=
  .error ⟨kind, ⟨start, stop⟩, none⟩

def failAgain {α : Type} (kind : ErrorKind) (span other : Span) : Except Error α :=
  .error ⟨kind, span, some other⟩

/-- A place in a text of several lines, counted from one. -/
structure Place where
  line : Nat
  column : Nat
  deriving DecidableEq, Repr

def Place.after (p : Place) (c : Char) : Place :=
  if c = '\n' then ⟨p.line + 1, 1⟩ else ⟨p.line, p.column + 1⟩

def placeAt (text : List Char) (pos : Nat) : Place :=
  (text.take pos).foldl Place.after ⟨1, 1⟩

/-- The lines of a text without their ends; a line feed at the very end opens no further line. -/
def splitLines (line : List Char) : List Char → List (List Char)
  | [] => if line.isEmpty then [] else [line.reverse]
  | c :: cs =>
    if c = '\n' then (if line.head? = some '\r' then line.tail else line).reverse :: splitLines [] cs
    else splitLines (c :: line) cs

/-- A stretch of one line under which marks are put, or one over several lines. -/
structure Marked where
  start : Place
  stop : Place

def Marked.oneLine (m : Marked) : Bool :=
  m.start.line == m.stop.line

/-- The blanks and marks under a line, `column` characters of which are written. -/
def marks : (column : Nat) → List Marked → List Char
  | _, [] => []
  | column, m :: rest =>
    let gap := m.start.column - 1 - column
    let width := max 1 (m.stop.column - m.start.column)
    List.replicate gap ' ' ++ List.replicate width '^' ++ marks (column + gap + width) rest

def padNumber (width n : Nat) : List Char :=
  let ds := Text.decimal n
  List.replicate (width - ds.length) ' ' ++ ds

/-- The lines of a text with their numbers, if they have a width, and marks under them. -/
def notate (width : Nat) (spans : List Marked) : (number : Nat) → List (List Char) → List Char
  | _, [] => []
  | number, line :: rest =>
    let head := if width = 0 then List.replicate 4 ' ' else padNumber width number ++ [':', ' ']
    let here := spans.filter fun m => m.oneLine && m.start.line == number
    let under := if here.isEmpty then []
      else List.replicate head.length ' ' ++ marks 0 here ++ ['\n']
    head ++ line ++ '\n' :: under ++ notate width spans (number + 1) rest

def Error.spans (e : Error) : List Span :=
  match e.other with
  | none => [e.span]
  | some o =>
    if o.start < e.span.start ∨ (o.start = e.span.start ∧ o.stop ≤ e.span.stop) then [o, e.span] else [e.span, o]

def throughNote (m : Marked) : String :=
  "on line " ++ toString m.start.line ++ " (column " ++ toString m.start.column ++ ") through line " ++
    toString m.stop.line ++ " (column " ++ toString (m.stop.column - 1) ++ ")"

/-- The text of the expression with the fault marked, and what it is. -/
def Error.render (e : Error) (text : List Char) : String :=
  let spans := e.spans.map fun s => Marked.mk (placeAt text s.start) (placeAt text s.stop)
  let lines := splitLines [] text
  let count := lines.length + (if text.getLast? = some '\n' then 1 else 0)
  let width := if count ≤ 1 then 0 else (Text.decimal count).length
  let body := String.ofList (notate width spans 1 lines)
  if text.contains '\n' then
    let divider := String.ofList (List.replicate 79 '~') ++ "\n"
    let long := spans.filter fun m => !m.oneLine
    let notes := if long.isEmpty then "" else "\n".intercalate (long.map throughNote) ++ "\n"
    "regex parse error:\n" ++ divider ++ body ++ divider ++ notes ++ "error: " ++ e.kind.message
  else "regex parse error:\n" ++ body ++ "error: " ++ e.kind.message

end TypedPattern.Regex
