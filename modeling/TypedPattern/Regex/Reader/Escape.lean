import TypedPattern.Regex.Reader.Cursor

/-! Reading what a backslash introduces. -/

namespace TypedPattern.Regex.Escape

open Text

def charOfHex? (ds : List Char) : Option Char :=
  let n := hexValue ds
  if n < 0x110000 ∧ ¬(0xD800 ≤ n ∧ n ≤ 0xDFFF) then some (Char.ofNat n) else none

/-- A number of hexadecimal digits, with blanks passed after each. -/
def fixedDigits : Nat → Cursor → Except Error (List Char × Cursor)
  | 0, c => .ok ([], c)
  | n + 1, c =>
    match c.rest with
    | [] => fail .escapeUnexpectedEnd c.pos c.pos
    | d :: _ =>
      if isHexDigit d then (fixedDigits n c.bumpSkip).map fun (ds, c) => (d :: ds, c)
      else fail .escapeHexInvalidDigit c.pos (c.pos + 1)

/-- The digits up to a closing brace, or up to the end. -/
def bracedDigits : (fuel : Nat) → Cursor → Except Error (List Char × Cursor)
  | 0, c => .ok ([], c)
  | k + 1, c =>
    match c.rest with
    | [] => .ok ([], c)
    | d :: _ =>
      if d = '\x7d' then .ok ([], c)
      else if isHexDigit d then (bracedDigits k c.bumpSkip).map fun (ds, c) => (d :: ds, c)
      else fail .escapeHexInvalidDigit c.pos (c.pos + 1)

/-- A character by its number, the cursor being at the letter after the backslash at `start`. -/
def readHex (start : Nat) (kind : HexKind) (c : Cursor) : Except Error (Literal × Cursor) := do
  let c := c.bumpSkip
  if c.atEnd then fail .escapeUnexpectedEnd c.pos c.pos
  else if c.at? '\x7b' then
    let brace := c.pos
    let (ds, c) ← bracedDigits c.rest.length c.bumpSkip
    if c.atEnd then fail .escapeUnexpectedEnd brace c.pos
    else
      let stop := c.pos
      let c := c.bumpSkip
      if ds.isEmpty then fail .escapeHexEmpty brace c.pos
      else match charOfHex? ds with
        | some x => .ok (⟨⟨start, c.pos⟩, .hexBraced kind, x⟩, c)
        | none => fail .escapeHexInvalid (brace + 1) stop
  else
    let first := c.pos
    let (ds, c) ← fixedDigits kind.digits c
    match charOfHex? ds with
    | some x => .ok (⟨⟨start, c.pos⟩, .hexFixed kind, x⟩, c)
    | none => fail .escapeHexInvalid first c.pos

/-- The characters up to a closing brace, blanks passed, or up to the end. -/
def bracedName : (fuel : Nat) → Cursor → List Char × Cursor
  | 0, c => ([], c)
  | k + 1, c =>
    match c.rest with
    | [] => ([], c)
    | x :: _ =>
      if x = '\x7d' then ([], c)
      else
        let (xs, c) := bracedName k c.bumpSkip
        (x :: xs, c)

/-- The text before and after the first occurrence of `mark`. -/
def cut (mark : List Char) : List Char → Option (List Char × List Char)
  | [] => none
  | c :: cs =>
    if mark.isPrefixOf (c :: cs) then some ([], (c :: cs).drop mark.length)
    else (cut mark cs).map fun (a, b) => (c :: a, b)

/-- A name, or a name and a value; the sign for inequality is looked for first, then the colon. -/
def unicodeKind (name : List Char) : UnicodeKind :=
  match cut ['!', '='] name with
  | some (a, b) => .valued .notEqual a b
  | none =>
    match cut [':'] name with
    | some (a, b) => .valued .colon a b
    | none =>
      match cut ['='] name with
      | some (a, b) => .valued .equal a b
      | none => .named name

/-- A class of characters with a property, the cursor being at the letter after the backslash at `start`. -/
def readUnicode (start : Nat) (negated : Bool) (c : Cursor) : Except Error (UnicodeClass × Cursor) :=
  let c := c.bumpSkip
  match c.rest with
  | [] => fail .escapeUnexpectedEnd c.pos c.pos
  | x :: _ =>
    if x = '\x7b' then
      let (name, c) := bracedName c.rest.length c.bumpSkip
      if c.atEnd then fail .escapeUnexpectedEnd c.pos c.pos
      else
        let c := c.bump
        .ok (⟨⟨start, c.pos⟩, negated, unicodeKind name⟩, c)
    else if x = '\\' then fail .unicodeClassInvalid c.pos (c.pos + 1)
    else
      let c := c.bumpSkip
      .ok (⟨⟨start, c.pos⟩, negated, .letter x⟩, c)

def isBoundaryLetter (c : Char) : Bool :=
  (decide ('A' ≤ c) && decide (c ≤ 'Z')) || (decide ('a' ≤ c) && decide (c ≤ 'z')) || c == '-'

def boundaryName : (fuel : Nat) → Cursor → List Char × Cursor
  | 0, c => ([], c)
  | k + 1, c =>
    match c.rest with
    | [] => ([], c)
    | x :: _ =>
      if isBoundaryLetter x then
        let (xs, c) := boundaryName k c.bumpSkip
        (x :: xs, c)
      else ([], c)

def boundaryKind? (name : List Char) : Option AssertionKind :=
  if name = "start".toList then some .wordStart
  else if name = "end".toList then some .wordEnd
  else if name = "start-half".toList then some .wordStartHalf
  else if name = "end-half".toList then some .wordEndHalf
  else none

/-- The kind of word boundary that braces after `\b` name. What begins with no letter is left for a repetition. -/
def readBoundary (start : Nat) (c : Cursor) : Except Error (Option AssertionKind × Cursor) :=
  let brace := c
  let c := c.bumpSkip
  match c.rest with
  | [] => fail .specialWordOrRepetitionUnexpectedEnd start c.pos
  | x :: _ =>
    if !isBoundaryLetter x then .ok (none, brace)
    else
      let first := c.pos
      let (name, c) := boundaryName c.rest.length c
      if !c.at? '\x7d' then fail .specialWordBoundaryUnclosed brace.pos c.pos
      else match boundaryKind? name with
        | some kind => .ok (some kind, c.bump)
        | none => fail .specialWordBoundaryUnrecognized first c.pos

def controlChar? (c : Char) : Option Char :=
  if c = 'a' then some '\x07'
  else if c = 'f' then some '\x0c'
  else if c = 't' then some '\t'
  else if c = 'n' then some '\n'
  else if c = 'r' then some '\r'
  else if c = 'v' then some '\x0b'
  else none

def assertionKind? (c : Char) : Option AssertionKind :=
  if c = 'A' then some .textStart
  else if c = 'z' then some .textEnd
  else if c = 'b' then some .wordBoundary
  else if c = 'B' then some .notWordBoundary
  else if c = '<' then some .wordStartAngle
  else if c = '>' then some .wordEndAngle
  else none

def perlKind? (c : Char) : Option (PerlKind × Bool) :=
  if c = 'd' then some (.digit, false)
  else if c = 'D' then some (.digit, true)
  else if c = 's' then some (.space, false)
  else if c = 'S' then some (.space, true)
  else if c = 'w' then some (.word, false)
  else if c = 'W' then some (.word, true)
  else none

def hexKind? (c : Char) : Option HexKind :=
  if c = 'x' then some .byte
  else if c = 'u' then some .short
  else if c = 'U' then some .long
  else none

/-- An escape of one character: meta characters and other ASCII marks mean themselves. -/
def readSimple (start : Nat) (x : Char) (c : Cursor) : Except Error (Syntax × Cursor) :=
  let span : Span := ⟨start, c.pos⟩
  if isMeta x then .ok (.literal ⟨span, .escaped, x⟩, c)
  else match controlChar? x with
    | some y => .ok (.literal ⟨span, .control, y⟩, c)
    | none =>
      match assertionKind? x with
      | some .wordBoundary =>
        if c.at? '\x7b' then do
          match ← readBoundary start c with
          | (some kind, c) => .ok (.assertion ⟨start, c.pos⟩ kind, c)
          | (none, c) => .ok (.assertion span .wordBoundary, c)
        else .ok (.assertion span .wordBoundary, c)
      | some kind => .ok (.assertion span kind, c)
      | none =>
        if x.toNat < 0x80 ∧ !x.isAlphanum then .ok (.literal ⟨span, .escaped, x⟩, c)
        else fail .escapeUnrecognized start c.pos

def read (c : Cursor) : Except Error (Syntax × Cursor) :=
  let start := c.pos
  let c := c.bump
  match c.rest with
  | [] => fail .escapeUnexpectedEnd start c.pos
  | x :: _ =>
    if isDigit x then fail .unsupportedBackreference start (c.pos + 1)
    else match hexKind? x with
      | some kind => (readHex start kind c).map fun (l, c) => (.literal l, c)
      | none =>
        if x = 'p' ∨ x = 'P' then (readUnicode start (x == 'P') c).map fun (u, c) => (.unicode u, c)
        else match perlKind? x with
          | some (kind, negated) => .ok (.perl ⟨⟨start, c.bump.pos⟩, kind, negated⟩, c.bump)
          | none => readSimple start x c.bump

end TypedPattern.Regex.Escape
