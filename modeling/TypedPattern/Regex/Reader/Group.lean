import TypedPattern.Regex.Reader.Cursor

/-! Reading what an opening parenthesis introduces, up to the body of the group. -/

namespace TypedPattern.Regex.Group

/-- A capture name and its place. -/
structure CaptureName where
  name : List Char
  span : Span

/-- Flags for the rest of the enclosing group, or the head of a group. -/
inductive Head where
  | setting (flags : List FlagItem)
  | opened (kind : GroupKind)

def isNameStart (c : Char) : Bool :=
  c == '_' || isAlphabetic c

def isNamePart (c : Char) : Bool :=
  c == '_' || c == '.' || c == '[' || c == ']' || isAlphanumeric c

/-- The characters of a name up to its closing mark, or up to the end. -/
def nameChars : (fuel : Nat) → (first : Bool) → Cursor → Except Error (List Char × Cursor)
  | 0, _, c => .ok ([], c)
  | k + 1, first, c =>
    match c.rest with
    | [] => .ok ([], c)
    | x :: _ =>
      if x = '>' then .ok ([], c)
      else if if first then isNameStart x else isNamePart x then
        (nameChars k false c.bump).map fun (xs, c) => (x :: xs, c)
      else fail .groupNameInvalid c.pos (c.pos + 1)

/-- A name that no earlier group has. -/
def readName (seen : List CaptureName) (c : Cursor) : Except Error (CaptureName × Cursor) := do
  let start := c.pos
  let (name, c) ← nameChars c.rest.length true c
  if c.atEnd then fail .groupNameUnexpectedEnd c.pos c.pos
  else if name.isEmpty then fail .groupNameEmpty start start
  else
    let found : CaptureName := ⟨name, ⟨start, c.pos⟩⟩
    match seen.find? fun other => other.name == name with
    | some other => failAgain .groupNameDuplicate found.span other.span
    | none => .ok (found, c.bump)

def flagOf? (c : Char) : Option Flag :=
  [.caseInsensitive, .multiLine, .dotMatchesNewLine, .swapGreed, .unicode, .crlf, .ignoreWhitespace].find?
    fun f => Flag.letter f == c

/-- The place of an item that says the same. -/
def repeated? (items : List FlagItem) (item : FlagItem) : Option Span :=
  (items.find? fun other =>
    match other, item with
    | .negation _, .negation _ => true
    | .flag _ f, .flag _ g => f == g
    | _, _ => false).map (·.span)

/-- Flags up to a colon or a closing parenthesis. -/
def readFlags : (fuel : Nat) → (items : List FlagItem) → Cursor → Except Error (List FlagItem × Cursor)
  | 0, items, c => .ok (items, c)
  | k + 1, items, c =>
    match c.rest with
    | [] => fail .flagUnexpectedEnd c.pos c.pos
    | x :: _ =>
      if x = ':' ∨ x = ')' then
        match items.getLast? with
        | some (.negation s) => .error ⟨.flagDanglingNegation, s, none⟩
        | _ => .ok (items, c)
      else if x = '-' then
        match repeated? items (.negation c.spanChar) with
        | some other => failAgain .flagRepeatedNegation c.spanChar other
        | none => readFlags k (items ++ [.negation c.spanChar]) c.bump
      else match flagOf? x with
        | none => .error ⟨.flagUnrecognized, c.spanChar, none⟩
        | some f =>
          match repeated? items (.flag c.spanChar f) with
          | some other => failAgain .flagDuplicate c.spanChar other
          | none => readFlags k (items ++ [.flag c.spanChar f]) c.bump

def lookAroundMarks : List (List Char) :=
  [['?', '='], ['?', '!'], ['?', '<', '='], ['?', '<', '!']]

/-- The names seen so far, with a new one if the group has one. -/
abbrev Opened := Head × List CaptureName × Cursor

def openNamed (letter : Bool) (seen : List CaptureName) (c : Cursor) : Except Error Opened := do
  let (name, c) ← readName seen c
  .ok (.opened (.named letter name.name), seen ++ [name], c)

/-- Flags after a question mark; `inner` is where the text of the group begins. -/
def openFlags (start inner : Nat) (seen : List CaptureName) (c : Cursor) : Except Error Opened := do
  if c.atEnd then fail .groupUnclosed start (start + 1)
  else
    let (items, c) ← readFlags (c.rest.length + 1) [] c
    if c.at? ')' then
      if items.isEmpty then fail .repetitionMissing inner inner
      else .ok (.setting items, seen, c.bump)
    else .ok (.opened (.plain items), seen, c.bump)

/-- The head of a group, the cursor being at its parenthesis. -/
def readHead (seen : List CaptureName) (c : Cursor) : Except Error Opened :=
  let start := c.pos
  let c := c.bumpSkip
  match lookAroundMarks.findSome? c.after? with
  | some after => fail .unsupportedLookAround start after.pos
  | none =>
    match c.after? ['?', 'P', '<'] with
    | some c => openNamed true seen c
    | none =>
      match c.after? ['?', '<'] with
      | some c => openNamed false seen c
      | none =>
        match c.after? ['?'] with
        | some after => openFlags start c.pos seen after
        | none => .ok (.opened .numbered, seen, c)

end TypedPattern.Regex.Group
