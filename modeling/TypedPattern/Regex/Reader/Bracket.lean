import TypedPattern.Regex.Reader.Escape

/-! Reading bracketed classes. -/

namespace TypedPattern.Regex.Bracket

/-- Items read so far, the last one first. The span grows with them. -/
structure Union where
  span : Span
  items : List ClassSet

def Union.startingAt (pos : Nat) : Union :=
  ⟨⟨pos, pos⟩, []⟩

def Union.push (u : Union) (item : ClassSet) : Union :=
  ⟨⟨if u.items.isEmpty then item.span.start else u.span.start, item.span.stop⟩, item :: u.items⟩

def Union.toSet (u : Union) : ClassSet :=
  match u.items with
  | [] => .empty u.span
  | [x] => x
  | xs => .union u.span xs.reverse

/-- The left side of an operator whose right side is being read. -/
abbrev Pending := Option (SetOperator × ClassSet)

/-- Operators bind to the left: what is pending is closed by the set to its right. -/
def close (pending : Pending) (right : ClassSet) : ClassSet :=
  match pending with
  | none => right
  | some (operator, left) => .operation ⟨left.span.start, right.span.stop⟩ operator left right

/-- What the opening of a class tells: its place, its first characters included, and whether it is negated. -/
structure Opening where
  span : Span
  negated : Bool

/-- Hyphens at the start of a class are literals. -/
def leadingHyphens (start : Nat) : (fuel : Nat) → Union → Cursor → Except Error (Union × Cursor)
  | 0, u, c => .ok (u, c)
  | k + 1, u, c =>
    if c.at? '-' then
      let u := u.push (.literal ⟨c.spanChar, .verbatim, '-'⟩)
      let c := c.bumpSkip
      if c.atEnd then fail .classUnclosed start start else leadingHyphens start k u c
    else .ok (u, c)

/-- The opening bracket, a caret, hyphens, and a closing bracket where it is the first literal. -/
def readOpening (c : Cursor) : Except Error (Opening × Union × Cursor) := do
  let start := c.pos
  let c := c.bumpSkip
  if c.atEnd then fail .classUnclosed start c.pos
  else
    let negated := c.at? '^'
    let c := if negated then c.bumpSkip else c
    if c.atEnd then fail .classUnclosed start c.pos
    else
      let (u, c) ← leadingHyphens start c.rest.length (Union.startingAt c.pos) c
      if u.items.isEmpty && c.at? ']' then
        let u := u.push (.literal ⟨c.spanChar, .verbatim, ']'⟩)
        let c := c.bumpSkip
        if c.atEnd then fail .classUnclosed start c.pos
        else .ok (⟨⟨start, c.pos⟩, negated⟩, u, c)
      else .ok (⟨⟨start, c.pos⟩, negated⟩, u, c)

/-- A class by its name between brackets and colons; `none` where the text is none. -/
def readAscii? (c : Cursor) : Option (ClassSet × Cursor) := do
  let inside ← c.after? ['[', ':']
  let negated := inside.at? '^'
  let inside := if negated then inside.bump else inside
  let name := inside.rest.takeWhile (· != ':')
  let behind ← inside.after? name
  let done ← behind.after? [':', ']']
  let kind ← AsciiKind.ofName? name
  some (.ascii ⟨c.pos, done.pos⟩ kind negated, done)

def readItem (c : Cursor) : Except Error (Syntax × Cursor) :=
  match c.rest with
  | [] => fail .classUnclosed c.pos c.pos
  | x :: _ => if x = '\\' then Escape.read c else .ok (.literal ⟨c.spanChar, .verbatim, x⟩, c.bump)

def itemSet : Syntax → Except Error ClassSet
  | .literal l => .ok (.literal l)
  | .perl p => .ok (.perl p)
  | .unicode u => .ok (.unicode u)
  | x => .error ⟨.classEscapeInvalid, x.span, none⟩

def itemLiteral : Syntax → Except Error Literal
  | .literal l => .ok l
  | x => .error ⟨.classRangeLiteral, x.span, none⟩

/-- One item, or two with a hyphen between them. A hyphen before a bracket or another hyphen makes no range. -/
def readRange (opening : Opening) (c : Cursor) : Except Error (ClassSet × Cursor) := do
  let unclosed : Error := ⟨.classUnclosed, opening.span, none⟩
  let (first, c) ← readItem c
  let c := c.skip
  if c.atEnd then .error unclosed
  else if !c.at? '-' || c.peekPast == some ']' || c.peekPast == some '-' then
    .ok (← itemSet first, c)
  else
    let c := c.bumpSkip
    if c.atEnd then .error unclosed
    else
      let (last, c) ← readItem c
      let span : Span := ⟨first.span.start, last.span.stop⟩
      let lo ← itemLiteral first
      let hi ← itemLiteral last
      if lo.char ≤ hi.char then .ok (.range span lo hi, c)
      else .error ⟨.classRangeInvalid, span, none⟩

def operator? (c : Cursor) : Option SetOperator :=
  match c.rest with
  | '&' :: '&' :: _ => some .intersection
  | '-' :: '-' :: _ => some .difference
  | '~' :: '~' :: _ => some .symmetricDifference
  | _ => none

/-- The rest of a class after its opening, up to its bracket. -/
def readRest : (fuel : Nat) → Opening → Pending → Union → Cursor → Except Error (ClassSet × Cursor)
  | 0, opening, _, _, _ => .error ⟨.classUnclosed, opening.span, none⟩
  | k + 1, opening, pending, u, c =>
    let c := c.skip
    match c.rest with
    | [] => .error ⟨.classUnclosed, opening.span, none⟩
    | ']' :: _ =>
      let c := c.bump
      .ok (.bracketed ⟨opening.span.start, c.pos⟩ opening.negated (close pending u.toSet), c)
    | '[' :: _ =>
      match readAscii? c with
      | some (item, c) => readRest k opening pending (u.push item) c
      | none => do
        let (inner, v, c) ← readOpening c
        let (item, c) ← readRest k inner none v c
        readRest k opening pending (u.push item) c
    | _ =>
      match operator? c with
      | some operator =>
        let c := c.bump.bump
        readRest k opening (some (operator, close pending u.toSet)) (Union.startingAt c.pos) c
      | none => do
        let (item, c) ← readRange opening c
        readRest k opening pending (u.push item) c

def read (c : Cursor) : Except Error (Syntax × Cursor) := do
  let (opening, u, c') ← readOpening c
  match ← readRest (c.rest.length + 1) opening none u c' with
  | (.bracketed span negated inner, c) => .ok (.bracketed span negated inner, c)
  | (other, c) => .ok (.bracketed other.span false other, c)

end TypedPattern.Regex.Bracket
