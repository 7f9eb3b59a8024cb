import TypedPattern.Regex.Error

/-! How deep an expression nests. -/

namespace TypedPattern.Regex

/-- The first part, from outside and from the left, that lies deeper than `room` levels. -/
def ClassSet.tooDeep? (room : Nat) : ClassSet → Option Span
  | .bracketed s _ inner =>
    match room with
    | 0 => some s
    | k + 1 => inner.tooDeep? k
  | .union s items =>
    match room with
    | 0 => some s
    | k + 1 => anyTooDeep? k items
  | .operation s _ left right =>
    match room with
    | 0 => some s
    | k + 1 => (left.tooDeep? k).or (right.tooDeep? k)
  | _ => none
where
  anyTooDeep? (room : Nat) : List ClassSet → Option Span
    | [] => none
    | x :: xs => (x.tooDeep? room).or (anyTooDeep? room xs)

def Syntax.tooDeep? (room : Nat) : Syntax → Option Span
  | .bracketed s _ inner =>
    match room with
    | 0 => some s
    | k + 1 => inner.tooDeep? k
  | .repetition s _ _ _ body =>
    match room with
    | 0 => some s
    | k + 1 => body.tooDeep? k
  | .group s _ body =>
    match room with
    | 0 => some s
    | k + 1 => body.tooDeep? k
  | .alternation s branches =>
    match room with
    | 0 => some s
    | k + 1 => anyTooDeep? k branches
  | .concat s items =>
    match room with
    | 0 => some s
    | k + 1 => anyTooDeep? k items
  | _ => none
where
  anyTooDeep? (room : Nat) : List Syntax → Option Span
    | [] => none
    | x :: xs => (x.tooDeep? room).or (anyTooDeep? room xs)

end TypedPattern.Regex
