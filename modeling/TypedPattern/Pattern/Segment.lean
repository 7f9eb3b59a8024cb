import TypedPattern.Pattern.Token
import TypedPattern.Error

/-! Patterns as one or two branches of segments. -/

namespace TypedPattern.Pattern

/-- A piece of a pattern, with groups of some kind. -/
inductive Segment (γ : Type) where
  | literal (text : List Char)
  | wildcard (w : Wildcard)
  | group (g : γ)
  deriving DecidableEq, Repr

inductive Branches (α : Type) where
  | one (only : α)
  | two (left right : α)
  deriving DecidableEq, Repr

namespace Segment

variable {γ δ ε : Type}

def mapM (f : γ → Except ε δ) : Segment γ → Except ε (Segment δ)
  | literal text => .ok (literal text)
  | wildcard w => .ok (wildcard w)
  | group g => (f g).map group

def group? : Segment γ → Option γ
  | group g => some g
  | _ => none

def groups (segments : List (Segment γ)) : List γ :=
  segments.filterMap group?

def mapAllM (f : γ → Except ε δ) : List (Segment γ) → Except ε (List (Segment δ))
  | [] => .ok []
  | s :: rest => do
    let t ← s.mapM f
    let ts ← mapAllM f rest
    .ok (t :: ts)

end Segment

namespace Branches

variable {α β ε : Type}

def toList : Branches α → List α
  | one x => [x]
  | two x y => [x, y]

def isAlternation : Branches α → Bool
  | one _ => false
  | two _ _ => true

def mapM (f : α → Except ε β) : Branches α → Except ε (Branches β)
  | one x => (f x).map one
  | two x y => do
    let x ← f x
    let y ← f y
    .ok (two x y)

end Branches

/-- A pattern as it is written. -/
abbrev Written :=
  Branches (List (Segment WrittenGroup))

/-- A branch: the segments up to the next bar, and the bar and what is behind it. -/
def readBranch : List Token → Except Error (List (Segment WrittenGroup) × List Token)
  | [] => .ok ([], [])
  | t :: rest =>
    match t.kind with
    | .text cs => (readBranch rest).map fun (ss, ts) => (.literal cs :: ss, ts)
    | .wildcard w => (readBranch rest).map fun (ss, ts) => (.wildcard w :: ss, ts)
    | .group g => (readBranch rest).map fun (ss, ts) => (.group g :: ss, ts)
    | .bar => .ok ([], t :: rest)
    | .unterminated snippet => .error (.unterminatedGroup (String.ofList snippet) t.start)

/-- Reads a pattern. A second bar is an error, and so is a group that does not end. -/
def read (text : String) : Except Error Written := do
  let cs := text.toList
  let (left, rest) ← readBranch (tokens cs)
  match rest with
  | [] => .ok (.one left)
  | _ :: rest =>
    let (right, more) ← readBranch rest
    match more with
    | [] => .ok (.two left right)
    | t :: _ => .error (.secondAlternation (String.ofList ((Text.dropBytes t.start cs).getD [])) t.start)

end TypedPattern.Pattern
