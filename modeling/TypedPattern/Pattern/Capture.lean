import TypedPattern.Pattern.Resolved

/-! The groups of a pattern in their order. -/

namespace TypedPattern.Pattern

/-- A group with its place among all groups of the pattern, from the left. -/
structure Capture where
  order : Nat
  name : Option String
  constraint : Constraint

namespace Capture

/-- The name in the regular expression; one that no pattern can give to a group stands in for a missing name. -/
def id (c : Capture) : String :=
  match c.name with
  | some name => name
  | none => "unnamed." ++ toString c.order

def label (c : Capture) : String :=
  match c.name with
  | some name => ticked name
  | none => "#" ++ toString c.order

def convert (c : Capture) : Converter :=
  match c.constraint with
  | .type t => t.converter
  | _ => .identity

def summary (c : Capture) : String :=
  let name := match c.name with
    | some name => "Some(" ++ Text.quoted name ++ ")"
    | none => "None"
  "GroupEntry \x7b internal_id: " ++ Text.quoted c.id ++ ", display_name: " ++ name ++ ", order: " ++
    toString c.order ++ ", .. \x7d"

end Capture

/-- Numbers the groups of a branch, from `next` on. -/
def number (next : Nat) : List (Segment Group) → List (Segment Capture)
  | [] => []
  | .literal text :: rest => .literal text :: number next rest
  | .wildcard w :: rest => .wildcard w :: number next rest
  | .group g :: rest => .group ⟨next, g.name, g.constraint⟩ :: number (next + 1) rest

/-- Numbers all groups, the right branch after the left one. -/
def Resolved.number : Resolved → Branches (List (Segment Capture))
  | .one only => .one (Pattern.number 0 only)
  | .two left right => .two (Pattern.number 0 left) (Pattern.number (Segment.groups left).length right)

def firstRepeated (seen : List String) : List String → Option String
  | [] => none
  | name :: rest => if seen.contains name then some name else firstRepeated (name :: seen) rest

end TypedPattern.Pattern
