import TypedPattern.Pattern.Segment
import TypedPattern.Registry
import TypedPattern.Number.Power

/-! Patterns whose constraints are looked up. -/

namespace TypedPattern.Pattern

inductive Constraint where
  | free
  | width (n : Nat)
  | type (t : GroupType)

structure Group where
  name : Option String
  constraint : Constraint

/-- A letter or an underscore, then letters, digits and underscores. -/
def isIdentifier (name : String) : Bool :=
  match name.toList with
  | [] => false
  | c :: cs => (c == '_' || isAlphabetic c) && cs.all fun c => c == '_' || isAlphanumeric c

/-- Widths are below `2 ^ 32`. -/
def maxWidth : Nat :=
  twoTo 32 - 1

def Constraint.resolve (types : Registry) (pos : Nat) : Option String → Except Error Constraint
  | none => .ok .free
  | some text =>
    let cs := text.toList
    if cs.all Text.isDigit then
      if Text.decimalValue cs ≤ maxWidth then .ok (.width (Text.decimalValue cs)) else .error (.widthTooLarge text pos)
    else (types.resolve text).map .type

def Group.resolve (types : Registry) (g : WrittenGroup) : Except Error Group :=
  match g.name.filter fun name => !isIdentifier name with
  | some name => .error (.invalidGroupName name g.pos)
  | none => (Constraint.resolve types g.pos g.constraint).map (Group.mk g.name)

abbrev Resolved :=
  Branches (List (Segment Group))

def Written.resolve (types : Registry) (raw : Written) : Except Error Resolved :=
  raw.mapM (Segment.mapAllM (Group.resolve types))

end TypedPattern.Pattern
