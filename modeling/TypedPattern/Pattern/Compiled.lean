import TypedPattern.Pattern.RegexTree

/-! Patterns with their groups numbered and their names told apart. -/

namespace TypedPattern.Pattern

/-- A pattern with its regular expression. -/
structure Compiled where
  branches : Branches (List (Segment Capture))
  flexibleSpaces : Bool

namespace Compiled

def tree (c : Compiled) : Regex.Syntax :=
  c.branches.tree c.flexibleSpaces

def regex (c : Compiled) : String :=
  String.ofList c.tree.chars

def groups (c : Compiled) : List Capture :=
  c.branches.toList.flatMap Segment.groups

end Compiled

/-- Numbers the groups of a pattern, whose names must differ. -/
def Resolved.compile (flexibleSpaces : Bool) (r : Resolved) : Except Error Compiled :=
  let compiled : Compiled := ⟨r.number, flexibleSpaces⟩
  match firstRepeated [] (compiled.groups.filterMap (·.name)) with
  | some name => .error (.duplicateGroupName name)
  | none => .ok compiled

/-- Reads a pattern, looks its types up and compiles it. -/
def compile (types : Registry) (flexibleSpaces : Bool) (text : String) : Except Error Compiled := do
  let raw ← read text
  let resolved ← Written.resolve types raw
  resolved.compile flexibleSpaces

end TypedPattern.Pattern
