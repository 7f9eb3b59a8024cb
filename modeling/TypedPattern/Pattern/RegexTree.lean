import TypedPattern.Pattern.Capture

/-! The regular expression that a pattern stands for. -/

namespace TypedPattern.Pattern

open Regex (Syntax Span RepetitionKind)

/-- Parts that were never read have no place. -/
def nowhere : Span :=
  ⟨0, 0⟩

def dotTree : Syntax :=
  .dot nowhere

def repeatTree (kind : RepetitionKind) (body : Syntax) : Syntax :=
  .repetition nowhere nowhere kind true body

def charTree (c : Char) : Syntax :=
  .literal ⟨nowhere, if Regex.isMeta c then .escaped else .verbatim, c⟩

def literalTree (flexible : Bool) (c : Char) : Syntax :=
  if c = ' ' ∧ flexible then repeatTree .oneOrMore (charTree ' ') else charTree c

def Wildcard.tree : Wildcard → Syntax
  | any => repeatTree .zeroOrMore dotTree
  | one => dotTree
  | maybe => repeatTree .zeroOrOne dotTree

def Constraint.tree : Constraint → Syntax
  | free => repeatTree .zeroOrMore dotTree
  | width n => repeatTree (.exactly n) dotTree
  | type t => t.tree

/-- A literal is one part for each of its characters. -/
def Segment.trees (flexible : Bool) : Segment Capture → List Syntax
  | literal text => text.map (literalTree flexible)
  | wildcard w => [w.tree]
  | group c => [.group nowhere (.named true c.id.toList) c.constraint.tree]

def branchTree (flexible : Bool) (segments : List (Segment Capture)) : Syntax :=
  .ofItems nowhere (segments.flatMap (Segment.trees flexible))

/-- An ordinary group around an expression. -/
def enclosed (x : Syntax) : Syntax :=
  .group nowhere (.plain []) x

def Branches.tree (flexible : Bool) : Branches (List (Segment Capture)) → Syntax
  | one only => branchTree flexible only
  | two left right => .alternation nowhere [enclosed (branchTree flexible left), enclosed (branchTree flexible right)]

end TypedPattern.Pattern
