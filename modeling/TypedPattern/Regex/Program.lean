import TypedPattern.Regex.Reader
import TypedPattern.Regex.Meaning
import TypedPattern.Regex.Footprint
import TypedPattern.Regex.Matching

/-! Regular expressions ready to run. -/

namespace TypedPattern.Regex

/-- Why a regular expression is not run: it cannot be read, or it takes too much room. -/
inductive ProgramFault where
  | unreadable
  | tooLarge
  deriving DecidableEq, Repr

def ProgramFault.message : ProgramFault → String
  | unreadable => "error parsing pattern 0"
  | tooLarge => "error building NFA"

/-- What an expression matches, and the names of its capturing groups from left to right. -/
structure Program where
  core : Core
  names : List (Option (List Char))

namespace Program

/-- The program of a text that can be read and whose automata are not too large. -/
def ofText (caseInsensitive : Bool) (text : List Char) : Except ProgramFault Program :=
  match read text with
  | .error _ => .error .unreadable
  | .ok tree =>
    match tree.meaning caseInsensitive with
    | .error _ => .error .unreadable
    | .ok core => if core.fits then .ok ⟨core, tree.captures⟩ else .error .tooLarge

/-- The stretch of the group of a name, if it took part in a match. -/
def group? (r : Program) (found : Match) (name : String) : Option Text.ByteSpan :=
  (r.names.findIdx? (· == some name.toList)).bind found.group?

end Program

end TypedPattern.Regex
