import TypedPattern.Text.Quoted
import TypedPattern.Regex.Program
import TypedPattern.Converter

/-! What can be wrong with a pattern, a type, a conversion or a replacement. -/

namespace TypedPattern

inductive TypeFault where
  | emptyName
  | nameIsWidth
  | nameHasReserved
  | emptyFragment
  | fragment (cause : Regex.Error) (text : String)
  deriving DecidableEq, Repr

def TypeFault.message : TypeFault → String
  | emptyName => "type name is empty"
  | nameIsWidth => "type name would be read as a width"
  | nameHasReserved => "type name contains whitespace, \x60[\x60, \x60]\x60 or \x60:\x60"
  | emptyFragment => "regex fragment is empty"
  | fragment cause text => cause.render text.toList

inductive Error where
  | unterminatedGroup (snippet : String) (pos : Nat)
  | secondAlternation (snippet : String) (pos : Nat)
  | invalidGroupName (name : String) (pos : Nat)
  | widthTooLarge (width : String) (pos : Nat)
  | unknownType (name : String) (known : List String)
  | invalidType (name : String) (fault : TypeFault)
  | duplicateGroupName (name : String)
  | conversion (label raw : String) (cause : ConvertError)
  | rejectedRegex (fault : Regex.ProgramFault)
  | noMatch
  | badCut (fault : Text.CutFault) (text : String)
  deriving DecidableEq, Repr

def ticked (s : String) : String :=
  "\x60" ++ s ++ "\x60"

def Error.message : Error → String
  | unterminatedGroup snippet pos => "unterminated group " ++ Text.quoted snippet ++ " at " ++ toString pos
  | secondAlternation snippet pos =>
    "second " ++ ticked "|" ++ " at " ++ toString pos ++ " in " ++ Text.quoted snippet ++
      "; a pattern splits into at most two alternatives"
  | invalidGroupName name pos => "group name " ++ Text.quoted name ++ " at " ++ toString pos ++ " is not an identifier"
  | widthTooLarge width pos => "width " ++ width ++ " at " ++ toString pos ++ " is too large"
  | unknownType name known => "unknown type " ++ ticked name ++ "; known types are: " ++ ", ".intercalate known
  | invalidType name fault => "invalid type " ++ ticked name ++ ": " ++ fault.message
  | duplicateGroupName name => "group name " ++ ticked name ++ " is used more than once"
  | conversion label raw cause =>
    "cannot convert " ++ Text.quoted raw ++ " captured by group " ++ label ++ ": " ++ cause.message
  | rejectedRegex fault => "compiled regex rejected: " ++ fault.message
  | noMatch => "replace() needs a successful match"
  | badCut fault text => fault.message ++ " of " ++ ticked text

end TypedPattern
