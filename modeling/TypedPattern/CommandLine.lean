import TypedPattern.Session

/-! The command line: arguments, what is printed, and the exit code. -/

namespace TypedPattern.CommandLine

open Pattern (Config)

structure Invocation where
  positional : List String
  showRegex : Bool
  config : Config
  scope : Scope
  deriving DecidableEq, Repr

structure Report where
  code : Nat
  stdout : String
  stderr : String
  deriving DecidableEq, Repr

def scopeNamed? (name : String) : Option Scope :=
  match name with
  | "full" => some (.attempt .full)
  | "start" => some (.attempt .start)
  | "end" => some (.attempt .stop)
  | "search" => some (.attempt .search)
  | "all" => some .all
  | _ => none

namespace Invocation

def setScope (x : Invocation) (name : String) : Option Invocation :=
  (scopeNamed? name).map fun scope => { x with scope }

def ignoreCase (x : Invocation) : Invocation :=
  { x with config := { x.config with caseSensitive := false } }

def flexible (x : Invocation) : Invocation :=
  { x with config := { x.config with flexibleSpaces := true } }

def addPositional (x : Invocation) (args : List String) : Invocation :=
  { x with positional := x.positional ++ args }

end Invocation

/-- The value that is written behind an option's letter, with or without an equals sign. -/
def attached (cs : List Char) : String :=
  String.ofList (if cs.head? = some '=' then cs.tail else cs)

/-- What a cluster of option letters asks for; `none` instead of a mode where its name is the next argument. -/
def readLetters (x : Invocation) : List Char → Option (Invocation × Bool)
  | [] => some (x, false)
  | 'i' :: rest => readLetters x.ignoreCase rest
  | 'm' :: [] => some (x, true)
  | 'm' :: rest => (x.setScope (attached rest)).map (·, false)
  | _ => none

def modeMark : List Char :=
  "--mode=".toList

/-- What an argument in front of the end of options asks for, and whether the next argument names a mode. -/
def readArgument (x : Invocation) (arg : String) : Option (Invocation × Bool) :=
  match arg with
  | "--regex" => some ({ x with showRegex := true }, false)
  | "--ignore-case" => some (x.ignoreCase, false)
  | "--flexible-spaces" => some (x.flexible, false)
  | "--mode" => some (x, true)
  | "-" => some (x.addPositional [arg], false)
  | arg =>
    let cs := arg.toList
    if modeMark.isPrefixOf cs then (x.setScope (String.ofList (cs.drop modeMark.length))).map (·, false)
    else if cs.take 2 = ['-', '-'] then none
    else if cs.head? = some '-' then readLetters x cs.tail
    else some (x.addPositional [arg], false)

def readArguments (x : Invocation) : (modeNext : Bool) → List String → Option Invocation
  | true, [] => none
  | false, [] => some x
  | true, arg :: rest => (x.setScope arg).bind fun x => readArguments x false rest
  | false, arg :: rest =>
    if arg = "--" then some (x.addPositional rest)
    else (readArgument x arg).bind fun (x, modeNext) => readArguments x modeNext rest

/-- The pattern, the text and the options of a command line. -/
def read (args : List String) : Option (String × String × Invocation) := do
  let x ← readArguments ⟨[], false, ⟨true, false⟩, .attempt .full⟩ false args
  match x.positional with
  | [pattern, text] => some (pattern, text, x)
  | _ => none

/-- The lines of a match: its named values, and its unnamed ones if there are any. -/
def lines (r : MatchResult) : String :=
  let unnamed := r.unnamed.map Value.toText
  r.toJson ++ "\n" ++
    (if unnamed.isEmpty then "" else "Unnamed groups: " ++ Text.quotedList unnamed ++ "\n")

def failure (message : String) : Report :=
  ⟨2, "", message ++ "\n"⟩

def shown : Outcome → MatchList
  | .single r => if r.isMatch then [r] else []
  | .list l => l

def execute (types : Registry) (pattern text : String) (x : Invocation) : Report :=
  match Matcher.make types x.config pattern with
  | .error e => failure e.message
  | .ok m =>
    if x.showRegex then ⟨0, m.regex ++ "\n", ""⟩
    else
      match (Runner.single m).run x.scope text with
      | .error e => failure e.message
      | .ok o =>
        let rs := shown o
        ⟨if rs.isEmpty then 1 else 0, String.join (rs.map lines), ""⟩

def usage : String :=
  "usage: PATTERN STRING [--regex] [-i|--ignore-case] [--flexible-spaces] [-m|--mode full|start|end|search|all]"

def run (args : List String) : Report :=
  match read args with
  | none => failure usage
  | some (pattern, text, x) => execute (.builtin 0) pattern text x

end TypedPattern.CommandLine
