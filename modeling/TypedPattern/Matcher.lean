import TypedPattern.Pattern.Compiled
import TypedPattern.Pattern.Config
import TypedPattern.Regex.Program
import TypedPattern.MatchResult

/-! Matchers: patterns ready to run. -/

namespace TypedPattern

open Pattern (Config Capture Compiled)
open Regex (Match Point Program)

/-- Which part of the haystack has to match. -/
inductive Mode where
  | full | start | stop | search
  deriving DecidableEq, Repr

/-- A pattern with its regular expression: as it is, and up to the end of the text. -/
structure Matcher where
  pattern : String
  config : Config
  compiled : Compiled
  bare : Program
  closed : Program

namespace Matcher

/-- The expression up to the end of the text. -/
def atEnd (regex : List Char) : List Char :=
  '(' :: '?' :: ':' :: regex ++ [')', '$']

/-- Compiles a pattern whose types are those of a registry. -/
def make (types : Registry) (config : Config) (pattern : String) : Except Error Matcher := do
  let compiled ← Pattern.compile types config.flexibleSpaces pattern
  let regex := compiled.regex.toList
  let bare ← (Program.ofText (!config.caseSensitive) regex).mapError .rejectedRegex
  let closed ← (Program.ofText (!config.caseSensitive) (atEnd regex)).mapError .rejectedRegex
  .ok ⟨pattern, config, compiled, bare, closed⟩

def regex (m : Matcher) : String :=
  m.compiled.regex

def groups (m : Matcher) : List Capture :=
  m.compiled.groups

/-- Converts what the groups captured, in order. The first conversion that fails is the outcome. -/
def collect (program : Program) (haystack : String) (found : Match) :
    List Capture → MatchResult → Except Error MatchResult
  | [], r => .ok r
  | c :: rest, r =>
    match program.group? found c.id with
    | none => collect program haystack found rest (r.addAbsent c.name)
    | some span =>
      let raw := String.ofList ((Text.sliceBytes span.start span.stop haystack.toList).getD [])
      match c.convert raw with
      | .error cause => .error (.conversion c.label raw cause)
      | .ok value => collect program haystack found rest (r.addPresent c.name value span)

def resultOf (m : Matcher) (program : Program) (haystack : String) (found : Match) : Except Error MatchResult :=
  collect program haystack found m.groups (.matched haystack)

def program (m : Matcher) : Mode → Program
  | .full => m.closed
  | .start => m.bare
  | .stop => m.closed
  | .search => m.bare

/-- The preferred match in a mode, leftmost where the start is free. -/
def find? (m : Matcher) (mode : Mode) (text : List Char) : Option Match :=
  let core := (m.program mode).core
  match mode with
  | .full => core.matchAt (.ofText text)
  | .start => core.matchAt (.ofText text)
  | .stop => core.search (.ofText text)
  | .search => core.search (.ofText text)

def run (m : Matcher) (mode : Mode) (haystack : String) : Except Error MatchResult :=
  match m.find? mode haystack.toList with
  | none => .ok .noMatch
  | some found => m.resultOf (m.program mode) haystack found

/-- The results of some matches; the first error is the outcome. -/
def resultsOf (m : Matcher) (haystack : String) : List Match → Except Error MatchList
  | [] => .ok []
  | found :: rest => do
    let r ← m.resultOf m.bare haystack found
    let rs ← m.resultsOf haystack rest
    .ok (r :: rs)

def searchAll (m : Matcher) (haystack : String) : Except Error MatchList :=
  m.resultsOf haystack (m.bare.core.searchAll haystack.toList)

end Matcher

end TypedPattern
