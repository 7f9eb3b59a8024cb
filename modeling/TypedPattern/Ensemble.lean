import TypedPattern.Matcher

/-! Several patterns run together. -/

namespace TypedPattern

open Pattern (Config)

/-- Patterns whose results are put together. A strict one matches only if all of them do. -/
structure Ensemble where
  matchers : List Matcher
  strict : Bool

namespace Ensemble

def makeAll (types : Registry) (config : Config) : List String → Except Error (List Matcher)
  | [] => .ok []
  | pattern :: rest => do
    let m ← Matcher.make types config pattern
    let ms ← makeAll types config rest
    .ok (m :: ms)

def make (types : Registry) (config : Config) (strict : Bool) (patterns : List String) : Except Error Ensemble :=
  (makeAll types config patterns).map fun matchers => ⟨matchers, strict⟩

/-- Runs matchers in order and merges their results into one. -/
def runAll (mode : Mode) (haystack : String) (strict : Bool) : List Matcher → MatchResult → Except Error MatchResult
  | [], merged => .ok merged
  | m :: rest, merged => do
    let r ← m.run mode haystack
    if strict && !r.isMatch then .ok .noMatch else runAll mode haystack strict rest (merged.merge r)

def run (m : Ensemble) (mode : Mode) (haystack : String) : Except Error MatchResult :=
  runAll mode haystack m.strict m.matchers .noMatch

/-- The matches of all patterns, those of one pattern after those of another. -/
def searchEach (haystack : String) (strict : Bool) : List Matcher → MatchList → Except Error MatchList
  | [], found => .ok found
  | m :: rest, found => do
    let l ← m.searchAll haystack
    if strict && l.isEmpty then .ok [] else searchEach haystack strict rest (found ++ l)

def searchAll (m : Ensemble) (haystack : String) : Except Error MatchList :=
  searchEach haystack m.strict m.matchers []

end Ensemble

end TypedPattern
