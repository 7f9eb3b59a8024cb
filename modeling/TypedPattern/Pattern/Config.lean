/-! How patterns are compiled and run. -/

namespace TypedPattern.Pattern

structure Config where
  caseSensitive : Bool := true
  flexibleSpaces : Bool := false
  deriving DecidableEq, Repr

end TypedPattern.Pattern
