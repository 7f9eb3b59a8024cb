/-! Positions in text, counted in bytes of its UTF-8 form. -/

namespace TypedPattern.Text

/-- A stretch of text, from one byte position up to another. -/
structure ByteSpan where
  start : Nat
  stop : Nat
  deriving DecidableEq, Repr

def byteLength : List Char → Nat
  | [] => 0
  | c :: cs => c.utf8Size + byteLength cs

/-- The characters from a byte position on; `none` past the end or inside a character. -/
def dropBytes : Nat → List Char → Option (List Char)
  | 0, cs => some cs
  | _ + 1, [] => none
  | n + 1, c :: cs => if c.utf8Size ≤ n + 1 then dropBytes (n + 1 - c.utf8Size) cs else none

/-- The characters before a byte position; `none` past the end or inside a character. -/
def takeBytes : Nat → List Char → Option (List Char)
  | 0, _ => some []
  | _ + 1, [] => none
  | n + 1, c :: cs => if c.utf8Size ≤ n + 1 then (takeBytes (n + 1 - c.utf8Size) cs).map (c :: ·) else none

/-- The characters between two byte positions. -/
def sliceBytes (start stop : Nat) (cs : List Char) : Option (List Char) :=
  (dropBytes start cs).bind (takeBytes (stop - start))

/-- Why text cannot be cut at a byte position. -/
inductive CutFault where
  | outOfBounds (index : Nat)
  | insideCharacter (index : Nat)
  deriving DecidableEq, Repr

def CutFault.message : CutFault → String
  | outOfBounds index => "byte index " ++ toString index ++ " is out of bounds"
  | insideCharacter index => "byte index " ++ toString index ++ " is not a char boundary"

def cutFault (index : Nat) (cs : List Char) : CutFault :=
  if byteLength cs < index then .outOfBounds index else .insideCharacter index

/-- The characters between two byte positions, or why there are none. -/
def slice (start stop : Nat) (cs : List Char) : Except CutFault (List Char) :=
  match dropBytes start cs with
  | none => .error (cutFault start cs)
  | some rest =>
    match takeBytes (stop - start) rest with
    | none => .error (cutFault stop cs)
    | some part => .ok part

end TypedPattern.Text
