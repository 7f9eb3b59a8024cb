import TypedPattern.Regex.Reader.Cursor
import TypedPattern.Number.Power

/-! Reading repetition operators. -/

namespace TypedPattern.Regex.Repetition

open Text

/-- Digits with blanks passed after each of them. -/
def digits : (fuel : Nat) → Cursor → List Char × Cursor
  | 0, c => ([], c)
  | k + 1, c =>
    match c.rest with
    | [] => ([], c)
    | d :: _ =>
      if isDigit d then
        let (ds, c) := digits k c.bumpSkip
        (d :: ds, c)
      else ([], c)

/-- Past white space, in every mode. -/
def passWhite : (fuel : Nat) → Cursor → Cursor
  | 0, c => c
  | k + 1, c =>
    match c.rest with
    | [] => c
    | x :: _ => if isWhite x then passWhite k c.bumpSkip else c

/-- A count below `2 ^ 32` with white space around it: what is read, or what is wrong with it, and where it ends. -/
def count (c : Cursor) : Except Error Nat × Cursor :=
  let white := (c.rest.takeWhile isWhite).length
  let c := { c with pos := c.pos + white, rest := c.rest.drop white }
  let start := c.pos
  let (ds, c) := digits c.rest.length c
  let stop := c.pos
  let c := passWhite c.rest.length c
  if ds.isEmpty then (fail .repetitionCountDecimalEmpty start stop, c)
  else if decimalValue ds < twoTo 32 then (.ok (decimalValue ds), c)
  else (fail .decimalInvalid start stop, c)

def isValid : RepetitionKind → Bool
  | .between m n => decide (m ≤ n)
  | _ => true

/-- A range of counts after its brace at `start`, and whether it is greedy. -/
def readCounted (c : Cursor) : Except Error (RepetitionKind × Bool × Cursor) := do
  let start := c.pos
  let unclosed (c : Cursor) : Error := ⟨.repetitionCountUnclosed, ⟨start, c.pos⟩, none⟩
  let c := c.bumpSkip
  if c.atEnd then .error (unclosed c)
  else
    let (first, c) := count c
    if c.atEnd then .error (unclosed c)
    else
      let (kind, c) ←
        if c.at? ',' then
          let c := c.bumpSkip
          if c.atEnd then .error (unclosed c)
          else if c.at? '\x7d' then first.map fun m => (RepetitionKind.atLeast m, c)
          else do
            let m ← first
            let (second, c) := count c
            second.map fun n => (RepetitionKind.between m n, c)
        else first.map fun m => (RepetitionKind.exactly m, c)
      if !c.at? '\x7d' then .error (unclosed c)
      else
        let c := c.bumpSkip
        let lazy := c.at? '?'
        let c := if lazy then c.bump else c
        if isValid kind then .ok (kind, !lazy, c)
        else fail .repetitionCountInvalid start c.pos

/-- A sign and, right behind it, the mark of the lazy form. -/
def readSign (kind : RepetitionKind) (c : Cursor) : RepetitionKind × Bool × Cursor :=
  let c := c.bump
  if c.at? '?' then (kind, false, c.bump) else (kind, true, c)

/-- A repetition operator, the cursor being at its first character. -/
def read (c : Cursor) : Except Error (RepetitionKind × Bool × Cursor) :=
  if c.at? '?' then .ok (readSign .zeroOrOne c)
  else if c.at? '*' then .ok (readSign .zeroOrMore c)
  else if c.at? '+' then .ok (readSign .oneOrMore c)
  else readCounted c

/-- What an operator may stand behind. -/
def repeatable : Syntax → Bool
  | .empty _ => false
  | .flags _ _ => false
  | _ => true

end TypedPattern.Regex.Repetition
