import TypedPattern.CharSet

/-! Regular expressions by what they match: spelling, flags and ordinary groups are gone. -/

namespace TypedPattern.Regex

inductive WordLook where
  | boundary | notBoundary | start | stop | startHalf | stopHalf
  deriving DecidableEq, Repr

/-- What an assertion asks of its place. Words are those of Unicode or of ASCII. -/
inductive Look where
  | textStart | textEnd
  | lineStart | lineEnd
  | crlfLineStart | crlfLineEnd
  | word (kind : WordLook) (unicode : Bool)
  deriving DecidableEq, Repr

inductive Core where
  | empty
  | literal (cs : List Char)
  | chars (s : CharSet)
  | look (l : Look)
  /-- A number of times, and up to `more` times beyond that if there is a limit. -/
  | repetition (min : Nat) (more : Option Nat) (greedy : Bool) (body : Core)
  | capture (index : Nat) (body : Core)
  | seq (first second : Core)
  | alt (first second : Core)
  deriving DecidableEq, Repr

namespace Core

def never : Core :=
  chars .empty

def ofChars (s : CharSet) : Core :=
  match s.only? with
  | some c => literal [c]
  | none => chars s

def add (a b : Option Nat) : Option Nat :=
  match a, b with
  | some m, some n => some (m + n)
  | _, _ => none

def combine (f : Nat → Nat → Nat) (a b : Option Nat) : Option Nat :=
  match a, b with
  | some m, some n => some (f m n)
  | _, _ => none

/-- The length of the shortest text matched; `none` where there may be no text at all. -/
def minLength : Core → Option Nat
  | empty => some 0
  | literal cs => some cs.length
  | chars s => if s.isEmpty then none else some 1
  | look _ => some 0
  | repetition min _ _ body => body.minLength.map (· * min)
  | capture _ body => body.minLength
  | seq a b => add a.minLength b.minLength
  | alt a b => combine min a.minLength b.minLength

/-- The length of the longest text matched; `none` where there is no bound, or perhaps no text. -/
def maxLength : Core → Option Nat
  | empty => some 0
  | literal cs => some cs.length
  | chars s => if s.isEmpty then none else some 1
  | look _ => some 0
  | repetition min more _ body =>
    match more, body.maxLength with
    | some n, some k => some (k * (min + n))
    | _, _ => none
  | capture _ body => body.maxLength
  | seq a b => add a.maxLength b.maxLength
  | alt a b => combine max a.maxLength b.maxLength

/-- A repetition. What matches only the empty text is matched once at most, and a trivial repetition vanishes. -/
def repeated (min : Nat) (more : Option Nat) (greedy : Bool) (body : Core) : Core :=
  let (min, more) : Nat × Option Nat :=
    if body.maxLength = some 0 then (Nat.min min 1, some (Nat.min (more.getD 1) (1 - min))) else (min, more)
  if min = 0 ∧ more = some 0 then empty
  else if min = 1 ∧ more = some 0 then body
  else repetition min more greedy body

def parts : Core → List Core
  | empty => []
  | seq a b => parts a ++ parts b
  | x => [x]

/-- Puts a part in front of others, joining literals. -/
def prepend (x : Core) (xs : List Core) : List Core :=
  match x, xs with
  | literal a, literal b :: rest => literal (a ++ b) :: rest
  | x, xs => x :: xs

def ofParts : List Core → Core
  | [] => empty
  | x :: xs => xs.foldl seq x

def concat (xs : List Core) : Core :=
  ofParts ((xs.flatMap parts).foldr prepend [])

def branches : Core → List Core
  | alt a b => branches a ++ branches b
  | x => [x]

def ofBranches : List Core → Core
  | [] => never
  | [x] => x
  | x :: y :: rest => alt x (ofBranches (y :: rest))

def singleChar? : Core → Option CharSet
  | literal [c] => some (.singleton c)
  | _ => none

def charSet? : Core → Option CharSet
  | chars s => some s
  | _ => none

/-- An alternation of single characters, or of classes, as one class. -/
def asClass? (xs : List Core) : Option CharSet :=
  let unite (sets : List CharSet) : CharSet := sets.foldl .union .empty
  match xs.mapM singleChar? with
  | some sets => some (unite sets)
  | none => (xs.mapM charSet?).map unite

/-- An alternation of branches that are no alternations themselves. -/
def choose (xs : List Core) : Core :=
  match xs with
  | [] => never
  | [x] => x
  | xs =>
    match asClass? xs with
    | some s => ofChars s
    | none => ofBranches xs

def shared : List Core → List Core → List Core
  | x :: xs, y :: ys => if x = y then x :: shared xs ys else []
  | _, _ => []

def sharedByAll : List (List Core) → List Core
  | [] => []
  | x :: xs => xs.foldl shared x

/-- Sequences that begin alike share their beginning: `ab|ac` is tried as `a(?:b|c)`. -/
def factor? (xs : List Core) : Option (List Core × List Core) :=
  let sequences := xs.map parts
  if sequences.all fun ps => decide (2 ≤ ps.length) then
    let front := sharedByAll sequences
    if front.isEmpty then none
    else some (front, sequences.map fun ps => concat (ps.drop front.length))
  else none

def alternate (xs : List Core) : Core :=
  match xs.flatMap branches with
  | [] => never
  | [x] => x
  | xs =>
    match asClass? xs with
    | some s => ofChars s
    | none =>
      match factor? xs with
      | some (front, rests) => concat (front ++ [choose (rests.flatMap branches)])
      | none => ofBranches xs

end Core

end TypedPattern.Regex
