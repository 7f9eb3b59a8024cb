import TypedPattern.Proofs.Reading.Bare
import TypedPattern.Proofs.Reading.Steps
import TypedPattern.Proofs.Printing.Cursor
import TypedPattern.Regex.Printer

/-!
Trees as they come out of reading, without their places, and when their text can be told apart again. In verbose mode
blanks may keep apart what the printed text brings together, such as `a+ ?` or `[[ :alpha:]]`.
-/

namespace TypedPattern.Regex

namespace Literal

/-- A literal that an escape spells. -/
def Escaped (l : Literal) : Prop :=
  match l.form with
  | .verbatim => False
  | .escaped => isMeta l.char = true ∨ (l.char.toNat < 0x80 ∧ l.char.isAlphanum = false ∧ l.char ≠ '<' ∧ l.char ≠ '>')
  | .control => Escape.controlChar? (controlLetter l.char) = some l.char
  | .hexFixed kind => l.char.toNat < 16 ^ kind.digits
  | .hexBraced _ => True

/-- A literal that stands for itself, but for some characters. -/
def Verbatim (verbose : Bool) (but : List Char) (l : Literal) : Prop :=
  l.form = .verbatim ∧ l.char ∉ but ∧ Solid verbose l.char

end Literal

/-- The characters that do not stand for themselves outside of classes. -/
def specials : List Char :=
  ['(', ')', '|', '?', '*', '+', '\x7b', '\\', '[', '.', '^', '$']

def UnicodeKind.Written (verbose : Bool) (k : UnicodeKind) : Prop :=
  (∃ c, k = .letter c ∧ c ≠ '\x7b' ∧ c ≠ '\\' ∧ Solid verbose c) ∨
    ∃ name, k = Escape.unicodeKind name ∧ ∀ c ∈ name, c ≠ '\x7d' ∧ Solid verbose c

def FlagsWritten (items : List FlagItem) : Prop :=
  items.Nodup ∧ items.getLast? ≠ some (.negation ⟨0, 0⟩)

def RepetitionKind.Written : RepetitionKind → Prop
  | exactly n => n < twoTo 32
  | atLeast n => n < twoTo 32
  | between m n => m ≤ n ∧ n < twoTo 32
  | _ => True

def GroupKind.Written : GroupKind → Prop
  | numbered => True
  | named _ name => ∃ c cs, name = c :: cs ∧ Group.isNameStart c = true ∧ ∀ d ∈ cs, Group.isNamePart d = true
  | plain items => FlagsWritten items

namespace ClassSet

def hyphen : ClassSet :=
  .literal ⟨⟨0, 0⟩, .verbatim, '-'⟩

def closer : ClassSet :=
  .literal ⟨⟨0, 0⟩, .verbatim, ']'⟩

def ofItems : List ClassSet → ClassSet
  | [] => .empty ⟨0, 0⟩
  | [x] => x
  | xs => .union ⟨0, 0⟩ xs

def operate (s : ClassSet) : List (SetOperator × List ClassSet) → ClassSet
  | [] => s
  | (o, xs) :: more => operate (.operation ⟨0, 0⟩ o s (ofItems xs)) more

def charsOfMore (more : List (SetOperator × List ClassSet)) : List Char :=
  more.flatMap fun (o, xs) => o.chars ++ charsOfAll xs

/-- What may stand at the very start of a class: hyphens, or else a closing bracket. -/
inductive Lead : List ClassSet → Prop
  | hyphens (n : Nat) : Lead (List.replicate n hyphen)
  | closer : Lead [closer]

/-- How a class may go on behind its start. -/
structure GoesOn (negated : Bool) (lead : List ClassSet) (behind : List Char) : Prop where
  hyphen : lead ≠ [closer] → behind.head? ≠ some '-'
  closer : lead = [] → behind.head? ≠ some ']'
  caret : lead = [] → negated = false → behind.head? ≠ some '^'

/-- A part of a class. -/
inductive Part where
  | item (x : ClassSet)
  | items (xs : List ClassSet)
  | more (more : List (SetOperator × List ClassSet))
  | body (negated : Bool) (inner : ClassSet)

inductive Written (verbose : Bool) : Part → Prop
  | escaped {l : Literal} : l.Escaped → Written verbose (.item (.literal l.bare))
  | verbatim {l : Literal} : l.Verbatim verbose ['\\', '[', ']'] → Written verbose (.item (.literal l.bare))
  | range {first last : Literal} : first.Escaped ∨ first.Verbatim verbose ['\\', '[', ']'] →
      last.Escaped ∨ last.Verbatim verbose ['\\'] → first.char ≤ last.char →
      Written verbose (.item (.range ⟨0, 0⟩ first.bare last.bare))
  | ascii (kind : AsciiKind) (negated : Bool) : Written verbose (.item (.ascii ⟨0, 0⟩ kind negated))
  | unicode {u : UnicodeClass} : u.kind.Written verbose → Written verbose (.item (.unicode u.bare))
  | perl (p : PerlClass) : Written verbose (.item (.perl p.bare))
  | bracketed {negated : Bool} {inner : ClassSet} : Written verbose (.body negated inner) →
      Written verbose (.item (.bracketed ⟨0, 0⟩ negated inner))
  | nil : Written verbose (.items [])
  | cons {x : ClassSet} {xs : List ClassSet} : Written verbose (.item x) → Written verbose (.items xs) →
      Written verbose (.items (x :: xs))
  | last : Written verbose (.more [])
  | operator {o : SetOperator} {xs : List ClassSet} {more : List (SetOperator × List ClassSet)} :
      Written verbose (.items xs) → Written verbose (.more more) → Written verbose (.more ((o, xs) :: more))
  | body {negated : Bool} {lead xs : List ClassSet} {more : List (SetOperator × List ClassSet)} : Lead lead →
      Written verbose (.items xs) → Written verbose (.more more) →
      GoesOn negated lead (charsOfAll xs ++ charsOfMore more ++ [']']) →
      Written verbose (.body negated (operate (ofItems (lead ++ xs)) more))

/-- Whether a text begins with an operator. -/
def startsDoubled : List Char → Bool
  | a :: b :: _ => a == b && (Bracket.doubled a).isSome
  | _ => false

/-- Whether a hyphen comes next that makes a range. -/
def joins : List Char → Bool
  | '-' :: c :: _ => c != ']' && c != '-'
  | _ => false

/-- Whether a class is spelled like one with a name. -/
def isSpelledNamed (cs : List Char) : Bool :=
  AsciiKind.all.any fun k =>
    (ClassSet.ascii ⟨0, 0⟩ k false).chars.isPrefixOf cs || (ClassSet.ascii ⟨0, 0⟩ k true).chars.isPrefixOf cs

/-- Whether an item that begins no operator ends where it should. -/
def isParted (behind : List Char) : ClassSet → Bool
  | literal _ => !joins behind
  | unicode _ => !joins behind
  | perl _ => !joins behind
  | range _ _ last => last.form != .verbatim || (last.char != ']' && last.char != '-')
  | .bracketed span negated inner => !isSpelledNamed (bracketed span negated inner).chars
  | _ => true

/-- Whether an item is read as one where some text comes behind it. -/
def isClear (x : ClassSet) (behind : List Char) : Bool :=
  !startsDoubled (x.chars ++ behind) && x.isParted behind

/-- Whether a set is some character that stands for itself. -/
def isVerbatim (c : Char) : ClassSet → Bool
  | literal l => l.form == .verbatim && l.char == c
  | _ => false

mutual

/-- Whether the text of a set, with some text behind it, is read as that set. At the start of a class hyphens or a
closing bracket are read as such. -/
def legible (atStart : Bool) (behind : List Char) : ClassSet → Bool
  | .operation _ o left right =>
    left.legible atStart (o.chars ++ right.chars ++ behind) && right.legible false behind
  | .union _ items => legibleAll atStart behind items
  | .empty _ => true
  | .bracketed span negated inner => inner.legible true [']'] && (bracketed span negated inner).isClear behind
  | x => atStart && (x.isVerbatim '-' || x.isVerbatim ']') || x.isClear behind

def legibleAll (atStart : Bool) (behind : List Char) : List ClassSet → Bool
  | [] => true
  | x :: xs => x.legible atStart (charsOfAll xs ++ behind) && legibleAll (atStart && x.isVerbatim '-') behind xs

end

end ClassSet

namespace Syntax

/-- The verbose mode behind an item. -/
def verboseAfter (verbose : Bool) : Syntax → Bool
  | flags _ items => Regex.verboseAfter items verbose
  | _ => verbose

/-- A part of an expression, with the verbose mode before and behind it. -/
inductive Part where
  | item (verbose : Bool) (x : Syntax)
  | items (verbose : Bool) (xs : List Syntax) (after : Bool)
  | branches (verbose : Bool) (bs : List Syntax) (after : Bool)
  | level (verbose : Bool) (x : Syntax)

inductive Written : Part → Prop
  | escaped {v : Bool} {l : Literal} : l.Escaped → Written (.item v (.literal l.bare))
  | verbatim {v : Bool} {l : Literal} : l.Verbatim v specials → Written (.item v (.literal l.bare))
  | dot (v : Bool) : Written (.item v (.dot ⟨0, 0⟩))
  | assertion (v : Bool) (kind : AssertionKind) : Written (.item v (.assertion ⟨0, 0⟩ kind))
  | unicode {v : Bool} {u : UnicodeClass} : u.kind.Written v → Written (.item v (.unicode u.bare))
  | perl (v : Bool) (p : PerlClass) : Written (.item v (.perl p.bare))
  | bracketed {v negated : Bool} {inner : ClassSet} : ClassSet.Written v (.body negated inner) →
      Written (.item v (.bracketed ⟨0, 0⟩ negated inner))
  | flags {v : Bool} {items : List FlagItem} : items ≠ [] → FlagsWritten (items.map FlagItem.bare) →
      Written (.item v (.flags ⟨0, 0⟩ (items.map FlagItem.bare)))
  | repetition {v : Bool} {kind : RepetitionKind} {greedy : Bool} {body : Syntax} : Written (.item v body) →
      Repetition.repeatable body = true → kind.Written →
      Written (.item v (.repetition ⟨0, 0⟩ ⟨0, 0⟩ kind greedy body))
  | group {v : Bool} {kind : GroupKind} {body : Syntax} : kind.bare.Written → Written (.level (kind.verbose v) body) →
      Written (.item v (.group ⟨0, 0⟩ kind.bare body))
  | nil (v : Bool) : Written (.items v [] v)
  | cons {v w : Bool} {x : Syntax} {xs : List Syntax} : Written (.item v x) →
      Written (.items (x.verboseAfter v) xs w) → Written (.items v (x :: xs) w)
  | last {v w : Bool} {xs : List Syntax} : Written (.items v xs w) → Written (.branches v [.ofItems ⟨0, 0⟩ xs] w)
  | next {v w u : Bool} {xs bs : List Syntax} : Written (.items v xs w) → Written (.branches w bs u) →
      Written (.branches v (.ofItems ⟨0, 0⟩ xs :: bs) u)
  | single {v w : Bool} {xs : List Syntax} : Written (.items v xs w) → Written (.level v (.ofItems ⟨0, 0⟩ xs))
  | alternation {v w : Bool} {a b : Syntax} {bs : List Syntax} : Written (.branches v (a :: b :: bs) w) →
      Written (.level v (.alternation ⟨0, 0⟩ (a :: b :: bs)))

def isGreedy : Syntax → Bool
  | repetition _ _ _ greedy _ => greedy
  | _ => false

mutual

/-- Whether the text of an expression is read as that expression. -/
def legible : Syntax → Bool
  | .bracketed _ _ inner => inner.legible true [']']
  | .repetition _ _ kind _ body => body.legible && !(kind == .zeroOrOne && body.isGreedy)
  | .group _ _ body => body.legible
  | .alternation _ branches => legibleAll branches
  | .concat _ items => legibleAll items
  | _ => true

def legibleAll : List Syntax → Bool
  | [] => true
  | x :: xs => x.legible && legibleAll xs

end

end Syntax

end TypedPattern.Regex
