import TypedPattern.Regex.Meaning
import TypedPattern.Regex.Nesting
import Mathlib.Tactic

/-! Trees without the places of their parts, on which their meaning does not depend. -/

namespace TypedPattern.Regex

def Literal.bare (l : Literal) : Literal :=
  { l with span := ⟨0, 0⟩ }

def PerlClass.bare (p : PerlClass) : PerlClass :=
  { p with span := ⟨0, 0⟩ }

def UnicodeClass.bare (u : UnicodeClass) : UnicodeClass :=
  { u with span := ⟨0, 0⟩ }

def FlagItem.bare : FlagItem → FlagItem
  | negation _ => .negation ⟨0, 0⟩
  | flag _ f => .flag ⟨0, 0⟩ f

def GroupKind.bare : GroupKind → GroupKind
  | plain items => .plain (items.map FlagItem.bare)
  | k => k

mutual

def ClassSet.bare : ClassSet → ClassSet
  | .empty _ => .empty ⟨0, 0⟩
  | .literal l => .literal l.bare
  | .range _ first last => .range ⟨0, 0⟩ first.bare last.bare
  | .ascii _ kind negated => .ascii ⟨0, 0⟩ kind negated
  | .unicode u => .unicode u.bare
  | .perl p => .perl p.bare
  | .bracketed _ negated inner => .bracketed ⟨0, 0⟩ negated inner.bare
  | .union _ items => .union ⟨0, 0⟩ (ClassSet.bareAll items)
  | .operation _ operator left right => .operation ⟨0, 0⟩ operator left.bare right.bare

def ClassSet.bareAll : List ClassSet → List ClassSet
  | [] => []
  | x :: xs => x.bare :: ClassSet.bareAll xs

end

mutual

def Syntax.bare : Syntax → Syntax
  | .empty _ => .empty ⟨0, 0⟩
  | .flags _ items => .flags ⟨0, 0⟩ (items.map FlagItem.bare)
  | .literal l => .literal l.bare
  | .dot _ => .dot ⟨0, 0⟩
  | .assertion _ kind => .assertion ⟨0, 0⟩ kind
  | .unicode u => .unicode u.bare
  | .perl p => .perl p.bare
  | .bracketed _ negated inner => .bracketed ⟨0, 0⟩ negated inner.bare
  | .repetition _ _ kind greedy body => .repetition ⟨0, 0⟩ ⟨0, 0⟩ kind greedy body.bare
  | .group _ kind body => .group ⟨0, 0⟩ kind.bare body.bare
  | .alternation _ branches => .alternation ⟨0, 0⟩ (Syntax.bareAll branches)
  | .concat _ items => .concat ⟨0, 0⟩ (Syntax.bareAll items)

def Syntax.bareAll : List Syntax → List Syntax
  | [] => []
  | x :: xs => x.bare :: Syntax.bareAll xs

end

lemma ClassSet.bareAll_eq_map (xs : List ClassSet) : ClassSet.bareAll xs = xs.map ClassSet.bare := by
  induction xs with
  | nil => rfl
  | cons x xs ih => rw [ClassSet.bareAll, ih, List.map_cons]

lemma Syntax.bareAll_eq_map (xs : List Syntax) : Syntax.bareAll xs = xs.map Syntax.bare := by
  induction xs with
  | nil => rfl
  | cons x xs ih => rw [Syntax.bareAll, ih, List.map_cons]

lemma Syntax.ofItems_bare (s : Span) (xs : List Syntax) :
    (Syntax.ofItems s xs).bare = Syntax.ofItems ⟨0, 0⟩ (xs.map Syntax.bare) := by
  rcases xs with _ | ⟨x, _ | ⟨y, xs⟩⟩
  · rfl
  · rfl
  · simp only [Syntax.ofItems, Syntax.bare, Syntax.bareAll_eq_map, List.map_cons]

lemma FlagItem.map_bare_bare (items : List FlagItem) :
    (items.map FlagItem.bare).map FlagItem.bare = items.map FlagItem.bare := by
  rw [List.map_map]
  congr 1
  funext item
  cases item <;> rfl

mutual

lemma ClassSet.tooDeep?_bare (room : Nat) : ∀ s : ClassSet, (s.bare.tooDeep? room).isSome = (s.tooDeep? room).isSome
  | .empty _ => rfl
  | .literal _ => rfl
  | .range _ _ _ => rfl
  | .ascii _ _ _ => rfl
  | .unicode _ => rfl
  | .perl _ => rfl
  | .bracketed _ _ inner => by
    cases room with
    | zero => rfl
    | succ k => exact ClassSet.tooDeep?_bare k inner
  | .union _ items => by
    cases room with
    | zero => rfl
    | succ k => exact ClassSet.anyTooDeep?_bare k items
  | .operation _ _ left right => by
    cases room with
    | zero => rfl
    | succ k =>
      simp only [ClassSet.bare, ClassSet.tooDeep?, Option.isSome_or, ClassSet.tooDeep?_bare k left,
        ClassSet.tooDeep?_bare k right]

lemma ClassSet.anyTooDeep?_bare (room : Nat) : ∀ xs : List ClassSet,
    (ClassSet.tooDeep?.anyTooDeep? room (ClassSet.bareAll xs)).isSome = (ClassSet.tooDeep?.anyTooDeep? room xs).isSome
  | [] => rfl
  | x :: xs => by
    simp only [ClassSet.bareAll, ClassSet.tooDeep?.anyTooDeep?, Option.isSome_or, ClassSet.tooDeep?_bare room x,
      ClassSet.anyTooDeep?_bare room xs]

end

mutual

lemma Syntax.tooDeep?_bare (room : Nat) : ∀ s : Syntax, (s.bare.tooDeep? room).isSome = (s.tooDeep? room).isSome
  | .empty _ => rfl
  | .flags _ _ => rfl
  | .literal _ => rfl
  | .dot _ => rfl
  | .assertion _ _ => rfl
  | .unicode _ => rfl
  | .perl _ => rfl
  | .bracketed _ _ inner => by
    cases room with
    | zero => rfl
    | succ k => exact ClassSet.tooDeep?_bare k inner
  | .repetition _ _ _ _ body => by
    cases room with
    | zero => rfl
    | succ k => exact Syntax.tooDeep?_bare k body
  | .group _ _ body => by
    cases room with
    | zero => rfl
    | succ k => exact Syntax.tooDeep?_bare k body
  | .alternation _ branches => by
    cases room with
    | zero => rfl
    | succ k => exact Syntax.anyTooDeep?_bare k branches
  | .concat _ items => by
    cases room with
    | zero => rfl
    | succ k => exact Syntax.anyTooDeep?_bare k items

lemma Syntax.anyTooDeep?_bare (room : Nat) : ∀ xs : List Syntax,
    (Syntax.tooDeep?.anyTooDeep? room (Syntax.bareAll xs)).isSome = (Syntax.tooDeep?.anyTooDeep? room xs).isSome
  | [] => rfl
  | x :: xs => by
    simp only [Syntax.bareAll, Syntax.tooDeep?.anyTooDeep?, Option.isSome_or, Syntax.tooDeep?_bare room x,
      Syntax.anyTooDeep?_bare room xs]

end

lemma flagState_bare (f : Flag) (negated : Bool) (items : List FlagItem) :
    flagState f negated (items.map FlagItem.bare) = flagState f negated items := by
  induction items generalizing negated with
  | nil => rfl
  | cons item rest ih =>
    cases item with
    | negation s => exact ih true
    | flag s g =>
      rw [List.map_cons, FlagItem.bare, flagState, flagState, ih]

lemma Flags.apply_bare (f : Flags) (items : List FlagItem) : f.apply (items.map FlagItem.bare) = f.apply items := by
  simp only [Flags.apply, flagState_bare]

def result? {ε α : Type} : Except ε α → Option α
  | .ok a => some a
  | .error _ => none

section Result

variable {ε α β : Type}

lemma bind_eq_ok {x : Except ε α} {f : α → Except ε β} {b : β} :
    x.bind f = .ok b ↔ ∃ a, x = .ok a ∧ f a = .ok b := by
  cases x with
  | error e => simp [Except.bind]
  | ok a => exact ⟨fun h => ⟨a, rfl, h⟩, fun ⟨_, h, hb⟩ => (Except.ok.inj h) ▸ hb⟩

lemma map_eq_ok {x : Except ε α} {f : α → β} {b : β} : x.map f = .ok b ↔ ∃ a, x = .ok a ∧ f a = b := by
  cases x with
  | error e => simp [Except.map]
  | ok a => simp [Except.map]

lemma bind_of_ok {x : Except ε α} {a : α} (h : x = .ok a) (f : α → Except ε β) : x.bind f = f a := by
  rw [h]
  rfl

lemma result?_eq_some {x : Except ε α} {a : α} : result? x = some a ↔ x = .ok a := by
  cases x <;> simp [result?]

lemma any_result? {x : Except ε α} {p : α → Bool} : (result? x).any p = true ↔ ∃ a, x = .ok a ∧ p a = true := by
  cases x <;> simp [result?]

lemma result?_bind (x : Except ε α) (f : α → Except ε β) :
    result? (x >>= f) = (result? x).bind fun a => result? (f a) := by
  cases x <;> rfl

lemma result?_map (x : Except ε α) (f : α → β) : result? (x.map f) = (result? x).map f := by
  cases x <;> rfl

end Result

namespace Meaning

lemma negate_bare (f : Flags) (s t : Span) (negated : Bool) (set : CharSet) :
    result? (negate f s negated set) = result? (negate f t negated set) := by
  unfold negate
  split
  · rfl
  · split <;> rfl

lemma literalChar_bare (f : Flags) (l : Literal) : result? (literalChar f l.bare) = result? (literalChar f l) := by
  unfold literalChar Literal.bare
  split <;> rfl

lemma member_bare (f : Flags) (l : Literal) : result? (member f l.bare) = result? (member f l) := by
  unfold member
  rw [result?_bind, result?_bind, literalChar_bare]
  congr 1
  funext c
  split <;> rfl

lemma literal_bare (f : Flags) (l : Literal) : result? (literal f l.bare) = result? (literal f l) := by
  unfold literal
  rw [result?_bind, result?_bind, literalChar_bare]
  congr 1
  funext c
  split
  · rfl
  · split <;> rfl

lemma perl_bare (f : Flags) (p : PerlClass) : result? (perl f p.bare) = result? (perl f p) :=
  negate_bare f _ _ _ _

lemma unicodeClass_bare (f : Flags) (u : UnicodeClass) :
    result? (unicodeClass f u.bare) = result? (unicodeClass f u) := by
  unfold unicodeClass UnicodeClass.bare
  split
  · rfl
  · dsimp only
    split
    · exact negate_bare f _ _ _ _
    · rfl
    · rfl

mutual

lemma classSet_bare (f : Flags) : ∀ s : ClassSet, result? (classSet f s.bare) = result? (classSet f s)
  | .empty _ => rfl
  | .literal l => by
    rw [ClassSet.bare, classSet, classSet, result?_map, result?_map, member_bare]
  | .range _ first last => by
    simp only [ClassSet.bare, classSet, result?_bind, member_bare]
  | .ascii s kind negated => negate_bare f _ s _ _
  | .unicode u => unicodeClass_bare f u
  | .perl p => perl_bare f p
  | .bracketed s negated inner => by
    simp only [ClassSet.bare, classSet, result?_bind, classSet_bare f inner, negate_bare f ⟨0, 0⟩ s]
  | .union _ items => unionOf_bare f items
  | .operation _ operator left right => by
    simp only [ClassSet.bare, classSet, result?_bind, classSet_bare f left, classSet_bare f right]

lemma unionOf_bare (f : Flags) : ∀ items : List ClassSet,
    result? (unionOf f (ClassSet.bareAll items)) = result? (unionOf f items)
  | [] => rfl
  | x :: xs => by
    simp only [ClassSet.bareAll, unionOf, result?_bind, classSet_bare f x, unionOf_bare f xs]

end

lemma dot_bare (f : Flags) (s t : Span) : result? (dot f s) = result? (dot f t) := by
  unfold dot
  split <;> rfl

mutual

lemma expression_bare (x : Context) : ∀ s : Syntax, result? (expression x s.bare) = result? (expression x s)
  | .empty _ => rfl
  | .flags _ items => by
    simp only [Syntax.bare, expression, Flags.apply_bare]
  | .literal l => by
    simp only [Syntax.bare, expression, result?_map, literal_bare]
  | .dot s => by
    simp only [Syntax.bare, expression, result?_map, dot_bare _ ⟨0, 0⟩ s]
  | .assertion _ _ => rfl
  | .unicode u => by
    simp only [Syntax.bare, expression, result?_map, unicodeClass_bare]
  | .perl p => by
    simp only [Syntax.bare, expression, result?_map, perl_bare]
  | .bracketed s negated inner => by
    simp only [Syntax.bare, expression, result?_bind, classSet_bare, negate_bare _ ⟨0, 0⟩ s]
  | .repetition _ _ kind greedy body => by
    simp only [Syntax.bare, expression, result?_bind, expression_bare x body]
  | .group _ (.plain items) body => by
    simp only [Syntax.bare, GroupKind.bare, expression, result?_bind, Flags.apply_bare, expression_bare _ body]
  | .group _ .numbered body => by
    simp only [Syntax.bare, GroupKind.bare, expression, result?_bind, expression_bare _ body]
  | .group _ (.named _ _) body => by
    simp only [Syntax.bare, GroupKind.bare, expression, result?_bind, expression_bare _ body]
  | .alternation _ branches => by
    simp only [Syntax.bare, expression, result?_bind, expressions_bare x branches]
  | .concat _ items => by
    simp only [Syntax.bare, expression, result?_bind, expressions_bare x items]

lemma expressions_bare (x : Context) : ∀ xs : List Syntax,
    result? (expressions x (Syntax.bareAll xs)) = result? (expressions x xs)
  | [] => rfl
  | s :: rest => by
    simp only [Syntax.bareAll, expressions, result?_bind, expression_bare x s, expressions_bare _ rest]

end

end Meaning

namespace Syntax

lemma meaning_bare (caseInsensitive : Bool) (s : Syntax) :
    result? (s.bare.meaning caseInsensitive) = result? (s.meaning caseInsensitive) := by
  simp only [meaning, result?_map, Meaning.expression_bare]

lemma meaning_of_bare_eq {caseInsensitive : Bool} {s t : Syntax} {r : Core} (h : s.bare = t.bare)
    (hs : s.meaning caseInsensitive = .ok r) : t.meaning caseInsensitive = .ok r := by
  rw [← result?_eq_some] at hs ⊢
  rw [← meaning_bare, ← h, meaning_bare, hs]

mutual

lemma captures_bare : ∀ s : Syntax, s.bare.captures = s.captures
  | .empty _ => rfl
  | .flags _ _ => rfl
  | .literal _ => rfl
  | .dot _ => rfl
  | .assertion _ _ => rfl
  | .unicode _ => rfl
  | .perl _ => rfl
  | .bracketed _ _ _ => rfl
  | .repetition _ _ _ _ body => captures_bare body
  | .group _ .numbered body => congrArg (none :: ·) (captures_bare body)
  | .group _ (.named _ name) body => congrArg (some name :: ·) (captures_bare body)
  | .group _ (.plain _) body => captures_bare body
  | .alternation _ branches => capturesOfAll_bare branches
  | .concat _ items => capturesOfAll_bare items

lemma capturesOfAll_bare : ∀ xs : List Syntax, capturesOfAll (bareAll xs) = capturesOfAll xs
  | [] => rfl
  | x :: xs => by rw [bareAll, capturesOfAll, capturesOfAll, captures_bare x, capturesOfAll_bare xs]

end

end Syntax

end TypedPattern.Regex
