import TypedPattern.Proofs.Reading.Cursor

/-! Places in a text and in the same text with the end of `(?:…)$` behind it. -/

namespace TypedPattern.Regex

/-- If the first computation succeeds, so does the second one, with a result that fits. -/
def Sim {ε α β : Type} (P : α → β → Prop) (x : Except ε α) (y : Except ε β) : Prop :=
  ∀ a, x = .ok a → ∃ b, y = .ok b ∧ P a b

namespace Sim

variable {ε α β γ δ : Type} {P : α → β → Prop} {Q : γ → δ → Prop} {x : Except ε α} {y : Except ε β}

lemma ok {a : α} {b : β} (h : P a b) : Sim P (Except.ok a : Except ε α) (Except.ok b : Except ε β) := by
  intro c hc
  cases hc
  exact ⟨b, rfl, h⟩

lemma error (e : ε) : Sim P (.error e) y := by
  rintro a h
  cases h

lemma bind {f : α → Except ε γ} {g : β → Except ε δ} (h : Sim P x y) (hf : ∀ a b, P a b → Sim Q (f a) (g b)) :
    Sim Q (x >>= f) (y >>= g) := by
  intro c hc
  cases x with
  | error e => cases hc
  | ok a =>
    obtain ⟨b, rfl, hp⟩ := h a rfl
    exact hf a b hp c hc

lemma map {f : α → γ} {g : β → δ} (h : Sim P x y) (hf : ∀ a b, P a b → Q (f a) (g b)) :
    Sim Q (x.map f) (y.map g) := by
  intro c hc
  cases x with
  | error e => cases hc
  | ok a =>
    cases hc
    obtain ⟨b, rfl, hp⟩ := h a rfl
    exact ⟨g b, rfl, hf a b hp⟩

lemma guard {p q : Prop} [Decidable p] [Decidable q] {e e' : ε} (hq : ¬p → ¬q) (h : ¬p → Sim P x y) :
    Sim P (if p then .error e else x) (if q then .error e' else y) := by
  by_cases hp : p
  · rw [if_pos hp]
    exact error e
  · rw [if_neg hp, if_neg (hq hp)]
    exact h hp

lemma ite {p q : Prop} [Decidable p] [Decidable q] {x' : Except ε α} {y' : Except ε β} (hq : p ↔ q)
    (h : p → Sim P x y) (h' : ¬p → Sim P x' y') : Sim P (if p then x else x') (if q then y else y') := by
  by_cases hp : p
  · rw [if_pos hp, if_pos (hq.mp hp)]
    exact h hp
  · rw [if_neg hp, if_neg (hq.not.mp hp)]
    exact h' hp

end Sim

/-- What stands behind an expression that is enclosed up to the end of the text. -/
def closing : List Char :=
  [')', '$']

/-- The second place has the closing behind it, unless a comment at the end of the text has taken it in. -/
structure Longer (c d : Cursor) : Prop where
  verbose : d.verbose = c.verbose
  rest : d.rest = c.rest ++ closing ∨ (c.rest = [] ∧ d.rest = [])

/-- Results that are alike, at places one of which has the closing behind it. -/
def Alike {α β : Type} (same : α → β → Prop) (a : α × Cursor) (b : β × Cursor) : Prop :=
  same a.1 b.1 ∧ Longer a.2 b.2

lemma isPrefixOf_closing {text : List Char} (ht : ')' ∉ text) (cs : List Char) :
    text.isPrefixOf (cs ++ closing) = text.isPrefixOf cs := by
  induction text generalizing cs with
  | nil => rfl
  | cons t ts ih =>
    rw [List.mem_cons, not_or] at ht
    cases cs with
    | nil =>
      have hne : t ≠ ')' := fun h => ht.1 h.symm
      simp [closing, List.isPrefixOf, hne]
    | cons c cs => simp only [List.cons_append, List.isPrefixOf, ih ht.2]

namespace Cursor

lemma passBlanks_closing (comment : Bool) (pos pos' : Nat) (cs : List Char) :
    (passBlanks comment pos' (cs ++ closing)).2 = (passBlanks comment pos cs).2 ++ closing ∨
      ((passBlanks comment pos cs).2 = [] ∧ (passBlanks comment pos' (cs ++ closing)).2 = []) := by
  induction cs generalizing comment pos pos' with
  | nil =>
    cases comment with
    | true => exact Or.inr ⟨rfl, rfl⟩
    | false => exact Or.inl rfl
  | cons c cs ih =>
    cases comment with
    | true => exact ih _ _ _
    | false =>
      rw [List.cons_append, passBlanks, passBlanks]
      by_cases hw : isWhite c = true
      · rw [if_pos hw, if_pos hw]
        exact ih _ _ _
      · rw [if_neg hw, if_neg hw]
        by_cases hh : c = '#'
        · rw [if_pos hh, if_pos hh]
          exact ih _ _ _
        · rw [if_neg hh, if_neg hh]
          exact Or.inl rfl

end Cursor

namespace Longer

variable {c d : Cursor}

lemma cases (h : Longer c d) : c.rest = [] ∨ ∃ x r, c.rest = x :: r ∧ d.rest = x :: (r ++ closing) := by
  cases hc : c.rest with
  | nil => exact Or.inl rfl
  | cons x r =>
    refine Or.inr ⟨x, r, rfl, ?_⟩
    rcases h.rest with h | ⟨h, -⟩
    · rw [h, hc, List.cons_append]
    · rw [hc] at h
      cases h

lemma rest_eq (h : Longer c d) (hc : c.rest ≠ []) : d.rest = c.rest ++ closing :=
  h.rest.resolve_right fun hn => hc hn.1

lemma rest_ne_nil (h : Longer c d) (hc : c.rest ≠ []) : d.rest ≠ [] := by
  rw [h.rest_eq hc]
  exact fun hn => hc (List.append_eq_nil_iff.mp hn).1

lemma atEnd (h : Longer c d) (hc : ¬c.atEnd = true) : ¬d.atEnd = true := by
  have := h.rest_ne_nil (Cursor.rest_ne_nil_of_atEnd hc)
  simpa [Cursor.atEnd] using this

lemma at? (h : Longer c d) {x : Char} (hx : x ≠ ')') : d.at? x = c.at? x := by
  unfold Cursor.at?
  rcases h.rest with h | ⟨hc, hd⟩
  · rw [h]
    cases c.rest with
    | nil => simpa [closing] using hx.symm
    | cons y r => rfl
  · rw [hc, hd]

lemma skip (h : Longer c d) : Longer c.skip d.skip := by
  refine ⟨by simp [h.verbose], ?_⟩
  unfold Cursor.skip
  rw [h.verbose]
  split
  · rcases h.rest with h | ⟨hc, hd⟩
    · simp only [h]
      exact Cursor.passBlanks_closing false c.pos d.pos c.rest
    · simp [hc, hd, Cursor.passBlanks]
  · exact h.rest

lemma bump (h : Longer c d) (hc : c.rest ≠ []) : Longer c.bump d.bump := by
  refine ⟨by simp [h.verbose], Or.inl ?_⟩
  rw [Cursor.rest_bump, Cursor.rest_bump, h.rest_eq hc, List.tail_append_of_ne_nil hc]

lemma bumpSkip (h : Longer c d) (hc : c.rest ≠ []) : Longer c.bumpSkip d.bumpSkip :=
  (h.bump hc).skip

/-- A text without a closing parenthesis comes next at both places or at none. -/
lemma after? (h : Longer c d) {text : List Char} (ht : ')' ∉ text) :
    (c.after? text = none ∧ d.after? text = none) ∨
      ∃ c' d', c.after? text = some c' ∧ d.after? text = some d' ∧ Longer c' d' ∧ c'.rest = c.rest.drop text.length := by
  unfold Cursor.after?
  have hiff : text.isPrefixOf d.rest = text.isPrefixOf c.rest := by
    rcases h.rest with h | ⟨hc, hd⟩
    · rw [h, isPrefixOf_closing ht]
    · rw [hc, hd]
  rw [hiff]
  by_cases hp : text.isPrefixOf c.rest = true
  · rw [if_pos hp, if_pos hp]
    refine Or.inr ⟨_, _, rfl, rfl, ⟨h.verbose, ?_⟩, rfl⟩
    rcases h.rest with h | ⟨hc, hd⟩
    · have hlen := (List.isPrefixOf_iff_prefix.mp hp).length_le
      exact Or.inl (by rw [h, List.drop_append_of_le_length hlen])
    · exact Or.inr ⟨by rw [hc, List.drop_nil], by rw [hd, List.drop_nil]⟩
  · rw [if_neg hp, if_neg hp]
    exact Or.inl ⟨rfl, rfl⟩

end Longer

end TypedPattern.Regex
