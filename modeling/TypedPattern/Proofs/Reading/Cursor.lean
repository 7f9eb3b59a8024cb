import TypedPattern.Regex.Reader.Cursor
import Mathlib.Tactic

/-! Where a cursor stands after a step. -/

namespace TypedPattern.Regex

namespace Cursor

lemma length_passBlanks (comment : Bool) (pos : Nat) (cs : List Char) :
    (passBlanks comment pos cs).2.length ≤ cs.length := by
  induction cs generalizing comment pos with
  | nil => cases comment <;> simp [passBlanks]
  | cons c cs ih =>
    cases comment with
    | true => exact (ih _ _).trans (Nat.le_succ _)
    | false =>
      rw [passBlanks]
      split
      · exact (ih _ _).trans (Nat.le_succ _)
      · split
        · exact (ih _ _).trans (Nat.le_succ _)
        · exact Nat.le_refl _

lemma length_skip (c : Cursor) : c.skip.rest.length ≤ c.rest.length := by
  unfold skip
  split
  · exact length_passBlanks _ _ _
  · exact Nat.le_refl _

lemma length_bumpSkip (c : Cursor) : c.bumpSkip.rest.length ≤ c.rest.length - 1 := by
  refine (length_skip _).trans ?_
  unfold bump
  split <;> simp_all

@[simp] lemma verbose_skip (c : Cursor) : c.skip.verbose = c.verbose := by
  unfold skip
  split <;> rfl

@[simp] lemma verbose_bump (c : Cursor) : c.bump.verbose = c.verbose := by
  unfold bump
  split <;> rfl

@[simp] lemma verbose_bumpSkip (c : Cursor) : c.bumpSkip.verbose = c.verbose := by
  rw [bumpSkip, verbose_skip, verbose_bump]

lemma rest_bump (c : Cursor) : c.bump.rest = c.rest.tail := by
  unfold bump
  split <;> simp_all

lemma rest_ne_nil_of_atEnd {c : Cursor} (h : ¬c.atEnd = true) : c.rest ≠ [] := by
  simpa [atEnd] using h

lemma rest_ne_nil_of_at? {c : Cursor} {x : Char} (h : c.at? x = true) : c.rest ≠ [] := by
  intro hn
  rw [at?, hn] at h
  cases h

end Cursor

/-- A place that is reached from another one. -/
structure Follows (c d : Cursor) : Prop where
  verbose : d.verbose = c.verbose
  rest : d.rest <:+ c.rest

namespace Follows

variable {c d e : Cursor}

lemma refl (c : Cursor) : Follows c c :=
  ⟨rfl, List.suffix_refl _⟩

lemma trans (h : Follows c d) (h' : Follows d e) : Follows c e :=
  ⟨h'.verbose.trans h.verbose, h'.rest.trans h.rest⟩

lemma passBlanks (comment : Bool) (pos : Nat) (cs : List Char) : (Cursor.passBlanks comment pos cs).2 <:+ cs := by
  induction cs generalizing comment pos with
  | nil => cases comment <;> exact List.suffix_refl _
  | cons c cs ih =>
    cases comment with
    | true => exact (ih _ _).trans (List.suffix_cons _ _)
    | false =>
      rw [Cursor.passBlanks]
      split
      · exact (ih _ _).trans (List.suffix_cons _ _)
      · split
        · exact (ih _ _).trans (List.suffix_cons _ _)
        · exact List.suffix_refl _

lemma skip (c : Cursor) : Follows c c.skip := by
  refine ⟨c.verbose_skip, ?_⟩
  unfold Cursor.skip
  split
  · exact passBlanks _ _ _
  · exact List.suffix_refl _

lemma bump (c : Cursor) : Follows c c.bump :=
  ⟨c.verbose_bump, by rw [Cursor.rest_bump]; exact List.tail_suffix _⟩

lemma bumpSkip (c : Cursor) : Follows c c.bumpSkip :=
  (bump c).trans (skip c.bump)

end Follows

end TypedPattern.Regex
