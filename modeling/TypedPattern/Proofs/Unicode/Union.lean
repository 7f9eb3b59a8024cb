import TypedPattern.CharSet
import Mathlib.Tactic

/-! What the union of sets of characters contains. -/

namespace TypedPattern

namespace CharRange

variable {n : Nat}

lemma any_merge (fuel : Nat) (rs ss : List CharRange) :
    (merge fuel rs ss).any (·.contains n) = (rs.any (·.contains n) || ss.any (·.contains n)) := by
  induction fuel generalizing rs ss with
  | zero => rw [merge, List.any_append]
  | succ k ih =>
    match rs, ss with
    | [], ss => simp [merge]
    | r :: rs, [] => simp [merge]
    | r :: rs, s :: ss =>
      rw [merge]
      split
      · rw [List.any_cons, ih, List.any_cons, List.any_cons, Bool.or_assoc]
      · rw [List.any_cons, ih, List.any_cons, List.any_cons, Bool.or_left_comm]

lemma contains_join {r s : CharRange} (h : r.lo ≤ s.hi + 1 ∧ s.lo ≤ r.hi + 1) :
    (⟨min r.lo s.lo, max r.hi s.hi⟩ : CharRange).contains n = (r.contains n || s.contains n) := by
  rw [Bool.eq_iff_iff]
  simp only [contains, Bool.and_eq_true, Bool.or_eq_true, decide_eq_true_eq]
  omega

lemma any_go (r : CharRange) (rs : List CharRange) :
    (coalesce.go r rs).any (·.contains n) = (r.contains n || rs.any (·.contains n)) := by
  induction rs generalizing r with
  | nil => rfl
  | cons s rest ih =>
    rw [coalesce.go]
    split
    · rename_i h
      rw [ih, contains_join h, List.any_cons, Bool.or_assoc]
    · rw [List.any_cons, ih, List.any_cons]

lemma any_coalesce (rs : List CharRange) : (coalesce rs).any (·.contains n) = rs.any (·.contains n) := by
  cases rs with
  | nil => rfl
  | cons r rest => rw [coalesce, any_go, List.any_cons]

end CharRange

namespace CharSet

@[simp] lemma contains_empty (c : Char) : empty.contains c = false :=
  rfl

@[simp] lemma contains_union (s t : CharSet) (c : Char) : (s.union t).contains c = (s.contains c || t.contains c) := by
  change (CharRange.coalesce (CharRange.merge _ s.ranges t.ranges)).any _ = _
  rw [CharRange.any_coalesce, CharRange.any_merge]
  rfl

@[simp] lemma contains_singleton (c d : Char) : (singleton c).contains d = true ↔ d = c := by
  simp only [singleton, range, contains, containsCode, CharRange.contains, List.any_cons, List.any_nil, Bool.or_false,
    Bool.and_eq_true, decide_eq_true_eq]
  constructor
  · rintro ⟨h1, h2⟩
    exact Char.ext (UInt32.toNat_inj.mp (Nat.le_antisymm h2 h1))
  · rintro rfl
    exact ⟨Nat.le_refl _, Nat.le_refl _⟩

lemma contains_of_only? {s : CharSet} {c : Char} (h : s.only? = some c) (d : Char) : s.contains d = true ↔ d = c := by
  unfold only? at h
  split at h
  · rename_i r hr
    obtain ⟨⟨hlo, hc⟩, h⟩ := Option.ite_none_right_eq_some.mp h
    cases h
    rw [← contains_singleton]
    have hr' : r = ⟨r.lo, r.lo⟩ := congrArg (CharRange.mk r.lo) hlo.symm
    simp only [contains, containsCode, hr, singleton, range, hc]
    rw [← hr']
  · cases h

lemma contains_foldl_union (sets : List CharSet) (s : CharSet) (c : Char) :
    (sets.foldl union s).contains c = true ↔ s.contains c = true ∨ ∃ t ∈ sets, t.contains c = true := by
  induction sets generalizing s with
  | nil => simp
  | cons t sets ih =>
    simp only [List.foldl_cons, ih, contains_union, Bool.or_eq_true, or_assoc, List.mem_cons, exists_eq_or_imp]

end CharSet

end TypedPattern
