import TypedPattern.Unicode.Classes
import TypedPattern.Proofs.Unicode.Order

/-! What the complement of a set contains, and the sets of several categories. -/

namespace TypedPattern

namespace CharRange

variable {n : Nat} {rs : List CharRange}

lemma not_contains_of_gaps (h : Increasing rs) {next : Nat} (hn : (gaps next rs).any (·.contains n) = true) :
    next ≤ n ∧ rs.any (·.contains n) = false := by
  induction rs generalizing next with
  | nil =>
    rw [gaps] at hn
    split at hn
    · simp only [List.any_cons, contains, List.any_nil, Bool.or_false, Bool.and_eq_true, decide_eq_true_eq] at hn
      exact ⟨hn.1, rfl⟩
    · cases hn
  | cons r rest ih =>
    obtain ⟨hr, hrest⟩ := List.pairwise_cons.mp h
    rw [gaps, List.any_append, Bool.or_eq_true] at hn
    rcases hn with hn | hn
    · split at hn
      · simp only [List.any_cons, contains, List.any_nil, Bool.or_false, Bool.and_eq_true, decide_eq_true_eq] at hn
        refine ⟨hn.1, List.any_eq_false.mpr fun s hs hc => ?_⟩
        simp only [contains, Bool.and_eq_true, decide_eq_true_eq] at hc
        rcases List.mem_cons.mp hs with rfl | hs
        · omega
        · have := hr s hs
          omega
      · cases hn
    · obtain ⟨hnext, hnone⟩ := ih hrest hn
      have hout : r.contains n = false := by
        simp only [contains, Bool.and_eq_false_iff, decide_eq_false_iff_not]
        omega
      exact ⟨by omega, by rw [List.any_cons, hout, hnone, Bool.or_self]⟩

lemma gaps_of_not_contains {next : Nat} (hnext : next ≤ n) (hn : n ≤ 0x10FFFF) (h : rs.any (·.contains n) = false) :
    (gaps next rs).any (·.contains n) = true := by
  induction rs generalizing next with
  | nil =>
    rw [gaps, if_pos (hnext.trans hn)]
    simp [contains, hnext, hn]
  | cons r rest ih =>
    rw [List.any_cons, Bool.or_eq_false_iff] at h
    obtain ⟨hr, hrest⟩ := h
    simp only [contains, Bool.and_eq_false_iff, decide_eq_false_iff_not] at hr
    rw [gaps, List.any_append, Bool.or_eq_true]
    by_cases hlo : n < r.lo
    · left
      rw [if_pos (hnext.trans_lt hlo)]
      simp only [List.any_cons, contains, List.any_nil, Bool.or_false, Bool.and_eq_true, decide_eq_true_eq]
      omega
    · exact Or.inr (ih (by omega) hrest)

lemma contains_of_clip {r s : CharRange} (h : r.clip = some s) (hn : s.contains n = true) : r.contains n = true := by
  unfold clip at h
  dsimp only at h
  obtain ⟨-, h⟩ := Option.ite_none_right_eq_some.mp h
  cases h
  simp only [contains, Bool.and_eq_true, decide_eq_true_eq] at hn ⊢
  split_ifs at hn <;> omega

lemma clip_of_contains {r : CharRange} (hv : n < 0xD800 ∨ 0xDFFF < n) (hn : r.contains n = true) :
    ∃ s, r.clip = some s ∧ s.contains n = true := by
  simp only [contains, Bool.and_eq_true, decide_eq_true_eq] at hn
  refine ⟨_, if_pos ?_, ?_⟩
  · split_ifs <;> omega
  · simp only [contains, Bool.and_eq_true, decide_eq_true_eq]
    split_ifs <;> omega

end CharRange

namespace CharSet

open CharRange (Increasing)

variable {s : CharSet} {c : Char}

lemma not_contains_of_complement (hs : Increasing s.ranges) (h : s.complement.contains c = true) : s.contains c = false := by
  obtain ⟨t, ht, hc⟩ := List.any_eq_true.mp h
  obtain ⟨r, hr, hclip⟩ := List.mem_filterMap.mp ht
  exact (CharRange.not_contains_of_gaps hs (List.any_eq_true.mpr ⟨r, hr, CharRange.contains_of_clip hclip hc⟩)).2

lemma complement_of_not_contains (h : s.contains c = false) : s.complement.contains c = true := by
  have hv : c.toNat < 0xD800 ∨ 0xDFFF < c.toNat ∧ c.toNat < 0x110000 := c.valid
  obtain ⟨r, hr, hc⟩ := List.any_eq_true.mp (CharRange.gaps_of_not_contains (Nat.zero_le c.toNat) (by omega) h)
  obtain ⟨t, ht, hc⟩ := CharRange.clip_of_contains (by omega) hc
  exact List.any_eq_true.mpr ⟨t, List.mem_filterMap.mpr ⟨r, hr, ht⟩, hc⟩

end CharSet

namespace Unicode

lemma contains_charsWhere {rows : List Nat} {p : Nat → Bool} {c : Char} : (charsWhere rows p).contains c = true ↔
    ∃ s ∈ stretches (entries 32 rows), p s.value = true ∧ s.range.contains c.toNat = true := by
  change (CharRange.coalesce _).any _ = true ↔ _
  rw [CharRange.any_coalesce, List.any_map, List.any_filter, List.any_eq_true]
  simp only [Function.comp_apply, Bool.and_eq_true]

lemma testBit_mask (cs : List Category) (mask n : Nat) :
    (cs.foldl (fun mask c => mask ||| 1 <<< c.number) mask).testBit n =
      (mask.testBit n || cs.any (·.number == n)) := by
  induction cs generalizing mask with
  | nil => simp
  | cons c cs ih =>
    have hbit : (1 <<< c.number).testBit n = (c.number == n) := by
      rw [Nat.shiftLeft_eq, Nat.one_mul, Nat.testBit_two_pow]
      exact Bool.eq_iff_iff.mpr (by simp)
    rw [List.foldl_cons, ih, Nat.testBit_or, hbit, List.any_cons, Bool.or_assoc]

lemma contains_inCategories_cons (a : Category) (cs : List Category) (c : Char) :
    (inCategories (a :: cs)).contains c = ((inCategories [a]).contains c || (inCategories cs).contains c) := by
  rw [Bool.eq_iff_iff, Bool.or_eq_true]
  simp only [inCategories, contains_charsWhere, testBit_mask, Nat.zero_testBit, Bool.false_or, List.any_cons,
    List.any_nil, Bool.or_false, Bool.or_eq_true]
  constructor
  · rintro ⟨s, hs, h | h, hc⟩
    · exact Or.inl ⟨s, hs, h, hc⟩
    · exact Or.inr ⟨s, hs, h, hc⟩
  · rintro (⟨s, hs, h, hc⟩ | ⟨s, hs, h, hc⟩)
    · exact ⟨s, hs, Or.inl h, hc⟩
    · exact ⟨s, hs, Or.inr h, hc⟩

end Unicode

end TypedPattern
