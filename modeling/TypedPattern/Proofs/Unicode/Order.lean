import TypedPattern.Unicode.Folding
import TypedPattern.Proofs.Unicode.Union

/-! The ranges of sets stay in increasing order under union and under case folding. -/

namespace TypedPattern

namespace CharRange

/-- The ranges begin in increasing order. -/
def Increasing (rs : List CharRange) : Prop :=
  rs.Pairwise fun r s => r.lo ≤ s.lo

/-- Ranges in order, with a gap between neighbours. -/
structure Separate (rs : List CharRange) : Prop where
  valid : ∀ r ∈ rs, r.lo ≤ r.hi
  apart : rs.Pairwise fun r s => r.hi + 1 < s.lo

variable {r : CharRange} {rs ss : List CharRange}

lemma Separate.increasing (h : Separate rs) : Increasing rs := by
  refine h.apart.imp_of_mem fun {r s} hr _ hrs => ?_
  have := h.valid r hr
  omega

lemma Separate.length_le {bound : Nat} (h : Separate rs) (hb : ∀ r ∈ rs, r.hi ≤ bound) : rs.length ≤ bound + 1 := by
  have hnodup : (rs.map CharRange.lo).Nodup := by
    refine List.pairwise_map.mpr (h.apart.imp_of_mem fun {r s} hr _ hrs => ?_)
    have := h.valid r hr
    omega
  have hsubset : rs.map CharRange.lo ⊆ List.range (bound + 1) := by
    intro n hn
    obtain ⟨r, hr, rfl⟩ := List.mem_map.mp hn
    have := h.valid r hr
    have := hb r hr
    rw [List.mem_range]
    omega
  simpa using (hnodup.subperm hsubset).length_le

/-- What holds of ranges, and of two of them joined, holds of what comes out. -/
lemma forall_insert {P : CharRange → Prop} (hjoin : ∀ r s, P r → P s → P ⟨min r.lo s.lo, max r.hi s.hi⟩) (hr : P r)
    (h : ∀ s ∈ rs, P s) : ∀ t ∈ insert r rs, P t := by
  induction rs generalizing r with
  | nil => exact List.forall_mem_singleton.mpr hr
  | cons s rest ih =>
    obtain ⟨hs, hrest⟩ := List.forall_mem_cons.mp h
    rw [insert]
    split_ifs
    · exact List.forall_mem_cons.mpr ⟨hr, h⟩
    · exact List.forall_mem_cons.mpr ⟨hs, ih hr hrest⟩
    · exact ih (hjoin r s hr hs) hrest

lemma Separate.insert (h : Separate rs) (hr : r.lo ≤ r.hi) : Separate (insert r rs) := by
  induction rs generalizing r with
  | nil => exact ⟨List.forall_mem_singleton.mpr hr, List.pairwise_singleton _ _⟩
  | cons s rest ih =>
    obtain ⟨hs, hvalid⟩ := List.forall_mem_cons.mp h.valid
    obtain ⟨hnext, hapart⟩ := List.pairwise_cons.mp h.apart
    rw [CharRange.insert]
    split_ifs with h1 h2
    · refine ⟨List.forall_mem_cons.mpr ⟨hr, h.valid⟩, .cons (List.forall_mem_cons.mpr ⟨h1, fun t ht => ?_⟩) h.apart⟩
      have := hnext t ht
      omega
    · have hinserted := ih ⟨hvalid, hapart⟩ hr
      have hbehind : ∀ t ∈ CharRange.insert r rest, s.hi + 1 < t.lo :=
        forall_insert (fun _ _ => lt_min) h2 hnext
      exact ⟨List.forall_mem_cons.mpr ⟨hs, hinserted.valid⟩, .cons hbehind hinserted.apart⟩
    · exact ih ⟨hvalid, hapart⟩ ((min_le_left _ _).trans (hr.trans (le_max_left _ _)))

lemma Increasing.go (h : Increasing (r :: rs)) :
    Increasing (coalesce.go r rs) ∧ ∀ t ∈ coalesce.go r rs, r.lo ≤ t.lo := by
  induction rs generalizing r with
  | nil => exact ⟨List.pairwise_singleton _ _, List.forall_mem_singleton.mpr (Nat.le_refl _)⟩
  | cons s rest ih =>
    obtain ⟨hr, hrest⟩ := List.pairwise_cons.mp h
    obtain ⟨hrs, hr⟩ := List.forall_mem_cons.mp hr
    obtain ⟨hs, hapart⟩ := List.pairwise_cons.mp hrest
    rw [coalesce.go]
    split
    · have hmin : min r.lo s.lo = r.lo := min_eq_left hrs
      rw [hmin]
      exact ih (.cons hr hapart)
    · obtain ⟨hincreasing, hlo⟩ := ih hrest
      have hall : ∀ t ∈ coalesce.go s rest, r.lo ≤ t.lo := fun t ht => hrs.trans (hlo t ht)
      exact ⟨.cons hall hincreasing, List.forall_mem_cons.mpr ⟨Nat.le_refl _, hall⟩⟩

lemma Increasing.coalesce (h : Increasing rs) : Increasing (coalesce rs) := by
  cases rs with
  | nil => exact h
  | cons r rest => exact h.go.1

lemma length_go (r : CharRange) (rs : List CharRange) : (coalesce.go r rs).length ≤ rs.length + 1 := by
  induction rs generalizing r with
  | nil => exact Nat.le_refl _
  | cons s rest ih =>
    rw [coalesce.go]
    split
    · exact (ih _).trans (Nat.le_succ _)
    · exact Nat.succ_le_succ (ih s)

lemma length_coalesce (rs : List CharRange) : (coalesce rs).length ≤ rs.length := by
  cases rs with
  | nil => exact Nat.le_refl _
  | cons r rest => exact length_go r rest

lemma mem_merge {fuel : Nat} {x : CharRange} (h : x ∈ merge fuel rs ss) : x ∈ rs ∨ x ∈ ss := by
  induction fuel generalizing rs ss with
  | zero => exact List.mem_append.mp h
  | succ k ih =>
    match rs, ss with
    | [], ss => exact Or.inr h
    | r :: rs, [] => exact Or.inl h
    | r :: rs, s :: ss =>
      rw [merge] at h
      split at h
      · rcases List.mem_cons.mp h with rfl | h
        · exact Or.inl List.mem_cons_self
        · exact (ih h).imp_left (List.mem_cons_of_mem r)
      · rcases List.mem_cons.mp h with rfl | h
        · exact Or.inr List.mem_cons_self
        · exact (ih h).imp_right (List.mem_cons_of_mem s)

lemma length_merge (fuel : Nat) (rs ss : List CharRange) : (merge fuel rs ss).length = rs.length + ss.length := by
  induction fuel generalizing rs ss with
  | zero => exact List.length_append
  | succ k ih =>
    match rs, ss with
    | [], ss => simp [merge]
    | r :: rs, [] => simp [merge]
    | r :: rs, s :: ss =>
      rw [merge]
      split
      · rw [List.length_cons, ih, List.length_cons, List.length_cons]
        omega
      · rw [List.length_cons, ih, List.length_cons, List.length_cons]
        omega

/-- The fuel lasts for as many ranges as there are. -/
lemma Increasing.merge {fuel : Nat} (hr : Increasing rs) (hs : Increasing ss) (hfuel : rs.length + ss.length ≤ fuel) :
    Increasing (merge fuel rs ss) := by
  induction fuel generalizing rs ss with
  | zero =>
    obtain rfl : rs = [] := List.length_eq_zero_iff.mp (by omega)
    exact hs
  | succ k ih =>
    match rs, ss with
    | [], ss => exact hs
    | r :: rs, [] => exact hr
    | r :: rs, s :: ss =>
      obtain ⟨hfirst, hr'⟩ := List.pairwise_cons.mp hr
      obtain ⟨hsecond, hs'⟩ := List.pairwise_cons.mp hs
      simp only [List.length_cons] at hfuel
      rw [CharRange.merge]
      split
      · rename_i hle
        refine .cons (fun t ht => ?_) (ih hr' hs (by simp only [List.length_cons]; omega))
        rcases mem_merge ht with ht | ht
        · exact hfirst t ht
        · rcases List.mem_cons.mp ht with rfl | ht
          · exact hle
          · exact hle.trans (hsecond t ht)
      · rename_i hlt
        have hle : s.lo ≤ r.lo := by omega
        refine .cons (fun t ht => ?_) (ih hr hs' (by simp only [List.length_cons]; omega))
        rcases mem_merge ht with ht | ht
        · rcases List.mem_cons.mp ht with rfl | ht
          · exact hle
          · exact hle.trans (hfirst t ht)
        · exact hsecond t ht

end CharRange

namespace CharSet

open CharRange (Increasing Separate)

variable {s t : CharSet}

lemma increasing_union (hs : Increasing s.ranges) (ht : Increasing t.ranges)
    (hlength : s.ranges.length + t.ranges.length ≤ 0x110000) :
    Increasing (s.union t).ranges ∧ (s.union t).ranges.length ≤ s.ranges.length + t.ranges.length := by
  refine ⟨(hs.merge ht hlength).coalesce, (CharRange.length_coalesce _).trans ?_⟩
  rw [CharRange.length_merge]

lemma separate_ofRanges {bound : Nat} {rs : List CharRange} (h : ∀ r ∈ rs, r.lo ≤ r.hi ∧ r.hi ≤ bound) :
    Separate (ofRanges rs).ranges ∧ ∀ r ∈ (ofRanges rs).ranges, r.hi ≤ bound := by
  induction rs with
  | nil => exact ⟨⟨List.forall_mem_nil _, .nil⟩, List.forall_mem_nil _⟩
  | cons r rest ih =>
    obtain ⟨hr, hrest⟩ := List.forall_mem_cons.mp h
    obtain ⟨hseparate, hbound⟩ := ih hrest
    exact ⟨hseparate.insert hr.1, CharRange.forall_insert (fun _ _ => max_le) hr.2 hbound⟩

end CharSet

namespace Unicode

open CharRange (Increasing Separate)

variable {lo hi step : Nat} {e r : CharRange} {f : FoldingRun} {s : CharSet}

lemma mem_stride (h : e ∈ stride lo hi step) (hle : lo ≤ hi) : e.lo ≤ e.hi ∧ e.hi ≤ hi := by
  unfold stride at h
  split at h
  · obtain rfl := List.mem_singleton.mp h
    exact ⟨hle, Nat.le_refl _⟩
  · obtain ⟨i, hi', rfl⟩ := List.mem_map.mp h
    have hi' := List.mem_range.mp hi'
    have hmul := Nat.div_mul_le_self (hi - lo) step
    have hstep : i * step ≤ (hi - lo) / step * step := Nat.mul_le_mul_right step (by omega)
    exact ⟨Nat.le_refl _, by dsimp only; omega⟩

lemma mem_image (h : e ∈ f.image r) : e.lo ≤ e.hi ∧ e.hi ≤ (f.last + f.shift).toNat := by
  unfold FoldingRun.image at h
  split at h
  · cases h
  · rename_i lo hi hinter
    have hhi : hi ≤ f.last := by
      unfold CharRange.inter at hinter
      obtain ⟨-, he⟩ := Option.ite_none_right_eq_some.mp hinter
      cases he
      exact Nat.min_le_right _ _
    dsimp only at h
    split at h
    · rename_i hstart
      obtain ⟨d, hd, rfl⟩ := List.mem_map.mp h
      obtain ⟨h1, h2⟩ := mem_stride hd hstart
      simp only [FoldingRun.move]
      omega
    · cases h

lemma folding_bounds : ((FoldingRun.all ++ FoldingRun.all.map FoldingRun.inverse).all fun f =>
    decide ((f.last + f.shift).toNat ≤ 0x1FFFF)) = true := by
  decide +kernel

lemma increasing_imageOf {runs : List FoldingRun}
    (h : runs ⊆ FoldingRun.all ++ FoldingRun.all.map FoldingRun.inverse) (s : CharSet) :
    Increasing (imageOf runs s).ranges ∧ (imageOf runs s).ranges.length ≤ 0x20000 := by
  have hall : ∀ e ∈ runs.flatMap fun f => s.ranges.flatMap f.image, e.lo ≤ e.hi ∧ e.hi ≤ 0x1FFFF := by
    intro e he
    obtain ⟨f, hf, he⟩ := List.mem_flatMap.mp he
    obtain ⟨r, -, he⟩ := List.mem_flatMap.mp he
    obtain ⟨hle, hhi⟩ := mem_image he
    exact ⟨hle, hhi.trans (of_decide_eq_true (List.all_eq_true.mp folding_bounds f (h hf)))⟩
  obtain ⟨hseparate, hbound⟩ := CharSet.separate_ofRanges hall
  exact ⟨hseparate.increasing, hseparate.length_le hbound⟩

lemma increasing_closeUnderFolding (hs : Increasing s.ranges) (hlength : s.ranges.length ≤ 0xC0000) :
    Increasing (closeUnderFolding s).ranges := by
  obtain ⟨h1, hlength1⟩ := increasing_imageOf (List.subset_append_left _ _) s
  obtain ⟨hfolded, hlength'⟩ := CharSet.increasing_union hs h1 (by omega)
  obtain ⟨h2, hlength2⟩ := increasing_imageOf (List.subset_append_right FoldingRun.all _) (s.union (imageOf FoldingRun.all s))
  exact (CharSet.increasing_union hfolded h2 (by omega)).1

lemma contains_closeUnderFolding {c : Char} (h : s.contains c = true) : (closeUnderFolding s).contains c = true := by
  rw [closeUnderFolding, CharSet.contains_union, CharSet.contains_union, h, Bool.true_or, Bool.true_or]

end Unicode

end TypedPattern
