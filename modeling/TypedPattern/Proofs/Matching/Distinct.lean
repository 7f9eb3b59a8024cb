import TypedPattern.Proofs.Matching.Run

/-! Points in order of preference, of which only the first one at each position counts. -/

namespace TypedPattern.Regex

variable {ps qs rs : List Point} {p : Point}

lemma distinct_go_or (m n : Nat) (ps : List Point) :
    distinct.go (m ||| n) ps = (distinct.go m ps).filter fun p => !n.testBit p.pos := by
  induction ps generalizing m with
  | nil => rfl
  | cons p ps ih =>
    rw [distinct.go, distinct.go, Nat.testBit_or]
    by_cases hm : m.testBit p.pos = true
    · simp only [hm, Bool.true_or, if_true, ih]
    · rw [Bool.not_eq_true] at hm
      simp only [hm, Bool.false_or, Bool.false_eq_true, if_false, List.filter_cons]
      by_cases hn : n.testBit p.pos = true
      · have hsub : m ||| n = (m ||| 1 <<< p.pos) ||| n := by
          refine Nat.eq_of_testBit_eq fun i => ?_
          rw [Nat.testBit_or, Nat.testBit_or, testBit_or_shift]
          by_cases hi : p.pos = i
          · subst hi
            simp [hn]
          · simp [hi]
        simp only [hn, if_true, Bool.not_true, Bool.false_eq_true, if_false]
        rw [hsub, ih]
      · rw [Bool.not_eq_true] at hn
        simp only [hn, Bool.false_eq_true, if_false, Bool.not_false, if_true]
        rw [← ih, Nat.or_assoc, Nat.or_assoc, Nat.or_comm n]

lemma distinct_cons (p : Point) (ps : List Point) :
    distinct (p :: ps) = p :: (distinct ps).filter fun q => decide (p.pos ≠ q.pos) := by
  have hgo := distinct_go_or 0 (1 <<< p.pos) ps
  rw [distinct, distinct.go, Nat.zero_testBit, if_neg Bool.false_ne_true, hgo]
  congr 1
  refine List.filter_congr fun q _ => ?_
  rw [Nat.one_shiftLeft, Nat.testBit_two_pow, decide_not]

lemma distinct_filter {f : Point → Bool} (hf : ∀ p q : Point, p.pos = q.pos → f p = f q) (ps : List Point) :
    distinct (ps.filter f) = (distinct ps).filter f := by
  induction ps with
  | nil => rfl
  | cons p ps ih =>
    rw [distinct_cons]
    by_cases hp : f p = true
    · rw [List.filter_cons_of_pos hp, List.filter_cons_of_pos hp, distinct_cons, ih, List.filter_comm]
    · rw [List.filter_cons_of_neg hp, List.filter_cons_of_neg hp, ih, List.filter_filter]
      refine List.filter_congr fun q _ => ?_
      by_cases hq : p.pos = q.pos
      · simp [← hf p q hq, hp]
      · simp [hq]

/-- The same points in the same order, but for those at positions that have been before. -/
def Agree (ps qs : List Point) : Prop :=
  distinct ps = distinct qs

lemma agree_distinct (ps : List Point) : Agree (distinct ps) ps := by
  induction ps with
  | nil => exact Eq.refl _
  | cons p ps ih =>
    have hpos : ∀ q r : Point, q.pos = r.pos → decide (p.pos ≠ q.pos) = decide (p.pos ≠ r.pos) := fun q r h => by rw [h]
    rw [Agree, distinct_cons, distinct_cons, distinct_filter hpos, ih, List.filter_filter]
    simp only [Bool.and_self]

lemma distinct_append (ps qs : List Point) :
    distinct (ps ++ qs) = distinct ps ++ (distinct qs).filter fun q => ps.all fun p => decide (p.pos ≠ q.pos) := by
  induction ps with
  | nil => exact (List.filter_eq_self.mpr fun _ _ => rfl).symm
  | cons p ps ih =>
    rw [List.cons_append, distinct_cons, ih, distinct_cons, List.filter_append, List.filter_filter, List.cons_append]
    simp only [List.all_cons]

lemma all_distinct (ps : List Point) (n : Nat) :
    ((distinct ps).all fun p => decide (p.pos ≠ n)) = ps.all fun p => decide (p.pos ≠ n) := by
  rw [Bool.eq_iff_iff, List.all_eq_true, List.all_eq_true]
  simp only [decide_eq_true_eq]
  constructor
  · intro h p hp
    obtain ⟨q, hq, hpos⟩ := exists_mem_distinct hp
    exact hpos ▸ h q hq
  · exact fun h p hp => h p (mem_of_mem_distinct hp)

namespace Agree

lemma refl (ps : List Point) : Agree ps ps :=
  Eq.refl _

lemma symm (h : Agree ps qs) : Agree qs ps :=
  Eq.symm h

lemma trans (h : Agree ps qs) (h' : Agree qs rs) : Agree ps rs :=
  Eq.trans h h'

lemma append {ps' qs' : List Point} (h : Agree ps ps') (h' : Agree qs qs') : Agree (ps ++ qs) (ps' ++ qs') := by
  rw [Agree, distinct_append, distinct_append, h, h']
  congr 1
  refine List.filter_congr fun q _ => ?_
  rw [← all_distinct ps, ← all_distinct ps', h]

lemma flatMap {α : Type} {f g : α → List Point} {xs : List α} (h : ∀ x ∈ xs, Agree (f x) (g x)) :
    Agree (xs.flatMap f) (xs.flatMap g) := by
  induction xs with
  | nil => exact .refl _
  | cons x xs ih =>
    exact (h x List.mem_cons_self).append (ih fun y hy => h y (List.mem_cons_of_mem x hy))

lemma map {f : Point → Point} (hf : ∀ p, (f p).pos = p.pos) (h : Agree ps qs) : Agree (ps.map f) (qs.map f) := by
  rw [Agree, distinct_map hf, distinct_map hf, h]

/-- Points at positions that have been before are of no account. -/
lemma absorb (h : ∀ q ∈ qs, ∃ p ∈ ps, p.pos = q.pos) : Agree (ps ++ qs) ps := by
  rw [Agree, distinct_append, List.filter_eq_nil_iff.mpr, List.append_nil]
  intro q hq hall
  obtain ⟨p, hp, hpos⟩ := h q (mem_of_mem_distinct hq)
  exact of_decide_eq_true (List.all_eq_true.mp hall p hp) hpos

lemma skip {f : Point → List Point} {keep : Point → Bool}
    (h : ∀ q ∈ qs, keep q = false → ∀ x ∈ f q, ∃ p ∈ ps, p.pos = x.pos) :
    Agree (ps ++ qs.flatMap f) (ps ++ (qs.filter keep).flatMap f) := by
  induction qs generalizing ps with
  | nil => exact .refl _
  | cons q qs ih =>
    by_cases hq : keep q = true
    · rw [List.filter_cons_of_pos hq, List.flatMap_cons, List.flatMap_cons, ← List.append_assoc, ← List.append_assoc]
      refine ih fun r hr hkeep x hx => ?_
      obtain ⟨p, hp, hpos⟩ := h r (List.mem_cons_of_mem q hr) hkeep x hx
      exact ⟨p, List.mem_append_left _ hp, hpos⟩
    · rw [List.filter_cons_of_neg hq, List.flatMap_cons, ← List.append_assoc]
      have hold := absorb (h q List.mem_cons_self (Bool.eq_false_iff.mpr hq))
      exact (hold.append (.refl _)).trans (ih fun r hr => h r (List.mem_cons_of_mem q hr))

lemma flatMap_distinct {f : Point → List Point}
    (hf : ∀ p ∈ ps, ∀ q ∈ ps, p.pos = q.pos → ∀ x ∈ f p, ∃ y ∈ f q, y.pos = x.pos) :
    Agree (ps.flatMap f) ((distinct ps).flatMap f) := by
  induction ps with
  | nil => exact .refl _
  | cons p ps ih =>
    have hrest := ih fun q hq r hr => hf q (List.mem_cons_of_mem p hq) r (List.mem_cons_of_mem p hr)
    rw [List.flatMap_cons, distinct_cons, List.flatMap_cons]
    refine (append (.refl (f p)) hrest).trans (skip fun q hq hpos => ?_)
    have hpq : p.pos = q.pos := by simpa using hpos
    exact hf q (List.mem_cons_of_mem p (mem_of_mem_distinct hq)) p List.mem_cons_self hpq.symm

/-- From points that agree the same points are reached, if those reached from a point depend on its position alone. -/
lemma bind {f : Point → List Point} (h : Agree ps qs)
    (hps : ∀ p ∈ ps, ∀ q ∈ ps, p.pos = q.pos → ∀ x ∈ f p, ∃ y ∈ f q, y.pos = x.pos)
    (hqs : ∀ p ∈ qs, ∀ q ∈ qs, p.pos = q.pos → ∀ x ∈ f p, ∃ y ∈ f q, y.pos = x.pos) :
    Agree (ps.flatMap f) (qs.flatMap f) := by
  have hdistinct : distinct ps = distinct qs := h
  refine (flatMap_distinct hps).trans ?_
  rw [hdistinct]
  exact (flatMap_distinct hqs).symm

end Agree

/-- Whether something is found at a point depends on its position alone. -/
def Local {α : Type} (g : Point → Option α) (ps : List Point) : Prop :=
  ∀ p ∈ ps, ∀ q ∈ ps, p.pos = q.pos → g p = none → g q = none

lemma findSome?_filter {α : Type} {g : Point → Option α} {f : Point → Bool} (h : ∀ q ∈ qs, f q = false → g q = none) :
    (qs.filter f).findSome? g = qs.findSome? g := by
  induction qs with
  | nil => rfl
  | cons q qs ih =>
    have hih := ih fun r hr => h r (List.mem_cons_of_mem q hr)
    by_cases hq : f q = true
    · rw [List.filter_cons_of_pos hq, List.findSome?_cons, List.findSome?_cons, hih]
    · rw [List.filter_cons_of_neg hq, List.findSome?_cons, h q List.mem_cons_self (by simpa using hq), hih]

lemma findSome?_distinct {α : Type} {g : Point → Option α} (h : Local g ps) :
    (distinct ps).findSome? g = ps.findSome? g := by
  induction ps with
  | nil => rfl
  | cons p ps ih =>
    have hih := ih fun q hq r hr => h q (List.mem_cons_of_mem p hq) r (List.mem_cons_of_mem p hr)
    rw [distinct_cons, List.findSome?_cons, List.findSome?_cons]
    cases hp : g p with
    | some a => rfl
    | none =>
      rw [← hih]
      refine findSome?_filter fun q hq hpos => ?_
      have hpq : p.pos = q.pos := by simpa using hpos
      exact h p List.mem_cons_self q (List.mem_cons_of_mem p (mem_of_mem_distinct hq)) hpq hp

/-- Of points that agree the same one is the first where something is found. -/
theorem Agree.findSome? {α : Type} {g : Point → Option α} (h : Agree ps qs) (hp : Local g ps) (hq : Local g qs) :
    ps.findSome? g = qs.findSome? g := by
  rw [← findSome?_distinct hp, h, findSome?_distinct hq]

end TypedPattern.Regex
