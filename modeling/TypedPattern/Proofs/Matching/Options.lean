import TypedPattern.Proofs.Matching.Laps

/-! Copies of a part that must be there and copies that may be left out. -/

namespace TypedPattern.Regex

section Tours

variable (step : Nat → List Point → List Point) (choice : Nat → Path) (greedy : Bool)

lemma options_found (count level : Nat) (p : Point) (t : Tour) :
    options step choice greedy count level p t =
      ⟨(options step choice greedy count level p ⟨t.masks, []⟩).masks,
        (options step choice greedy count level p ⟨t.masks, []⟩).found ++ t.found⟩ := by
  induction count generalizing level p t with
  | zero => rfl
  | succ k ih =>
    have fold : ∀ (es : List Point) (t : Tour),
        es.foldl (fun t e => options step choice greedy k (level + 1) e t) t =
          ⟨(es.foldl (fun t e => options step choice greedy k (level + 1) e t) ⟨t.masks, []⟩).masks,
            (es.foldl (fun t e => options step choice greedy k (level + 1) e t) ⟨t.masks, []⟩).found ++ t.found⟩ := by
      intro es
      induction es with
      | nil => exact fun t => rfl
      | cons e es ihe =>
        intro t
        rw [List.foldl_cons, List.foldl_cons, ihe, ih (level + 1) e t,
          ihe (options step choice greedy k (level + 1) e ⟨t.masks, []⟩), List.append_assoc]
    rw [options, options]
    have hv : Tour.visited ⟨t.masks, []⟩ p.pos = t.visited p.pos := rfl
    rw [hv]
    split
    · rfl
    · cases greedy
      · simp only [Tour.below, Tour.visit, Tour.add, Bool.false_eq_true, if_false]
        rw [fold, fold (step level [p.mark (choice level)]) ⟨_, [p.mark (choice level)]⟩, List.append_assoc]
        rfl
      · simp only [Tour.below, Tour.visit, Tour.add, if_true]
        rw [fold]
        rfl

/-- The points that are marked, the first one at each position. -/
def firsts (choice : Path) : (mask : Nat) → List Point → List Point
  | _, [] => []
  | mask, p :: rest =>
    if mask.testBit p.pos || p.trail.contains choice then firsts choice mask rest
    else p.mark choice :: firsts choice (mask ||| 1 <<< p.pos) rest

lemma exists_of_mem_firsts {choice : Path} {mask : Nat} {ps : List Point} {q : Point}
    (h : q ∈ firsts choice mask ps) : ∃ p ∈ ps, choice ∉ p.trail ∧ q = p.mark choice := by
  induction ps generalizing mask with
  | nil => cases h
  | cons p rest ih =>
    rw [firsts] at h
    split at h
    · obtain ⟨p', hp', h⟩ := ih h
      exact ⟨p', List.mem_cons_of_mem p hp', h⟩
    · rename_i hc
      rcases List.mem_cons.mp h with rfl | h
      · rw [Bool.or_eq_true, List.contains_iff_mem, not_or] at hc
        exact ⟨p, List.mem_cons_self, hc.2, rfl⟩
      · obtain ⟨p', hp', h⟩ := ih h
        exact ⟨p', List.mem_cons_of_mem p hp', h⟩

lemma exists_mem_firsts {choice : Path} (mask : Nat) {ps : List Point} {p : Point} (h : p ∈ ps)
    (hc : choice ∉ p.trail) : mask.testBit p.pos = true ∨ ∃ q ∈ firsts choice mask ps, q.pos = p.pos := by
  induction ps generalizing mask with
  | nil => cases h
  | cons o rest ih =>
    rw [firsts]
    by_cases hcut : (mask.testBit o.pos || o.trail.contains choice) = true
    · rw [if_pos hcut]
      rcases List.mem_cons.mp h with rfl | h
      · rw [Bool.or_eq_true, List.contains_iff_mem] at hcut
        exact Or.inl (hcut.resolve_right hc)
      · exact ih mask h
    · rw [if_neg hcut]
      rcases List.mem_cons.mp h with rfl | h
      · exact Or.inr ⟨_, List.mem_cons_self, rfl⟩
      · rcases ih (mask ||| 1 <<< o.pos) h with hm | ⟨q, hq, hpos⟩
        · rw [testBit_or_shift, Bool.or_eq_true, decide_eq_true_eq] at hm
          rcases hm with hm | hm
          · exact Or.inl hm
          · exact Or.inr ⟨_, List.mem_cons_self, hm⟩
        · exact Or.inr ⟨q, List.mem_cons_of_mem _ hq, hpos⟩

def allOptions (count level : Nat) (t : Tour) (ps : List Point) : Tour :=
  ps.foldl (fun t p => options step choice greedy count level p t) t

lemma allOptions_found (count level : Nat) (t : Tour) (ps : List Point) :
    allOptions step choice greedy count level t ps =
      ⟨(allOptions step choice greedy count level ⟨t.masks, []⟩ ps).masks,
        (allOptions step choice greedy count level ⟨t.masks, []⟩ ps).found ++ t.found⟩ := by
  induction ps generalizing t with
  | nil => rfl
  | cons p ps ih =>
    simp only [allOptions, List.foldl_cons] at ih ⊢
    rw [ih, options_found step choice greedy count level p t, ih (options _ _ _ _ _ _ ⟨t.masks, []⟩),
      List.append_assoc]

lemma allOptions_zero (level : Nat) (t : Tour) (ps : List Point) :
    (allOptions step choice greedy 0 level t ps).found = ps.reverse ++ t.found := by
  induction ps generalizing t with
  | nil => rfl
  | cons p ps ih =>
    have hcons : allOptions step choice greedy 0 level t (p :: ps) =
        allOptions step choice greedy 0 level (t.add p) ps := rfl
    rw [hcons, ih, List.reverse_cons, List.append_assoc]
    rfl

lemma allOptions_append (count level : Nat) (t : Tour) (ps qs : List Point) :
    allOptions step choice greedy count level t (ps ++ qs) =
      allOptions step choice greedy count level (allOptions step choice greedy count level t ps) qs :=
  List.foldl_append

lemma allOptions_succ (k level : Nat) (t : Tour) (ps : List Point) :
    let below := allOptions step choice greedy k (level + 1) ⟨t.masks.tail, []⟩
      ((firsts (choice level) (t.masks.headD 0) ps).flatMap fun q => step level [q])
    (allOptions step choice greedy (k + 1) level t ps).masks.tail = below.masks ∧
      ∀ q, q ∈ (allOptions step choice greedy (k + 1) level t ps).found ↔
        q ∈ t.found ∨ q ∈ firsts (choice level) (t.masks.headD 0) ps ∨ q ∈ below.found := by
  induction ps generalizing t with
  | nil => simp [allOptions, firsts]
  | cons p ps ih =>
    have hcons : ∀ t, allOptions step choice greedy (k + 1) level t (p :: ps) =
        allOptions step choice greedy (k + 1) level (options step choice greedy (k + 1) level p t) ps := fun _ => rfl
    rw [hcons, firsts]
    have hv : t.visited p.pos = (t.masks.headD 0).testBit p.pos := rfl
    by_cases hcut : ((t.masks.headD 0).testBit p.pos || p.trail.contains (choice level)) = true
    · have hstay : options step choice greedy (k + 1) level p t = t := by rw [options, hv, if_pos hcut]
      rw [hstay, if_pos hcut]
      exact ih t
    · rw [if_neg hcut]
      -- the point enters, and the levels below are left as the tour from it alone leaves them
      set q := p.mark (choice level)
      set sub := allOptions step choice greedy k (level + 1) ⟨t.masks.tail, []⟩ (step level [q]) with hsub
      obtain ⟨found, hfound, hmem⟩ : ∃ found, options step choice greedy (k + 1) level p t =
          ⟨((t.masks.headD 0) ||| 1 <<< p.pos) :: sub.masks, found⟩ ∧
            ∀ r, r ∈ found ↔ r ∈ t.found ∨ r = q ∨ r ∈ sub.found := by
        rw [options, hv, if_neg hcut]
        cases greedy
        · refine ⟨_, by
            simp only [Tour.below, Tour.visit, Tour.add, Bool.false_eq_true, if_false]
            rw [← allOptions, allOptions_found]; rfl, fun r => ?_⟩
          simp only [List.tail_cons, List.mem_append, List.mem_cons]
          tauto
        · refine ⟨_, by
            simp only [Tour.below, Tour.visit, Tour.add, if_true]
            rw [← allOptions, allOptions_found]; rfl, fun r => ?_⟩
          simp only [List.tail_cons, List.mem_append, List.mem_cons]
          tauto
      have hrest := ih (options step choice greedy (k + 1) level p t)
      simp only [hfound, List.headD_cons, List.tail_cons] at hrest ⊢
      rw [List.flatMap_cons, allOptions_append, ← hsub, allOptions_found step choice greedy k (level + 1) sub]
      refine ⟨hrest.1, fun r => ?_⟩
      rw [hrest.2 r, hmem]
      simp only [List.mem_append, List.mem_cons]
      tauto

end Tours

/-- The choices of a part of an expression, which stands at a place below another one. -/
def Within (path : Path) (i : Nat) (c : Path) : Prop :=
  i :: path <:+ c

lemma Within.unique {path c : Path} {i j : Nat} (hi : Within path i c) (hj : Within path j c) : i = j := by
  have h := List.suffix_of_suffix_length_le hi hj (Nat.le_refl _)
  exact (List.cons.inj (h.eq_of_length rfl)).1

lemma Within.suffix {path c : Path} {i : Nat} (h : Within path i c) : path <:+ c :=
  (List.suffix_cons i path).trans h

lemma within_self (path : Path) (i : Nat) : Within path i (i :: path) :=
  List.suffix_refl _

section Covers

variable {text : List Char} {path : Path} {R : Spot → Spot → Prop} {step : Nat → List Point → List Point}
  (hstep : ∀ i, ∃ X, Covers text (Within path (2 * i)) R X (step i))

include hstep

lemma covers_copies (count level : Nat) :
    ∃ X, Covers text (fun c => ∃ i, 2 * level ≤ i ∧ i < 2 * (level + count) ∧ Within path i c) (Times R count) X
      (copies step count level) := by
  induction count generalizing level with
  | zero => exact ⟨Noway, Covers.stay fun _ _ _ h => h.elim⟩
  | succ k ih =>
    obtain ⟨X, hX⟩ := hstep level
    obtain ⟨Y, hY⟩ := ih (level + 1)
    refine ⟨_, ((hX.comp hY ?_).mono ?_)⟩
    · rintro c h ⟨i, hi, -, h'⟩
      have := h.unique h'
      omega
    · rintro c (h | ⟨i, hi, hi', h⟩)
      · exact ⟨2 * level, by omega, by omega, h⟩
      · exact ⟨i, by omega, by omega, h⟩

omit hstep in
lemma covers_no_options (greedy : Bool) (level : Nat) :
    Covers text (fun c => ∃ i, 2 * level ≤ i ∧ Within path i c) Eq Noway
      (fun ps => (allOptions step (fun i => (2 * i + 1) :: path) greedy 0 level .empty ps).found) := by
  have hfound : ∀ ps, (allOptions step (fun i => (2 * i + 1) :: path) greedy 0 level .empty ps).found = ps.reverse :=
    fun ps => (allOptions_zero ..).trans (List.append_nil _)
  refine (Covers.stay fun _ _ _ h => h.elim).represent (fun ps q hq => ?_) fun ps _ q hq => ?_
  · rw [hfound] at hq
    exact List.mem_reverse.mp hq
  · rw [hfound]
    exact ⟨q, List.mem_reverse.mpr hq, rfl⟩

lemma covers_options (greedy : Bool) (count level : Nat) :
    ∃ X, Covers text (fun c => ∃ i, 2 * level ≤ i ∧ Within path i c) (fun s t => ∃ n ≤ count, Times R n s t) X
      (fun ps => (allOptions step (fun i => (2 * i + 1) :: path) greedy count level .empty ps).found) := by
  induction count generalizing level with
  | zero =>
    refine ⟨_, (covers_no_options greedy level).of_iff fun s t => ?_⟩
    refine ⟨fun h => ⟨0, Nat.le_refl 0, h⟩, fun ⟨n, hn, h⟩ => ?_⟩
    obtain rfl := Nat.le_zero.mp hn
    exact h
  | succ k ih =>
    obtain ⟨X, hX⟩ := hstep level
    obtain ⟨Y, hY⟩ := ih (level + 1)
    have hmark : Covers text (· = (2 * level + 1) :: path) Eq _ (firsts ((2 * level + 1) :: path) 0) :=
      Covers.marking (fun ps q hq => exists_of_mem_firsts hq)
        fun ps _ p hp hc => (exists_mem_firsts 0 hp hc).resolve_left (by simp)
    have hlap := hX.pointwise.comp hY fun c h => by
      rintro ⟨i, hi, h'⟩
      have := h.unique h'
      omega
    have hleave : Covers text Nothing Eq Noway fun ps => ps := Covers.stay fun _ _ _ h => h.elim
    -- the choice to enter this copy is made neither in the copy itself nor in those behind it
    have hall := hmark.comp (hleave.union hlap fun _ h => h.elim) fun c hc => by
      rintro (h | h | ⟨i, hi, h⟩)
      · exact h
      · have := (hc ▸ h : Within path (2 * level) ((2 * level + 1) :: path)).unique (within_self path _)
        omega
      · have := (hc ▸ h : Within path i ((2 * level + 1) :: path)).unique (within_self path _)
        omega
    have hmem : ∀ ps q, q ∈ (allOptions step (fun i => (2 * i + 1) :: path) greedy (k + 1) level .empty ps).found ↔ _ :=
      fun ps => (allOptions_succ step (fun i => (2 * i + 1) :: path) greedy k level .empty ps).2
    refine ⟨_, ((hall.represent (fun ps q hq => ?_) fun ps _ q hq => ?_).mono fun c h => ?_).of_iff fun s t => ?_⟩
    · rcases (hmem ps q).mp hq with h | h | h
      · cases h
      · exact List.mem_append_left _ h
      · exact List.mem_append_right _ h
    · refine ⟨q, (hmem ps q).mpr (Or.inr ?_), rfl⟩
      exact List.mem_append.mp hq
    · rcases h with rfl | h | h | ⟨i, hi, h⟩
      · exact ⟨2 * level + 1, by omega, within_self path _⟩
      · exact h.elim
      · exact ⟨2 * level, by omega, h⟩
      · exact ⟨i, by omega, h⟩
    · rw [Times.upTo_succ_iff]
      exact ⟨fun ⟨_, hu, h⟩ => hu ▸ h, fun h => ⟨s, rfl, h⟩⟩

end Covers

end TypedPattern.Regex
