import TypedPattern.Proofs.Matching.Composition
import TypedPattern.Proofs.Unicode.Union

/-! Classes, alternatives and repetitions are put together by what they lead to. -/

namespace TypedPattern.Regex.Core

variable {s t : Spot}

lemma leads_ofChars (set : CharSet) : (ofChars set).Leads s t ↔ (chars set).Leads s t := by
  unfold ofChars
  split
  · rename_i c hc
    constructor
    · rintro ⟨hr, hp⟩
      exact ⟨c, (CharSet.contains_of_only? hc c).mpr rfl, hr, hp⟩
    · rintro ⟨d, hd, hr, hp⟩
      rw [(CharSet.contains_of_only? hc d).mp hd] at hr hp
      exact ⟨hr, hp⟩
  · exact Iff.rfl

/-- Some expression of several leads from one spot to another. -/
def LeadsSome (xs : List Core) (s t : Spot) : Prop :=
  ∃ r ∈ xs, r.Leads s t

lemma leadsSome_cons (x : Core) (xs : List Core) : LeadsSome (x :: xs) s t ↔ x.Leads s t ∨ LeadsSome xs s t := by
  simp only [LeadsSome, List.mem_cons, exists_eq_or_imp]

lemma leadsSome_append (xs ys : List Core) : LeadsSome (xs ++ ys) s t ↔ LeadsSome xs s t ∨ LeadsSome ys s t := by
  induction xs with
  | nil => simp [LeadsSome]
  | cons x xs ih => rw [List.cons_append, leadsSome_cons, leadsSome_cons, ih, or_assoc]

lemma leadsSome_branches (r : Core) : LeadsSome r.branches s t ↔ r.Leads s t := by
  induction r with
  | alt a b iha ihb =>
    rw [branches, leadsSome_append, iha, ihb]
    exact Iff.rfl
  | _ => simp [branches, LeadsSome]

lemma leadsSome_flatMap_branches (xs : List Core) : LeadsSome (xs.flatMap branches) s t ↔ LeadsSome xs s t := by
  induction xs with
  | nil => exact Iff.rfl
  | cons x xs ih => rw [List.flatMap_cons, leadsSome_append, leadsSome_branches, leadsSome_cons, ih]

lemma not_leads_never : ¬never.Leads s t := by
  rintro ⟨c, hc, -⟩
  cases hc

lemma leads_ofBranches (xs : List Core) : (ofBranches xs).Leads s t ↔ LeadsSome xs s t := by
  induction xs with
  | nil => exact iff_of_false not_leads_never (by simp [LeadsSome])
  | cons x xs ih =>
    cases xs with
    | nil => simp [ofBranches, LeadsSome]
    | cons y ys =>
      rw [leadsSome_cons, ← ih]
      exact Iff.rfl

lemma leads_singleChar {x : Core} {set : CharSet} (h : singleChar? x = some set) :
    x.Leads s t ↔ (chars set).Leads s t := by
  unfold singleChar? at h
  split at h
  · rename_i c
    cases h
    constructor
    · rintro ⟨hr, hp⟩
      exact ⟨c, (CharSet.contains_singleton c c).mpr rfl, hr, hp⟩
    · rintro ⟨d, hd, hr, hp⟩
      rw [(CharSet.contains_singleton c d).mp hd] at hr hp
      exact ⟨hr, hp⟩
  · cases h

lemma leads_charSet {x : Core} {set : CharSet} (h : charSet? x = some set) : x.Leads s t ↔ (chars set).Leads s t := by
  unfold charSet? at h
  split at h
  · cases h
    exact Iff.rfl
  · cases h

lemma leads_unite {xs : List Core} {sets : List CharSet} {f : Core → Option CharSet}
    (hf : ∀ x set, f x = some set → (x.Leads s t ↔ (chars set).Leads s t)) (h : xs.mapM f = some sets) :
    (chars (sets.foldl .union .empty)).Leads s t ↔ LeadsSome xs s t := by
  have hall : LeadsSome xs s t ↔ ∃ set ∈ sets, (chars set).Leads s t := by
    induction xs generalizing sets with
    | nil =>
      cases h
      simp [LeadsSome]
    | cons x xs ih =>
      rw [List.mapM_cons] at h
      obtain ⟨set, hx, h⟩ := Option.bind_eq_some_iff.mp h
      obtain ⟨rest, hxs, h⟩ := Option.bind_eq_some_iff.mp h
      cases h
      rw [leadsSome_cons, hf x set hx, ih hxs]
      simp only [List.mem_cons, exists_eq_or_imp]
  rw [hall]
  constructor
  · rintro ⟨c, hc, hr, hp⟩
    obtain ⟨set, hset, hc⟩ := ((CharSet.contains_foldl_union sets .empty c).mp hc).resolve_left (by simp)
    exact ⟨set, hset, c, hc, hr, hp⟩
  · rintro ⟨set, hset, c, hc, hr, hp⟩
    exact ⟨c, (CharSet.contains_foldl_union sets .empty c).mpr (Or.inr ⟨set, hset, hc⟩), hr, hp⟩

lemma leads_asClass {xs : List Core} {set : CharSet} (h : asClass? xs = some set) :
    (ofChars set).Leads s t ↔ LeadsSome xs s t := by
  rw [leads_ofChars]
  unfold asClass? at h
  dsimp only at h
  split at h
  · rename_i sets hs
    cases h
    exact leads_unite (fun x set hx => leads_singleChar hx) hs
  · obtain ⟨sets, hs, h⟩ := Option.map_eq_some_iff.mp h
    cases h
    exact leads_unite (fun x set hx => leads_charSet hx) hs

lemma leads_choose (xs : List Core) : (choose xs).Leads s t ↔ LeadsSome xs s t := by
  unfold choose
  split
  · exact iff_of_false not_leads_never (by simp [LeadsSome])
  · simp [LeadsSome]
  · split
    · rename_i set hs
      exact leads_asClass hs
    · exact leads_ofBranches xs

lemma shared_begins (xs ys : List Core) : shared xs ys <+: xs ∧ shared xs ys <+: ys := by
  induction xs generalizing ys with
  | nil => exact ⟨List.prefix_refl _, List.nil_prefix⟩
  | cons x xs ih =>
    cases ys with
    | nil => exact ⟨List.nil_prefix, List.nil_prefix⟩
    | cons y ys =>
      rw [shared]
      split
      · rename_i hxy
        subst hxy
        exact ⟨List.prefix_cons_inj x |>.mpr (ih ys).1, List.prefix_cons_inj x |>.mpr (ih ys).2⟩
      · exact ⟨List.nil_prefix, List.nil_prefix⟩

lemma foldl_shared_begins (front : List Core) (xss : List (List Core)) :
    xss.foldl shared front <+: front ∧ ∀ xs ∈ xss, xss.foldl shared front <+: xs := by
  induction xss generalizing front with
  | nil => exact ⟨List.prefix_refl _, by simp⟩
  | cons xs xss ih =>
    obtain ⟨h1, h2⟩ := ih (shared front xs)
    refine ⟨h1.trans (shared_begins front xs).1, List.forall_mem_cons.mpr ⟨?_, h2⟩⟩
    exact h1.trans (shared_begins front xs).2

lemma sharedByAll_begins {xss : List (List Core)} : ∀ xs ∈ xss, sharedByAll xss <+: xs := by
  cases xss with
  | nil => simp
  | cons x xss =>
    obtain ⟨h1, h2⟩ := foldl_shared_begins x xss
    exact List.forall_mem_cons.mpr ⟨h1, h2⟩

lemma leads_factor {xs front rests : List Core} (h : factor? xs = some (front, rests)) :
    (concat (front ++ [choose (rests.flatMap branches)])).Leads s t ↔ LeadsSome xs s t := by
  unfold factor? at h
  dsimp only at h
  split_ifs at h with h1 h2
  cases h
  set front := sharedByAll (xs.map parts)
  have hsplit : ∀ x ∈ xs, x.parts = front ++ x.parts.drop front.length := by
    intro x hx
    obtain ⟨w, hw⟩ := sharedByAll_begins x.parts (List.mem_map_of_mem hx)
    rw [← hw, List.drop_left]
  rw [leads_concat, leadsAll_append]
  have hrest : ∀ u, LeadsAll [choose (((xs.map parts).map fun ps => concat (ps.drop front.length)).flatMap branches)] u t ↔
      ∃ x ∈ xs, LeadsAll (x.parts.drop front.length) u t := by
    intro u
    rw [leadsAll_single, leads_choose, leadsSome_flatMap_branches, LeadsSome, List.map_map]
    constructor
    · rintro ⟨r, hr, h⟩
      obtain ⟨x, hx, rfl⟩ := List.mem_map.mp hr
      exact ⟨x, hx, (leads_concat _).mp h⟩
    · rintro ⟨x, hx, h⟩
      exact ⟨_, List.mem_map_of_mem hx, (leads_concat _).mpr h⟩
  constructor
  · rintro ⟨u, hf, h⟩
    obtain ⟨x, hx, h⟩ := (hrest u).mp h
    refine ⟨x, hx, (leadsAll_parts x).mp ?_⟩
    rw [hsplit x hx, leadsAll_append]
    exact ⟨u, hf, h⟩
  · rintro ⟨x, hx, h⟩
    have h := (leadsAll_parts x).mpr h
    rw [hsplit x hx, leadsAll_append] at h
    obtain ⟨u, hf, h⟩ := h
    exact ⟨u, hf, (hrest u).mpr ⟨x, hx, h⟩⟩

/-- An alternation leads where one of its branches does. -/
theorem leads_alternate (xs : List Core) : (alternate xs).Leads s t ↔ LeadsSome xs s t := by
  rw [← leadsSome_flatMap_branches]
  unfold alternate
  split
  · rename_i h
    rw [h]
    exact iff_of_false not_leads_never (by simp [LeadsSome])
  · rename_i x h
    rw [h]
    simp [LeadsSome]
  · split
    · rename_i set hs
      exact leads_asClass hs
    · split
      · rename_i front rests hf
        exact leads_factor hf
      · exact leads_ofBranches _

lemma eq_of_maxLength {r : Core} (hr : r.maxLength = some 0) (h : r.Leads s t) : s = t := by
  induction r generalizing s t with
  | empty => exact h
  | literal cs =>
    obtain rfl : cs = [] := List.length_eq_zero_iff.mp (Option.some.inj hr)
    obtain ⟨hr, hp⟩ := h
    exact (Spot.mk.injEq _ _ _ _).mpr ⟨hp.symm, hr⟩
  | chars set =>
    rw [maxLength] at hr
    split at hr <;> cases hr
  | look l => exact h.1
  | repetition min more greedy body ih =>
    unfold maxLength at hr
    split at hr
    · rename_i n k hn
      obtain ⟨m, hm, h⟩ := h
      rcases Nat.mul_eq_zero.mp (Option.some.inj hr) with rfl | hzero
      · exact Times.eq_of_stay (fun _ _ => ih hn) h
      · have hle := hm n rfl
        rw [show min + m = 0 by omega] at h
        exact h
    · cases hr
  | capture index body ih => exact ih hr h
  | seq a b iha ihb =>
    rw [maxLength] at hr
    unfold add at hr
    split at hr
    · rename_i m n hm hn
      obtain ⟨rfl, rfl⟩ := Nat.add_eq_zero_iff.mp (Option.some.inj hr)
      obtain ⟨u, ha, hb⟩ := h
      exact (iha hm ha).trans (ihb hn hb)
    · cases hr
  | alt a b iha ihb =>
    rw [maxLength] at hr
    unfold combine at hr
    split at hr
    · rename_i m n hm hn
      have hzero := Option.some.inj hr
      rcases h with h | h
      · exact iha (hm.trans (congrArg some (by omega))) h
      · exact ihb (hn.trans (congrArg some (by omega))) h
    · cases hr

lemma times_of_stay {R : Spot → Spot → Prop} (hr : ∀ s t, R s t → s = t) {n : Nat} :
    Times R (n + 1) s t ↔ R s t := by
  constructor
  · rintro ⟨u, hu, h⟩
    exact Times.eq_of_stay hr h ▸ hu
  · intro h
    obtain rfl := hr s t h
    induction n with
    | zero => exact ⟨s, h, rfl⟩
    | succ n ih => exact ⟨s, h, ih⟩

lemma leads_repetition_zero {greedy : Bool} {body : Core} : (repetition 0 (some 0) greedy body).Leads s t ↔ s = t := by
  constructor
  · rintro ⟨n, hn, h⟩
    obtain rfl : n = 0 := Nat.le_zero.mp (hn 0 rfl)
    exact h
  · intro h
    exact ⟨0, fun m _ => Nat.zero_le m, h⟩

lemma leads_repetition_one {greedy : Bool} {body : Core} :
    (repetition 1 (some 0) greedy body).Leads s t ↔ body.Leads s t := by
  constructor
  · rintro ⟨n, hn, h⟩
    obtain rfl : n = 0 := Nat.le_zero.mp (hn 0 rfl)
    obtain ⟨u, hu, rfl⟩ := h
    exact hu
  · intro h
    exact ⟨0, fun m _ => Nat.zero_le m, t, h, rfl⟩

/-- What matches the empty text alone may as well be matched once at most. -/
lemma leads_repetition_stay {min : Nat} {more : Option Nat} {greedy : Bool} {body : Core}
    (hb : body.maxLength = some 0) :
    (repetition (Nat.min min 1) (some (Nat.min (more.getD 1) (1 - min))) greedy body).Leads s t ↔
      (repetition min more greedy body).Leads s t := by
  have hstay : ∀ s t, body.Leads s t → s = t := fun s t => eq_of_maxLength hb
  cases min with
  | zero =>
    have hnone : ∀ (more : Option Nat), (repetition 0 more greedy body).Leads s t ↔ s = t := by
      intro more
      constructor
      · rintro ⟨n, -, h⟩
        cases n with
        | zero => exact h
        | succ n =>
          rw [Nat.zero_add] at h
          exact hstay s t ((times_of_stay hstay).mp h)
      · intro h
        exact ⟨0, fun m _ => Nat.zero_le m, h⟩
    exact (hnone _).trans (hnone more).symm
  | succ k =>
    have h1 : Nat.min (k + 1) 1 = 1 := Nat.min_eq_right (by omega)
    have h2 : Nat.min (more.getD 1) (1 - (k + 1)) = 0 := by
      rw [show 1 - (k + 1) = 0 by omega]
      exact Nat.min_zero _
    rw [h1, h2, leads_repetition_one]
    constructor
    · intro h
      refine ⟨0, fun m _ => Nat.zero_le m, ?_⟩
      exact (times_of_stay hstay).mpr h
    · rintro ⟨n, -, h⟩
      rw [show k + 1 + n = k + n + 1 by omega] at h
      exact (times_of_stay hstay).mp h

/-- A repetition leads where its body does when it is repeated. -/
theorem leads_repeated (min : Nat) (more : Option Nat) (greedy : Bool) (body : Core) :
    (repeated min more greedy body).Leads s t ↔ (repetition min more greedy body).Leads s t := by
  have htrivial : ∀ (min : Nat) (more : Option Nat),
      (if min = 0 ∧ more = some 0 then empty
        else if min = 1 ∧ more = some 0 then body else repetition min more greedy body).Leads s t ↔
        (repetition min more greedy body).Leads s t := by
    intro min more
    split_ifs with h0 h1
    · rw [h0.1, h0.2, leads_repetition_zero]
      exact Iff.rfl
    · rw [h1.1, h1.2, leads_repetition_one]
    · exact Iff.rfl
  unfold repeated
  by_cases hb : body.maxLength = some 0
  · rw [if_pos hb]
    exact (htrivial _ _).trans (leads_repetition_stay hb)
  · rw [if_neg hb]
    exact htrivial _ _

end TypedPattern.Regex.Core
