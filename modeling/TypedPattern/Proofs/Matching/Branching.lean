import TypedPattern.Proofs.Matching.Choice
import TypedPattern.Proofs.Matching.Distinct

/-!
The order in which an alternation of two branches is tried. What both begin with comes first, and only behind it the one
branch before the other.
-/

namespace TypedPattern.Regex.Core

variable {p : Point} {ps : List Point}

lemma run_chars_single (s : CharSet) (p : Point) : (chars s).run [p] = (p.next? s.contains).toList := by
  rw [run_chars, List.filterMap_cons, List.filterMap_nil]
  cases p.next? s.contains <;> rfl

lemma next?_singleton (c : Char) (p : Point) : p.next? (CharSet.singleton c).contains = p.next? (· == c) := by
  have hc : (CharSet.singleton c).contains = (· == c) := by
    funext d
    rw [Bool.eq_iff_iff, CharSet.contains_singleton, beq_iff_eq]
  rw [hc]

lemma run_literal_char (c : Char) (p : Point) : (literal [c]).run [p] = (chars (.singleton c)).run [p] := by
  have hone : p.clear.literal? [c] = p.next? (· == c) := Option.bind_fun_some (p.next? (· == c))
  rw [run_chars_single, next?_singleton, run_literal, List.map_singleton, List.filterMap_cons, hone, List.filterMap_nil]
  cases p.next? (· == c) <;> rfl

lemma run_singleChar {x : Core} {s : CharSet} (h : singleChar? x = some s) (p : Point) :
    x.run [p] = (chars s).run [p] := by
  unfold singleChar? at h
  split at h
  · cases h
    exact run_literal_char _ p
  · cases h

lemma run_charSet {x : Core} {s : CharSet} (h : charSet? x = some s) (p : Point) : x.run [p] = (chars s).run [p] := by
  unfold charSet? at h
  split at h <;> cases h
  rfl

lemma next?_of_only? {s : CharSet} {c : Char} (h : s.only? = some c) (p : Point) :
    p.next? s.contains = p.next? (· == c) := by
  have hc : s.contains = (· == c) := by
    funext d
    rw [Bool.eq_iff_iff, CharSet.contains_of_only? h, beq_iff_eq]
  rw [hc]

lemma run_ofChars (s : CharSet) (ps : List Point) : (ofChars s).run ps = (chars s).run ps := by
  unfold ofChars
  cases h : s.only? with
  | none => rfl
  | some c =>
    dsimp only
    rw [run_literal, run_chars, List.filterMap_map]
    refine List.filterMap_congr fun p _ => ?_
    rw [next?_of_only? h]
    exact Option.bind_fun_some (p.next? (· == c))

lemma run_chars_flatMap (s : CharSet) (ps : List Point) : (chars s).run ps = ps.flatMap fun p => (chars s).run [p] := by
  induction ps with
  | nil => exact run_chars s []
  | cons p ps ih =>
    rw [List.flatMap_cons, ← ih, run_chars, run_chars, run_chars, ← List.filterMap_append, List.singleton_append]

lemma agree_unite (sets : List CharSet) (s : CharSet) (p : Point) :
    Agree ((chars (sets.foldl .union s)).run [p]) ((chars s).run [p] ++ sets.flatMap fun t => (chars t).run [p]) := by
  induction sets generalizing s with
  | nil =>
    rw [List.flatMap_nil, List.append_nil]
    exact .refl _
  | cons t sets ih =>
    rw [List.foldl_cons, List.flatMap_cons, ← List.append_assoc]
    refine (ih (s.union t)).trans (Agree.append ?_ (.refl _))
    rw [run_chars_single, run_chars_single, run_chars_single]
    unfold Point.next?
    cases p.rest with
    | nil => exact .refl _
    | cons c rest =>
      dsimp only
      rw [CharSet.contains_union]
      cases s.contains c <;> cases t.contains c
      · exact .refl _
      · exact .refl _
      · exact .refl _
      · exact (distinct_cons _ _).trans (by simp [distinct_cons])

lemma agree_mapM {xs : List Core} {sets : List CharSet} {f : Core → Option CharSet}
    (hf : ∀ x s, f x = some s → x.run [p] = (chars s).run [p]) (h : xs.mapM f = some sets) :
    Agree ((chars (sets.foldl .union .empty)).run [p]) (xs.flatMap fun x => x.run [p]) := by
  have hall : xs.flatMap (fun x => x.run [p]) = sets.flatMap fun s => (chars s).run [p] := by
    induction xs generalizing sets with
    | nil =>
      cases h
      rfl
    | cons x xs ih =>
      rw [List.mapM_cons] at h
      obtain ⟨s, hx, h⟩ := Option.bind_eq_some_iff.mp h
      obtain ⟨rest, hxs, h⟩ := Option.bind_eq_some_iff.mp h
      cases h
      rw [List.flatMap_cons, List.flatMap_cons, hf x s hx, ih hxs]
  have hnone : (chars .empty).run [p] = [] := by
    rw [run_chars_single]
    unfold Point.next?
    cases p.rest <;> rfl
  have h := agree_unite sets .empty p
  rw [hnone] at h
  rw [hall]
  exact h

lemma agree_asClass {xs : List Core} {s : CharSet} (h : asClass? xs = some s) (ps : List Point) :
    Agree ((ofChars s).run ps) (ps.flatMap fun p => xs.flatMap fun x => x.run [p]) := by
  rw [run_ofChars, run_chars_flatMap]
  refine Agree.flatMap fun p _ => ?_
  unfold asClass? at h
  dsimp only at h
  split at h
  · rename_i sets hs
    cases h
    exact agree_mapM (fun x s hx => run_singleChar hx p) hs
  · obtain ⟨sets, hs, rfl⟩ := Option.map_eq_some_iff.mp h
    exact agree_mapM (fun x s hx => run_charSet hx p) hs

lemma agree_ofBranches_single {xs : List Core} (hxs : xs ≠ []) (p : Point) :
    Agree ((ofBranches xs).run [p]) (xs.flatMap fun x => x.run [p]) := by
  induction xs with
  | nil => exact absurd rfl hxs
  | cons x xs ih =>
    cases xs with
    | nil =>
      rw [List.flatMap_singleton]
      exact .refl _
    | cons y ys =>
      rw [ofBranches, run_alt, List.flatMap_singleton, List.flatMap_cons]
      exact (agree_distinct _).trans (.append (.refl _) (ih (List.cons_ne_nil y ys)))

lemma agree_ofBranches (x y : Core) (xs : List Core) (ps : List Point) :
    Agree ((ofBranches (x :: y :: xs)).run ps) (ps.flatMap fun p => (x :: y :: xs).flatMap fun x => x.run [p]) := by
  rw [ofBranches, run_alt]
  refine (agree_distinct _).trans (Agree.flatMap fun p _ => ?_)
  rw [List.flatMap_cons]
  exact .append (.refl _) (agree_ofBranches_single (List.cons_ne_nil y xs) p)

lemma agree_branches (r : Core) (p : Point) : Agree (r.run [p]) (r.branches.flatMap fun x => x.run [p]) := by
  induction r with
  | alt a b iha ihb =>
    rw [run_alt, List.flatMap_singleton, branches, List.flatMap_append]
    exact (agree_distinct _).trans (iha.append ihb)
  | _ => exact congrArg distinct (List.append_nil _).symm

lemma agree_choose (a b : Core) (ps : List Point) :
    Agree ((choose ([a, b].flatMap branches)).run ps) (ps.flatMap fun p => a.run [p] ++ b.run [p]) := by
  have hflat : ∀ p : Point, Agree (([a, b].flatMap branches).flatMap fun x => x.run [p]) (a.run [p] ++ b.run [p]) := by
    intro p
    rw [List.flatMap_cons, List.flatMap_singleton, List.flatMap_append]
    exact (agree_branches a p).symm.append (agree_branches b p).symm
  have hne : ∀ r : Core, r.branches ≠ [] := by
    intro r
    induction r with
    | alt a b iha ihb => exact fun h => iha (List.append_eq_nil_iff.mp h).1
    | _ => exact List.cons_ne_nil _ _
  obtain ⟨x, y, xs, hxs⟩ : ∃ x y xs, [a, b].flatMap branches = x :: y :: xs := by
    obtain ⟨x, as, ha⟩ := List.exists_cons_of_ne_nil (hne a)
    obtain ⟨y, bs, hb⟩ := List.exists_cons_of_ne_nil (hne b)
    rw [List.flatMap_cons, List.flatMap_singleton, ha, hb]
    cases as with
    | nil => exact ⟨x, y, bs, rfl⟩
    | cons z zs => exact ⟨x, z, zs ++ y :: bs, rfl⟩
  refine Agree.trans ?_ (Agree.flatMap fun p _ => hflat p)
  rw [hxs]
  unfold choose
  dsimp only
  cases hs : asClass? (x :: y :: xs) with
  | some s => exact agree_asClass hs ps
  | none => exact agree_ofBranches x y xs ps

/-- What two sequences of at least two parts each begin with. -/
def lifted (xs ys : List Core) : List Core :=
  if 2 ≤ xs.length ∧ 2 ≤ ys.length then shared xs ys else []

lemma shared_prefix (xs ys : List Core) : lifted xs ys <+: xs ∧ lifted xs ys <+: ys := by
  unfold lifted
  split
  · exact shared_begins xs ys
  · exact ⟨List.nil_prefix, List.nil_prefix⟩

lemma length_parts_singleChar {x : Core} {s : CharSet} (h : singleChar? x = some s) : x.parts.length = 1 := by
  unfold singleChar? at h
  split at h
  · rfl
  · cases h

lemma length_parts_charSet {x : Core} {s : CharSet} (h : charSet? x = some s) : x.parts.length = 1 := by
  unfold charSet? at h
  split at h
  · rfl
  · cases h

lemma length_parts_asClass {x : Core} {xs : List Core} {s : CharSet} (h : asClass? (x :: xs) = some s) :
    x.parts.length = 1 := by
  unfold asClass? at h
  dsimp only at h
  split at h
  · rename_i sets hs
    rw [List.mapM_cons] at hs
    obtain ⟨t, hx, -⟩ := Option.bind_eq_some_iff.mp hs
    exact length_parts_singleChar hx
  · obtain ⟨sets, hs, -⟩ := Option.map_eq_some_iff.mp h
    rw [List.mapM_cons] at hs
    obtain ⟨t, hx, -⟩ := Option.bind_eq_some_iff.mp hs
    exact length_parts_charSet hx

lemma lifted_none {a b : Core} (h : lifted a.parts b.parts = []) (p : Point) :
    ((runAll (lifted a.parts b.parts) [p]).flatMap fun q => runAll (a.parts.drop (lifted a.parts b.parts).length) [q] ++
      runAll (b.parts.drop (lifted a.parts b.parts).length) [q]) = [p].flatMap fun q => [a, b].flatMap fun x => x.run [q] := by
  rw [h, List.flatMap_singleton, List.flatMap_cons, List.flatMap_singleton]
  change [p.clear].flatMap (fun q => runAll a.parts [q] ++ runAll b.parts [q]) = _
  rw [List.flatMap_singleton, runAll_parts, runAll_parts]
  exact congrArg₂ (· ++ ·) (run_map_clear a [p]) (run_map_clear b [p])

/-- The points of an alternation: from each point behind what both branches begin with those of the first branch, then
those of the second one. -/
theorem agree_alternate {a b : Core} (ha : a.branches = [a]) (hb : b.branches = [b]) (p : Point) :
    Agree ((alternate [a, b]).run [p]) ((runAll (lifted a.parts b.parts) [p]).flatMap fun q =>
      runAll (a.parts.drop (lifted a.parts b.parts).length) [q] ++
        runAll (b.parts.drop (lifted a.parts b.parts).length) [q]) := by
  have hbranches : [a, b].flatMap branches = [a, b] := by
    rw [List.flatMap_cons, List.flatMap_singleton, ha, hb]
    rfl
  unfold alternate
  rw [hbranches]
  dsimp only
  cases hs : asClass? [a, b] with
  | some s =>
    have hlen := length_parts_asClass hs
    have hlift : lifted a.parts b.parts = [] := if_neg (by omega)
    rw [lifted_none hlift]
    exact agree_asClass hs [p]
  | none =>
    dsimp only
    unfold factor?
    simp only [List.map_cons, List.map_nil, List.all_cons, List.all_nil, Bool.and_true, Bool.and_eq_true,
      decide_eq_true_eq]
    by_cases hlen : 2 ≤ a.parts.length ∧ 2 ≤ b.parts.length
    · have hfront : sharedByAll [a.parts, b.parts] = lifted a.parts b.parts := (if_pos hlen).symm
      rw [if_pos hlen, hfront]
      cases hempty : (lifted a.parts b.parts).isEmpty with
      | true =>
        rw [lifted_none (List.isEmpty_iff.mp hempty)]
        exact agree_ofBranches a b [] [p]
      | false =>
        simp only [Bool.false_eq_true, if_false]
        rw [run_concat, runAll_append, runAll_single]
        refine (agree_choose _ _ _).trans (Agree.flatMap fun q _ => ?_)
        rw [run_concat, run_concat]
        exact .refl _
    · have hlift : lifted a.parts b.parts = [] := if_neg hlen
      rw [if_neg hlen, lifted_none hlift]
      exact agree_ofBranches a b [] [p]

end TypedPattern.Regex.Core
