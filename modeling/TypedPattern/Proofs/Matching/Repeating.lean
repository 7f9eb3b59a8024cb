import TypedPattern.Proofs.Matching.Advance
import TypedPattern.Proofs.Matching.Distinct
import TypedPattern.Proofs.Matching.Laps

/-!
Single characters repeated. From each point the longest stretch of them comes first; what has been left already adds
nothing.
-/

namespace TypedPattern.Regex

/-- The texts of some characters that a text begins with, the longest one first. -/
def stretches (accepts : Char → Bool) : List Char → List (List Char)
  | [] => [[]]
  | c :: cs => if accepts c then (stretches accepts cs).map (c :: ·) ++ [[]] else [[]]

def pieces (accepts : Char → Bool) (allows : Nat → Bool) (cs : List Char) : List (List Char) :=
  (stretches accepts cs).filter fun l => allows l.length

/-- The points behind the stretches of some lengths from a point on. -/
def walk (accepts : Char → Bool) (allows : Nat → Bool) (p : Point) : List Point :=
  (pieces accepts allows p.rest).map p.advance

variable {accepts : Char → Bool} {allows : Nat → Bool} {text : List Char} {p q : Point} {ps : List Point}

lemma mem_stretches {cs l : List Char} : l ∈ stretches accepts cs ↔ l <+: cs ∧ l.all accepts = true := by
  induction cs generalizing l with
  | nil =>
    rw [stretches, List.mem_singleton, List.prefix_nil]
    exact ⟨fun h => ⟨h, h ▸ rfl⟩, fun h => h.1⟩
  | cons c cs ih =>
    rw [stretches]
    cases l with
    | nil =>
      refine iff_of_true ?_ ⟨List.nil_prefix, rfl⟩
      split
      · exact List.mem_append_right _ (List.mem_singleton_self [])
      · exact List.mem_singleton_self []
    | cons d l =>
      rw [List.cons_prefix_cons, List.all_cons, Bool.and_eq_true]
      split
      · rename_i hc
        simp only [List.mem_append, List.mem_map, List.cons.injEq, List.mem_singleton, reduceCtorEq, or_false, ih]
        constructor
        · rintro ⟨l', ⟨hpre, hall⟩, rfl, rfl⟩
          exact ⟨⟨rfl, hpre⟩, hc, hall⟩
        · rintro ⟨⟨rfl, hpre⟩, -, hall⟩
          exact ⟨l, ⟨hpre, hall⟩, rfl, rfl⟩
      · rename_i hc
        simp only [List.mem_singleton, reduceCtorEq, false_iff]
        rintro ⟨⟨rfl, -⟩, hd, -⟩
        exact hc hd

lemma mem_pieces {cs l : List Char} :
    l ∈ pieces accepts allows cs ↔ l <+: cs ∧ l.all accepts = true ∧ allows l.length = true := by
  rw [pieces, List.mem_filter, mem_stretches, and_assoc]

lemma pairwise_pieces (cs : List Char) :
    (pieces accepts allows cs).Pairwise fun a b => b.length < a.length := by
  refine List.Pairwise.filter _ ?_
  induction cs with
  | nil => exact List.pairwise_singleton _ _
  | cons c cs ih =>
    rw [stretches]
    split
    · refine List.pairwise_append.mpr ⟨?_, List.pairwise_singleton _ _, ?_⟩
      · exact List.pairwise_map.mpr (ih.imp Nat.succ_lt_succ)
      · intro a ha b hb
        obtain ⟨l, -, rfl⟩ := List.mem_map.mp ha
        obtain rfl := List.mem_singleton.mp hb
        exact Nat.succ_pos _
    · exact List.pairwise_singleton _ _

lemma walk_stop (h : p.next? accepts = none) : walk accepts allows p = if allows 0 then [p.clear] else [] := by
  have hone : stretches accepts p.rest = [[]] := by
    unfold Point.next? at h
    cases hr : p.rest with
    | nil => rfl
    | cons c cs =>
      rw [hr] at h
      dsimp only at h
      split at h
      · cases h
      · rename_i hc
        exact if_neg hc
  rw [walk, pieces, hone, List.filter_singleton, List.length_nil]
  cases allows 0 <;> rfl

lemma walk_next (h : p.next? accepts = some q) :
    walk accepts allows p = walk accepts (fun n => allows (n + 1)) q ++ if allows 0 then [p.clear] else [] := by
  obtain ⟨c, hc, ⟨rest, hr⟩, rfl⟩ := Point.next?_eq_some_advance.mp h
  have hq : (p.advance [c]).rest = rest := by
    rw [Point.rest_advance, ← hr]
    rfl
  rw [walk, walk, pieces, pieces, hq, ← hr, List.singleton_append, stretches, if_pos hc, List.filter_append,
    List.filter_map, List.map_append, List.map_map, List.filter_singleton, List.length_nil]
  congr 1
  · exact List.map_congr_left fun l _ => p.advance_append [c] l
  · cases allows 0 <;> rfl

lemma walk_stay (h : ∀ n, allows n = decide (n = 0)) : walk accepts allows p = [p.clear] := by
  cases hp : p.next? accepts with
  | none => rw [walk_stop hp, h, if_pos (decide_eq_true rfl)]
  | some q =>
    have hnever : (fun n => allows (n + 1)) = fun _ => false := funext fun n => h (n + 1)
    rw [walk_next hp, h, if_pos (decide_eq_true rfl), hnever, walk, pieces, List.filter_false]
    rfl

lemma clear_next (h : p.next? accepts = some q) : q.clear = q := by
  obtain ⟨_, _, -, -, rfl⟩ := Point.next?_eq_some.mp h
  rfl

lemma walk_succ (n : Nat) :
    walk accepts (fun k => k == n + 1) p = (p.next? accepts).toList.flatMap (walk accepts fun k => k == n) := by
  cases h : p.next? accepts with
  | none => exact walk_stop h
  | some q =>
    rw [walk_next h, Option.toList_some, List.flatMap_singleton]
    simp

lemma walk_one : walk accepts (fun k => k == 1) p = (p.next? accepts).toList := by
  rw [walk_succ]
  cases h : p.next? accepts with
  | none => rfl
  | some q =>
    rw [Option.toList_some, List.flatMap_singleton, @walk_stay _ (fun k => k == 0) q fun n => rfl, clear_next h]

lemma walk_maybe : walk accepts (fun k => decide (k ≤ 1)) p = (p.next? accepts).toList ++ [p.clear] := by
  cases h : p.next? accepts with
  | none => exact walk_stop h
  | some q =>
    rw [walk_next h, walk_stay fun n => by simp, clear_next h]
    rfl

lemma pos_lt_next (h : p.next? accepts = some q) : p.pos < q.pos := by
  obtain ⟨c, rest, -, -, rfl⟩ := Point.next?_eq_some.mp h
  exact Nat.lt_add_of_pos_right c.utf8Size_pos

lemma Point.On.of_mem_walk (hp : p.On text) (h : q ∈ walk accepts allows p) : q.On text := by
  obtain ⟨l, hl, rfl⟩ := List.mem_map.mp h
  exact hp.advance (mem_pieces.mp hl).1

lemma mem_walk_trans {r : Point} (hq : q ∈ walk accepts (fun _ => true) p) (hr : r ∈ walk accepts (fun _ => true) q) :
    r ∈ walk accepts (fun _ => true) p := by
  obtain ⟨l, hl, rfl⟩ := List.mem_map.mp hq
  obtain ⟨l', hl', rfl⟩ := List.mem_map.mp hr
  obtain ⟨⟨rest, hrest⟩, hall, -⟩ := mem_pieces.mp hl
  obtain ⟨hpre, hall', -⟩ := mem_pieces.mp hl'
  rw [← p.advance_append]
  refine List.mem_map_of_mem (mem_pieces.mpr ⟨?_, ?_, rfl⟩)
  · rw [Point.rest_advance, ← hrest, List.drop_left] at hpre
    rw [← hrest]
    exact (List.prefix_append_right_inj l).mpr hpre
  · rw [List.all_append, hall, hall']
    rfl

lemma exists_mem_walk (hp : p.On text) (hq : q.On text) (h : p.pos = q.pos) {r : Point}
    (hr : r ∈ walk accepts allows p) : ∃ s ∈ walk accepts allows q, s.pos = r.pos := by
  obtain ⟨l, hl, rfl⟩ := List.mem_map.mp hr
  have hrest : p.rest = q.rest := congrArg Spot.rest (hp.spot_eq hq h)
  refine ⟨q.advance l, List.mem_map_of_mem (hrest ▸ hl), ?_⟩
  rw [Point.pos_advance, Point.pos_advance, h]

namespace Tour

/-- What has been found, in the order in which it was added. -/
def order (t : Tour) : List Point :=
  t.found.reverse.map Point.clear

lemma order_add (t : Tour) (p : Point) : (t.add p).order = t.order ++ [p.clear] := by
  rw [order, order, add, List.reverse_cons, List.map_append]
  rfl

/-- Where a tour has been it has found all that is reached from there. -/
def Closed (w : Point → List Point) (text : List Char) (t : Tour) : Prop :=
  ∀ x : Point, x.On text → t.visited x.pos = true → ∀ r ∈ w x, ∃ s ∈ t.order, s.pos = r.pos

lemma closed_empty (w : Point → List Point) (text : List Char) : Closed w text empty := by
  intro x _ hv
  rw [visited_empty] at hv
  cases hv

lemma agree_points (t : Tour) : Agree (t.points.map Point.clear) t.order := by
  rw [points, ← distinct_map (f := Point.clear) fun _ => rfl]
  exact agree_distinct _

lemma order_foldl_add (ps : List Point) (t : Tour) :
    (ps.foldl add t).order = t.order ++ ps.map Point.clear := by
  induction ps generalizing t with
  | nil => exact (List.append_nil _).symm
  | cons p ps ih =>
    rw [List.foldl_cons, ih, order_add, List.map_cons, List.append_assoc]
    rfl

/-- Points that are toured one after the other, with an invariant of the tour. -/
lemma agree_foldl {I : Tour → Prop} {w : Point → List Point} {f : Tour → Point → Tour} {t : Tour}
    (hf : ∀ p ∈ ps, ∀ t, I t → I (f t p) ∧ Agree (f t p).order (t.order ++ w p)) (ht : I t) :
    I (ps.foldl f t) ∧ Agree (ps.foldl f t).order (t.order ++ ps.flatMap w) := by
  induction ps generalizing t with
  | nil =>
    rw [List.flatMap_nil, List.append_nil]
    exact ⟨ht, .refl _⟩
  | cons p ps ih =>
    obtain ⟨hfirst, hagree⟩ := hf p List.mem_cons_self t ht
    obtain ⟨hrest, hagree'⟩ := ih (fun q hq => hf q (List.mem_cons_of_mem p hq)) hfirst
    rw [List.flatMap_cons, ← List.append_assoc]
    exact ⟨hrest, hagree'.trans (hagree.append (.refl _))⟩

end Tour

open Tour (Closed)

section Laps

variable {choice : Path} {step : List Point → List Point} (hstep : ∀ p, step [p] = (p.next? accepts).toList)

/-- Laps of single characters go as far as they have not been. -/
structure Walked (accepts : Char → Bool) (text : List Char) (p : Point) (t u : Tour) (skipped taken : List Point) :
    Prop where
  walk : walk accepts (fun _ => true) p = skipped ++ taken
  order : u.order = t.order ++ taken
  visited : ∀ pos, u.visited pos = true ↔ t.visited pos = true ∨ ∃ r ∈ taken, r.pos = pos
  skips : skipped = [] ∨ ∃ x : Point, skipped = Regex.walk accepts (fun _ => true) x ∧ p.pos ≤ x.pos ∧ x.On text ∧
    t.visited x.pos = true

lemma laps_visited (k : Nat) {t : Tour} (h : t.visited p.pos = true) : laps step choice true (k + 1) p t = t := by
  rw [laps, h]
  rfl

lemma laps_fresh (k : Nat) (ht : p.trail = []) {t : Tour} (h : ¬t.visited p.pos = true) :
    laps step choice true (k + 1) p t =
      ((step [p.mark choice]).foldl (fun t e => laps step choice true k e t) (t.visit p.pos)).add (p.mark choice) := by
  rw [laps, ht, Bool.eq_false_iff.mpr h]
  rfl

include hstep in
lemma laps_walk {k : Nat} (hp : p.On text) (ht : p.trail = []) (hk : p.rest.length < k) (t : Tour) :
    ∃ skipped taken, Walked accepts text p t (laps step choice true k p t) skipped taken := by
  -- on the laps that are left: each one takes a character, so that they last to the end of the text
  induction k generalizing p t with
  | zero => exact absurd hk (Nat.not_lt_zero _)
  | succ k ih =>
    by_cases hv : t.visited p.pos = true
    · rw [laps_visited k hv]
      refine ⟨walk accepts (fun _ => true) p, [], (List.append_nil _).symm, (List.append_nil _).symm, fun pos => ?_,
        Or.inr ⟨p, rfl, Nat.le_refl _, hp, hv⟩⟩
      simp
    · have hvisit := t.visited_visit p.pos
      have hnext : (p.mark choice).next? accepts = p.next? accepts := rfl
      rw [laps_fresh k ht hv, hstep, hnext]
      cases he : p.next? accepts with
      | none =>
        refine ⟨[], [p.clear], walk_stop he, Tour.order_add _ _, fun pos => ?_, Or.inl rfl⟩
        simpa using hvisit pos
      | some e =>
        have hlt := pos_lt_next he
        obtain ⟨c, rest, hr, -, rfl⟩ := Point.next?_eq_some.mp he
        rw [hr, List.length_cons] at hk
        obtain ⟨skipped, taken, h⟩ := ih (hp.next? he) rfl (Nat.lt_of_succ_lt_succ hk) (t.visit p.pos)
        have hwalk := @walk_next _ (fun _ => true) _ _ he
        rw [h.walk, List.append_assoc] at hwalk
        refine ⟨skipped, taken ++ [p.clear], hwalk, ?_, fun pos => ?_, h.skips.imp_right ?_⟩
        · refine (Tour.order_add _ _).trans ?_
          rw [← List.append_assoc]
          exact congrArg (· ++ [p.clear]) h.order
        · have hmem : (∃ r ∈ taken ++ [p.clear], r.pos = pos) ↔ p.pos = pos ∨ ∃ r ∈ taken, r.pos = pos := by
            simp only [List.mem_append, List.mem_singleton, or_and_right, exists_or, exists_eq_left, Point.pos_clear]
            exact or_comm
          rw [hmem, ← or_assoc, ← hvisit]
          exact h.visited pos
        · rintro ⟨x, hx, hle, hon, hvx⟩
          rw [hvisit] at hvx
          refine ⟨x, hx, by omega, hon, hvx.resolve_right (by omega)⟩

include hstep in
lemma agree_laps {k : Nat} (hp : p.On text) (ht : p.trail = []) (hk : p.rest.length < k) {t : Tour}
    (hc : Closed (walk accepts fun _ => true) text t) :
    Closed (walk accepts fun _ => true) text (laps step choice true k p t) ∧
      Agree (laps step choice true k p t).order (t.order ++ walk accepts (fun _ => true) p) := by
  obtain ⟨skipped, taken, h⟩ := laps_walk hstep hp ht hk t
  -- what is skipped had been found
  have hskipped : ∀ r ∈ skipped, ∃ s ∈ t.order, s.pos = r.pos := by
    intro r hr
    rcases h.skips with hnone | ⟨x, hx, -, hon, hv⟩
    · rw [hnone] at hr
      cases hr
    · exact hc x hon hv r (hx ▸ hr)
  have hall : ∀ r ∈ walk accepts (fun _ => true) p, ∃ s ∈ (laps step choice true k p t).order, s.pos = r.pos := by
    intro r hr
    rw [h.order]
    rw [h.walk] at hr
    rcases List.mem_append.mp hr with hr | hr
    · obtain ⟨s, hs, hpos⟩ := hskipped r hr
      exact ⟨s, List.mem_append_left _ hs, hpos⟩
    · exact ⟨r, List.mem_append_right _ hr, rfl⟩
  constructor
  · intro x hx hv r hr
    rcases (h.visited _).mp hv with hv | ⟨q, hq, hpos⟩
    · obtain ⟨s, hs, hpos⟩ := hc x hx hv r hr
      rw [h.order]
      exact ⟨s, List.mem_append_left _ hs, hpos⟩
    · have hmem : q ∈ walk accepts (fun _ => true) p := h.walk ▸ List.mem_append_right _ hq
      obtain ⟨s, hs, hsr⟩ := exists_mem_walk hx (hp.of_mem_walk hmem) hpos.symm hr
      obtain ⟨o, ho, hos⟩ := hall s (mem_walk_trans hmem hs)
      exact ⟨o, ho, hos.trans hsr⟩
  · rw [h.order, h.walk, ← List.append_assoc]
    exact (Agree.absorb hskipped).symm.append (.refl _)

end Laps

section Options

variable {choice : Nat → Path} {step : Nat → List Point → List Point}
  (hstep : ∀ i p, step i [p] = (p.next? accepts).toList)

lemma options_visited (k level : Nat) {t : Tour} (h : t.visited p.pos = true) :
    options step choice true (k + 1) level p t = t := by
  rw [options, h]
  rfl

include hstep in
lemma agree_option (hp : p.On text) (ht : p.trail = []) {t : Tour}
    (hc : Closed (walk accepts fun k => decide (k ≤ 1)) text t) :
    Closed (walk accepts fun k => decide (k ≤ 1)) text (options step choice true 1 0 p t) ∧
      Agree (options step choice true 1 0 p t).order (t.order ++ walk accepts (fun k => decide (k ≤ 1)) p) := by
  by_cases hv : t.visited p.pos = true
  · rw [options_visited 0 0 hv]
    exact ⟨hc, (Agree.absorb fun r hr => hc p hp hv r hr).symm⟩
  · have hfresh : options step choice true 1 0 p t = (t.visit p.pos).below fun t =>
        ((step 0 [p.mark (choice 0)]).foldl Tour.add t).add (p.mark (choice 0)) := by
      rw [options, ht, Bool.eq_false_iff.mpr hv]
      rfl
    have horder : (options step choice true 1 0 p t).order =
        t.order ++ walk accepts (fun k => decide (k ≤ 1)) p := by
      have hnext : (p.mark (choice 0)).next? accepts = p.next? accepts := rfl
      have hadd := Tour.order_foldl_add (p.next? accepts).toList ⟨(t.visit p.pos).masks.tail, t.found⟩
      have hclear : (p.next? accepts).toList.map Point.clear = (p.next? accepts).toList := by
        cases he : p.next? accepts with
        | none => rfl
        | some e => exact congrArg (fun q => [q]) (clear_next he)
      rw [hclear] at hadd
      rw [hfresh, hstep, hnext, walk_maybe, ← List.append_assoc]
      exact (Tour.order_add _ _).trans (congrArg (· ++ [p.clear]) hadd)
    refine ⟨fun x hx hvx r hr => ?_, horder ▸ .refl _⟩
    rw [horder]
    rw [hfresh] at hvx
    rcases (t.visited_visit p.pos x.pos).mp hvx with hvx | hpos
    · obtain ⟨o, ho, hor⟩ := hc x hx hvx r hr
      exact ⟨o, List.mem_append_left _ ho, hor⟩
    · obtain ⟨o, ho, hor⟩ := exists_mem_walk hx hp hpos.symm hr
      exact ⟨o, List.mem_append_right _ ho, hor⟩

end Options

namespace Core

variable {s : CharSet}

lemma nullable_chars (hs : s.isEmpty = false) : (chars s).nullable = false := by
  rw [nullable, minLength, hs]
  rfl

theorem agree_any (hs : s.isEmpty = false) (hps : ∀ p ∈ ps, p.On text) :
    Agree ((repetition 0 none true (chars s)).run ps) (ps.flatMap (walk s.contains fun _ => true)) := by
  have hstep : ∀ p, (chars s).ends [0] [p] = (p.next? s.contains).toList := by
    intro p
    rw [ends, List.filterMap_cons, List.filterMap_nil]
    cases p.next? s.contains <;> rfl
  rw [run, ends, nullable_chars hs]
  refine (Tour.agree_points _).trans ?_
  rw [List.foldl_map]
  have hempty : Closed (walk s.contains fun _ => true) text .empty := Tour.closed_empty _ text
  refine (Tour.agree_foldl (fun p hp t hc => ?_) hempty).2
  exact @agree_laps s.contains text p.clear [1] _ hstep _ ((hps p hp).of_spot rfl rfl) rfl (Nat.lt_succ_self _) t hc

theorem agree_maybe (hps : ∀ p ∈ ps, p.On text) :
    Agree ((repetition 0 (some 1) true (chars s)).run ps) (ps.flatMap (walk s.contains fun k => decide (k ≤ 1))) := by
  have hstep : ∀ (i : Nat) p, (chars s).ends [2 * i] [p] = (p.next? s.contains).toList := by
    intro i p
    rw [ends, List.filterMap_cons, List.filterMap_nil]
    cases p.next? s.contains <;> rfl
  refine (Tour.agree_points _).trans ?_
  rw [copies, List.foldl_map]
  have hempty : Closed (walk s.contains fun k => decide (k ≤ 1)) text .empty := Tour.closed_empty _ text
  refine (Tour.agree_foldl (fun p hp t hc => ?_) hempty).2
  exact @agree_option s.contains text p.clear _ _ hstep ((hps p hp).of_spot rfl rfl) rfl t hc

lemma copies_chars (path : Path) (n level : Nat) (ps : List Point) :
    (copies (fun i => (chars s).ends (2 * i :: path)) n level ps).map Point.clear =
      ps.flatMap (walk s.contains fun k => k == n) := by
  induction n generalizing level ps with
  | zero =>
    rw [copies, List.map_eq_flatMap]
    exact List.flatMap_congr fun p _ => (walk_stay fun k => rfl).symm
  | succ n ih =>
    rw [copies, ih, ends, List.filterMap_eq_flatMap_toList, List.flatMap_assoc]
    exact List.flatMap_congr fun p _ => (walk_succ n).symm

lemma run_chars_walk (ps : List Point) : (chars s).run ps = ps.flatMap (walk s.contains fun k => k == 1) := by
  rw [run_chars, List.filterMap_eq_flatMap_toList]
  exact List.flatMap_congr fun p _ => walk_one.symm

theorem agree_width (hs : s.isEmpty = false) (n : Nat) (ps : List Point) :
    Agree ((repeated n (some 0) true (chars s)).run ps) (ps.flatMap (walk s.contains fun k => k == n)) := by
  have hmax : (chars s).maxLength ≠ some 0 := by
    rw [maxLength, hs]
    exact fun h => absurd (Option.some.inj h) Nat.one_ne_zero
  have hrepeated : repeated n (some 0) true (chars s) =
      if n = 0 then empty else if n = 1 then chars s else repetition n (some 0) true (chars s) := by
    simp [repeated, hmax]
  rw [hrepeated]
  split_ifs with hzero hone
  · have hstay : ps.map Point.clear = ps.flatMap (walk s.contains fun k => k == n) := by
      rw [List.map_eq_flatMap, hzero]
      exact List.flatMap_congr fun p _ => (walk_stay fun k => rfl).symm
    rw [run_empty, hstay]
    exact .refl _
  · rw [hone, run_chars_walk]
    exact .refl _
  · refine (Tour.agree_points _).trans ?_
    have hadd := Tour.order_foldl_add (copies (fun i => (chars s).ends [2 * i]) n 0 (ps.map Point.clear)) .empty
    rw [copies_chars, List.flatMap_map] at hadd
    exact hadd ▸ .refl _

end Core

end TypedPattern.Regex
