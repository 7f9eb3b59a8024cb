import TypedPattern.Proofs.Matching.Mirror
import TypedPattern.Proofs.Matching.Invariant

/-! What a part leads to by itself, from points where no choice has been made, and how runs are put together. -/

namespace TypedPattern.Regex

open List (Forall₂)

namespace Point

@[simp] lemma clear_clear (p : Point) : p.clear.clear = p.clear := rfl

@[simp] lemma pos_clear (p : Point) : p.clear.pos = p.pos := rfl

@[simp] lemma prev_clear (p : Point) : p.clear.prev = p.prev := rfl

@[simp] lemma trail_clear (p : Point) : p.clear.trail = [] := rfl

@[simp] lemma groups_clear (p : Point) : p.clear.groups = p.groups := rfl

@[simp] lemma opened_clear (p : Point) : p.clear.opened = p.opened := rfl

@[simp] lemma clear_mark (p : Point) (choice : Path) : (p.mark choice).clear = p.clear := rfl

@[simp] lemma clear_ofText (text : List Char) : (ofText text).clear = ofText text := rfl

lemma clear_finish (p : Point) : p.finish.clear = p.clear.finish := by
  rcases p with ⟨pos, prev, rest, trail, _ | ⟨g, opened⟩, groups⟩ <;> rfl

lemma clear_eq {p : Point} (h : p.trail = []) : p.clear = p := by
  rw [clear, ← h]

lemma shift_zero (p : Point) : p.shift 0 = p := by
  have hid : ∀ {α : Type} (gs : List (Nat × α)), gs.map (renumber 0) = gs := fun gs => List.map_id gs
  rw [shift, hid, hid]

lemma Mirrors.clear_eq {base : Path} {k : Nat} {p q : Point} (h : Mirrors base k p q) :
    q.clear = p.clear.shift k := by
  rcases q with ⟨pos, prev, rest, trail, opened, groups⟩
  obtain rfl : pos = p.pos := h.pos
  obtain rfl : prev = p.prev := h.prev
  obtain rfl : rest = p.rest := h.rest
  obtain rfl : opened = p.opened.map (renumber k) := h.opened
  obtain rfl : groups = p.groups.map (renumber k) := h.groups
  rfl

lemma mirrors_clear {base : Path} {p : Point} (h : ∀ d, d ++ base ∉ p.trail) : Mirrors base 0 p p.clear := by
  have hid : ∀ {α : Type} (gs : List (Nat × α)), gs.map (renumber 0) = gs := fun gs => List.map_id gs
  exact ⟨rfl, rfl, rfl, (hid _).symm, (hid _).symm, fun d => iff_of_false (h d) List.not_mem_nil⟩

lemma mirrors_shift (k : Nat) (p : Point) : Mirrors [] k p.clear (p.shift k).clear :=
  ⟨rfl, rfl, rfl, rfl, rfl, fun d => by simp⟩

lemma literal?_append (p : Point) (a b : List Char) : p.literal? (a ++ b) = (p.literal? a).bind (·.literal? b) := by
  induction a generalizing p with
  | nil => rfl
  | cons c cs ih =>
    rw [List.cons_append, literal?, literal?]
    cases p.next? (· == c) with
    | none => rfl
    | some q => exact ih q

lemma trail_literal? {cs : List Char} {p q : Point} (hp : p.trail = []) (h : p.literal? cs = some q) : q.trail = [] :=
  Core.stays_literal (S := fun p => p.trail = []) (fun _ _ _ _ hn => by
    obtain ⟨_, _, -, -, rfl⟩ := next?_eq_some.mp hn
    rfl) hp h

end Point

open Point (clear)

lemma distinct_go_map {f : Point → Point} (hf : ∀ p, (f p).pos = p.pos) (seen : Nat) (ps : List Point) :
    distinct.go seen (ps.map f) = (distinct.go seen ps).map f := by
  induction ps generalizing seen with
  | nil => rfl
  | cons p ps ih =>
    rw [List.map_cons, distinct.go, distinct.go, hf]
    split
    · exact ih seen
    · rw [ih, List.map_cons]

lemma distinct_map {f : Point → Point} (hf : ∀ p, (f p).pos = p.pos) (ps : List Point) :
    distinct (ps.map f) = (distinct ps).map f :=
  distinct_go_map hf 0 ps

lemma map_clear_of_mirrors {base : Path} {k : Nat} {ps qs : List Point} (h : Forall₂ (Point.Mirrors base k) ps qs) :
    qs.map clear = (ps.map clear).map (Point.shift k) := by
  induction h with
  | nil => rfl
  | cons hp _ ih => rw [List.map_cons, List.map_cons, List.map_cons, ih, hp.clear_eq]

namespace Core

/-- The points that an expression leads to by itself. -/
def run (r : Core) (ps : List Point) : List Point :=
  (r.ends [] (ps.map clear)).map clear

lemma run_map_clear (r : Core) (ps : List Point) : r.run (ps.map clear) = r.run ps := by
  rw [run, List.map_map]
  rfl

lemma clear_run (r : Core) (ps : List Point) : (r.run ps).map clear = r.run ps := by
  rw [run, List.map_map]
  rfl

/-- Below a path an expression leads to what it leads to by itself, unless a choice of its own has been made. -/
theorem map_clear_ends {r : Core} {path : Path} {ps : List Point} (h : ∀ p ∈ ps, ∀ d, d ++ path ∉ p.trail) :
    (r.ends path ps).map clear = r.run ps := by
  have hps : Forall₂ (Point.Mirrors path 0) ps (ps.map clear) := by
    rw [List.forall₂_map_right_iff, List.forall₂_same]
    exact fun p hp => Point.mirrors_clear (h p hp)
  have hends := ends_mirrors path 0 r [] _ _ hps
  rw [shift_zero, List.nil_append] at hends
  have hid : ∀ ps : List Point, ps.map (Point.shift 0) = ps := fun ps =>
    (List.map_congr_left fun p _ => Point.shift_zero p).trans (List.map_id ps)
  rw [run, map_clear_of_mirrors hends, hid]

/-- With later numbers an expression leads to the same points with later numbers. -/
theorem run_shift (r : Core) (k : Nat) (ps : List Point) :
    (r.shift k).run (ps.map (Point.shift k)) = (r.run ps).map (Point.shift k) := by
  have hps : Forall₂ (Point.Mirrors [] k) (ps.map clear) ((ps.map (Point.shift k)).map clear) := by
    rw [List.map_map, List.forall₂_map_left_iff, List.forall₂_map_right_iff, List.forall₂_same]
    exact fun p _ => Point.mirrors_shift k p
  exact map_clear_of_mirrors (ends_mirrors [] k r [] _ _ hps)

lemma not_suffix_of_mem {a : Core} {i j : Nat} (hij : i ≠ j) {ps : List Point} {q : Point}
    (hq : q ∈ a.ends [i] (ps.map clear)) (d : Path) : d ++ [j] ∉ q.trail := by
  intro hd
  rcases trail_ends hq hd with ⟨e, he⟩ | ⟨p, hp, hd⟩
  · exact hij (List.cons.inj (List.append_inj' he rfl).2).1
  · obtain ⟨o, -, rfl⟩ := List.mem_map.mp hp
    cases hd

lemma map_clear_clear (ps : List Point) : (ps.map clear).map clear = ps.map clear := by
  rw [List.map_map]
  rfl

lemma run_empty (ps : List Point) : empty.run ps = ps.map clear :=
  map_clear_clear ps

lemma run_seq (a b : Core) (ps : List Point) : (seq a b).run ps = b.run (a.run ps) := by
  have hb : (b.ends [1] (a.ends [0] (ps.map clear))).map clear = b.run (a.ends [0] (ps.map clear)) :=
    map_clear_ends fun q hq => not_suffix_of_mem Nat.zero_ne_one hq
  have ha : (a.ends [0] (ps.map clear)).map clear = a.run (ps.map clear) :=
    map_clear_ends fun p hp d hd => by
      obtain ⟨o, -, rfl⟩ := List.mem_map.mp hp
      cases hd
  calc (seq a b).run ps = (b.ends [1] (a.ends [0] (ps.map clear))).map clear := rfl
    _ = b.run ((a.ends [0] (ps.map clear)).map clear) := by rw [hb, run_map_clear]
    _ = b.run (a.run ps) := by rw [ha, run_map_clear]

lemma run_capture (index : Nat) (body : Core) (ps : List Point) :
    (capture index body).run ps = (body.run (ps.map (·.begin index))).map Point.finish := by
  have hbody : (body.ends [0] ((ps.map clear).map (·.begin index))).map clear =
      body.run ((ps.map clear).map (·.begin index)) := map_clear_ends fun p hp d hd => by
    obtain ⟨o, ho, rfl⟩ := List.mem_map.mp hp
    obtain ⟨o, -, rfl⟩ := List.mem_map.mp ho
    cases hd
  have hclear : (ps.map clear).map (·.begin index) = (ps.map (·.begin index)).map clear := by
    rw [List.map_map, List.map_map]
    rfl
  have hfinish : ∀ qs : List Point, (qs.map Point.finish).map clear = (qs.map clear).map Point.finish := fun qs => by
    rw [List.map_map, List.map_map]
    exact List.map_congr_left fun p _ => Point.clear_finish p
  rw [hclear, run_map_clear] at hbody
  rw [← hbody, run, ends, hclear, hfinish]

lemma run_alt (a b : Core) (ps : List Point) :
    (alt a b).run ps = distinct (ps.flatMap fun p => a.run [p] ++ b.run [p]) := by
  have hone : ∀ (r : Core) (i : Nat) (p : Point), (r.ends [i] [p.clear.mark []]).map clear = r.run [p] := by
    intro r i p
    rw [map_clear_ends fun q hq d hd => ?_]
    · rfl
    · obtain rfl := List.mem_singleton.mp hq
      simp at hd
  have hfilter : (ps.map clear).filter (fun p => !p.trail.contains []) = ps.map clear := by
    refine List.filter_eq_self.mpr fun p hp => ?_
    obtain ⟨o, -, rfl⟩ := List.mem_map.mp hp
    rfl
  rw [run, ends, hfilter, ← distinct_map (f := clear) fun _ => rfl, List.map_flatMap, List.flatMap_map]
  simp only [List.map_append, hone]

lemma run_literal (cs : List Char) (ps : List Point) :
    (literal cs).run ps = (ps.map clear).filterMap (·.literal? cs) := by
  have hall : ∀ q ∈ (ps.map clear).filterMap (·.literal? cs), q.clear = q := by
    intro q hq
    obtain ⟨p, hp, hq⟩ := List.mem_filterMap.mp hq
    obtain ⟨o, -, rfl⟩ := List.mem_map.mp hp
    exact Point.clear_eq (Point.trail_literal? rfl hq)
  exact (List.map_congr_left hall).trans (List.map_id _)

lemma run_chars (s : CharSet) (ps : List Point) : (chars s).run ps = ps.filterMap (·.next? s.contains) := by
  have hall : ∀ q ∈ ps.filterMap (·.next? s.contains), q.clear = q := by
    intro q hq
    obtain ⟨p, -, hq⟩ := List.mem_filterMap.mp hq
    obtain ⟨_, _, -, -, rfl⟩ := Point.next?_eq_some.mp hq
    rfl
  rw [run, ends, List.filterMap_map]
  exact (List.map_congr_left hall).trans (List.map_id _)

lemma run_look (l : Look) (ps : List Point) :
    (look l).run ps = (ps.map clear).filter fun p => l.holds p.prev p.rest.head? := by
  have hall : ∀ q ∈ (ps.map clear).filter (fun p => l.holds p.prev p.rest.head?), q.clear = q := by
    intro q hq
    obtain ⟨o, -, rfl⟩ := List.mem_map.mp (List.mem_of_mem_filter hq)
    rfl
  exact (List.map_congr_left hall).trans (List.map_id _)

def runAll : List Core → List Point → List Point
  | [], ps => ps.map clear
  | x :: xs, ps => runAll xs (x.run ps)

lemma runAll_map_clear (xs : List Core) (ps : List Point) : runAll xs (ps.map clear) = runAll xs ps := by
  cases xs with
  | nil => exact map_clear_clear ps
  | cons x xs => rw [runAll, run_map_clear, runAll]

lemma runAll_single (x : Core) (ps : List Point) : runAll [x] ps = x.run ps :=
  clear_run x ps

lemma runAll_append (xs ys : List Core) (ps : List Point) : runAll (xs ++ ys) ps = runAll ys (runAll xs ps) := by
  induction xs generalizing ps with
  | nil => exact (runAll_map_clear ys ps).symm
  | cons x xs ih => exact ih (x.run ps)

lemma runAll_parts (r : Core) (ps : List Point) : runAll r.parts ps = r.run ps := by
  induction r generalizing ps with
  | empty => exact (run_empty ps).symm
  | seq a b iha ihb => rw [parts, runAll_append, iha, ihb, run_seq]
  | _ => exact runAll_single _ ps

lemma runAll_flatMap_parts (xs : List Core) (ps : List Point) : runAll (xs.flatMap parts) ps = runAll xs ps := by
  induction xs generalizing ps with
  | nil => rfl
  | cons x xs ih => rw [List.flatMap_cons, runAll_append, runAll_parts, ih, runAll]

lemma run_literal_append (a b : List Char) (ps : List Point) :
    (literal (a ++ b)).run ps = (literal b).run ((literal a).run ps) := by
  have hclear : ((literal a).run ps).map clear = (literal a).run ps := clear_run _ ps
  rw [run_literal b, hclear, run_literal, run_literal, List.filterMap_filterMap]
  simp only [Point.literal?_append]

lemma runAll_prepend (x : Core) (xs : List Core) (ps : List Point) : runAll (prepend x xs) ps = runAll (x :: xs) ps := by
  unfold prepend
  split
  · rw [runAll, runAll, runAll, run_literal_append]
  · rfl

lemma runAll_foldr_prepend (xs : List Core) (ps : List Point) : runAll (xs.foldr prepend []) ps = runAll xs ps := by
  induction xs generalizing ps with
  | nil => rfl
  | cons x xs ih => rw [List.foldr_cons, runAll_prepend, runAll, ih, runAll]

lemma run_foldl_seq (x : Core) (xs : List Core) (ps : List Point) : (xs.foldl seq x).run ps = runAll (x :: xs) ps := by
  induction xs generalizing x with
  | nil => exact (runAll_single x ps).symm
  | cons y ys ih => rw [List.foldl_cons, ih, runAll, runAll, runAll, run_seq]

lemma run_ofParts (xs : List Core) (ps : List Point) : (ofParts xs).run ps = runAll xs ps := by
  cases xs with
  | nil => exact run_empty ps
  | cons x xs => exact run_foldl_seq x xs ps

/-- A sequence runs its members one after the other. -/
theorem run_concat (xs : List Core) (ps : List Point) : (concat xs).run ps = runAll xs ps := by
  rw [concat, run_ofParts, runAll_foldr_prepend, runAll_flatMap_parts]

lemma matchAt_stop {r : Core} {p : Point} (hp : p.trail = []) :
    (r.matchAt p).map (fun found => found.stop.clear) = (r.run [p]).head? := by
  have hone : [p].map clear = [p] := by rw [List.map_singleton, Point.clear_eq hp]
  rw [matchAt, run, hone, Option.map_map, List.head?_map]
  rfl

lemma matchAt_eq_some {r : Core} {p : Point} (hp : p.trail = []) {found : Match} (h : r.matchAt p = some found) :
    found.start = p ∧ (r.run [p]).head? = some found.stop.clear := by
  constructor
  · obtain ⟨q, -, rfl⟩ := Option.map_eq_some_iff.mp h
    rfl
  · rw [← matchAt_stop hp, h]
    rfl

end Core

end TypedPattern.Regex
