import TypedPattern.Proofs.Matching.Run
import TypedPattern.Proofs.Matching.Sightless

/-! Without assertions a part does the same farther on in a longer text. -/

namespace TypedPattern

namespace Text.ByteSpan

/-- The span that lies some bytes farther on. -/
def slide (n : Nat) (s : ByteSpan) : ByteSpan :=
  ⟨s.start + n, s.stop + n⟩

end Text.ByteSpan

namespace Regex

/-- The point with more text before it: so many bytes, of which the last character is given. -/
def Point.slide (n : Nat) (prev : Option Char) (p : Point) : Point :=
  { p with
    pos := p.pos + n
    prev := p.prev.or prev
    opened := p.opened.map fun o => (o.1, o.2 + n)
    groups := p.groups.map fun g => (g.1, g.2.slide n) }

namespace Point

variable {n : Nat} {prev : Option Char} {p : Point}

@[simp] lemma pos_slide : (p.slide n prev).pos = p.pos + n := rfl

@[simp] lemma rest_slide : (p.slide n prev).rest = p.rest := rfl

@[simp] lemma trail_slide : (p.slide n prev).trail = p.trail := rfl

lemma mark_slide (choice : Path) : (p.slide n prev).mark choice = (p.mark choice).slide n prev := rfl

lemma begin_slide (index : Nat) : (p.slide n prev).begin index = (p.begin index).slide n prev := rfl

lemma clear_slide : (p.slide n prev).clear = p.clear.slide n prev := rfl

lemma finish_slide : (p.slide n prev).finish = p.finish.slide n prev := by
  rcases p with ⟨pos, before, rest, trail, _ | ⟨o, opened⟩, groups⟩ <;> rfl

lemma next?_slide (accepts : Char → Bool) :
    (p.slide n prev).next? accepts = (p.next? accepts).map (slide n prev) := by
  unfold next?
  rw [rest_slide]
  cases p.rest with
  | nil => rfl
  | cons c rest =>
    dsimp only
    split
    · rw [Option.map_some, slide, slide, Nat.add_right_comm]
      rfl
    · rfl

lemma literal?_slide (cs : List Char) : (p.slide n prev).literal? cs = (p.literal? cs).map (slide n prev) := by
  induction cs generalizing p with
  | nil => rfl
  | cons c cs ih =>
    rw [literal?, literal?, next?_slide]
    cases p.next? (· == c) with
    | none => rfl
    | some q => exact ih

lemma fresh_eq_slide (n : Nat) (prev : Option Char) (rest : List Char) :
    fresh n prev rest = (ofText rest).slide n prev := by
  rw [slide, ofText, fresh, fresh, Nat.zero_add]
  rfl

end Point

variable {n : Nat} {prev : Option Char}

def Slides (n : Nat) (prev : Option Char) (f : List Point → List Point) : Prop :=
  ∀ ps, f (ps.map (Point.slide n prev)) = (f ps).map (Point.slide n prev)

lemma Slides.single {f : List Point → List Point} (h : Slides n prev f) (p : Point) :
    f [p.slide n prev] = (f [p]).map (Point.slide n prev) :=
  h [p]

lemma shiftLeft_visit (mask pos n : Nat) : (mask ||| 1 <<< pos) <<< n = mask <<< n ||| 1 <<< (pos + n) := by
  rw [Nat.shiftLeft_or_distrib, Nat.shiftLeft_add]

lemma testBit_slide (mask pos n : Nat) : (mask <<< n).testBit (pos + n) = mask.testBit pos := by
  rw [Nat.testBit_shiftLeft, decide_eq_true (Nat.le_add_left n pos), Bool.true_and, Nat.add_sub_cancel]

lemma distinct_go_slide (seen : Nat) (ps : List Point) :
    distinct.go (seen <<< n) (ps.map (Point.slide n prev)) = (distinct.go seen ps).map (Point.slide n prev) := by
  induction ps generalizing seen with
  | nil => rfl
  | cons p ps ih =>
    rw [List.map_cons, distinct.go, distinct.go, Point.pos_slide, testBit_slide, ← shiftLeft_visit]
    split
    · exact ih seen
    · rw [ih, List.map_cons]

lemma slides_distinct : Slides n prev distinct := by
  intro ps
  have h := @distinct_go_slide n prev 0 ps
  rwa [Nat.zero_shiftLeft] at h

namespace Tour

def slide (n : Nat) (prev : Option Char) (t : Tour) : Tour :=
  ⟨t.masks.map (· <<< n), t.found.map (Point.slide n prev)⟩

lemma headD_slide (masks : List Nat) : (masks.map (· <<< n)).headD 0 = (masks.headD 0) <<< n := by
  cases masks with
  | nil => exact (Nat.zero_shiftLeft n).symm
  | cons mask masks => rfl

lemma visited_slide (t : Tour) (pos : Nat) : (t.slide n prev).visited (pos + n) = t.visited pos := by
  rw [visited, visited, slide, headD_slide, testBit_slide]

lemma visit_slide (t : Tour) (pos : Nat) : (t.slide n prev).visit (pos + n) = (t.visit pos).slide n prev := by
  have htail : (t.slide n prev).masks.tail = t.masks.tail.map (· <<< n) := List.map_tail.symm
  have hhead : (t.slide n prev).masks.headD 0 = (t.masks.headD 0) <<< n := headD_slide t.masks
  rw [visit, visit, htail, hhead, ← shiftLeft_visit]
  rfl

lemma add_slide (t : Tour) (p : Point) : (t.slide n prev).add (p.slide n prev) = (t.add p).slide n prev := rfl

lemma below_slide {f g : Tour → Tour} (hfg : ∀ t, f (t.slide n prev) = (g t).slide n prev) (t : Tour) :
    (t.slide n prev).below f = (t.below g).slide n prev := by
  have htail : (⟨(t.slide n prev).masks.tail, (t.slide n prev).found⟩ : Tour) =
      (⟨t.masks.tail, t.found⟩ : Tour).slide n prev := by
    rw [slide, slide, List.map_tail]
  have hhead : (t.slide n prev).masks.headD 0 = (t.masks.headD 0) <<< n := headD_slide t.masks
  rw [below, below, htail, hfg, hhead]
  rfl

lemma points_slide (t : Tour) : (t.slide n prev).points = t.points.map (Point.slide n prev) := by
  have hreverse : (t.slide n prev).found.reverse = t.found.reverse.map (Point.slide n prev) :=
    List.map_reverse.symm
  rw [points, hreverse, slides_distinct, points]

lemma foldl_slide {f : Tour → Point → Tour}
    (hf : ∀ t p, f (t.slide n prev) (p.slide n prev) = (f t p).slide n prev) (ps : List Point) (t : Tour) :
    (ps.map (Point.slide n prev)).foldl f (t.slide n prev) = (ps.foldl f t).slide n prev := by
  induction ps generalizing t with
  | nil => rfl
  | cons p ps ih => rw [List.map_cons, List.foldl_cons, List.foldl_cons, hf, ih]

end Tour

section Repeats

lemma laps_slide {step : List Point → List Point} (hstep : Slides n prev step) (choice : Path) (greedy : Bool)
    (k : Nat) (t : Tour) (p : Point) :
    laps step choice greedy k (p.slide n prev) (t.slide n prev) = (laps step choice greedy k p t).slide n prev := by
  induction k generalizing p t with
  | zero => rfl
  | succ k ih =>
    rw [laps, laps, Point.pos_slide, Point.trail_slide, Tour.visited_slide, Point.mark_slide]
    split
    · rfl
    · dsimp only
      rw [hstep.single, Tour.visit_slide]
      cases greedy with
      | true =>
        rw [if_pos rfl, if_pos rfl, Tour.foldl_slide fun t p => ih t p]
        exact Tour.add_slide _ _
      | false =>
        rw [if_neg Bool.false_ne_true, if_neg Bool.false_ne_true, Tour.add_slide]
        exact Tour.foldl_slide (fun t p => ih t p) _ _

lemma slides_allLaps {step : List Point → List Point} (hstep : Slides n prev step) (choice : Path) (greedy : Bool) :
    Slides n prev (allLaps step choice greedy) := by
  intro ps
  have hfold := Tour.foldl_slide (f := fun t p => laps step choice greedy (p.rest.length + 1) p t)
    (fun t p => laps_slide hstep choice greedy _ t p) ps .empty
  have hempty : Tour.empty.slide n prev = Tour.empty := rfl
  rw [hempty] at hfold
  rw [allLaps, hfold, Tour.points_slide, allLaps]

variable {step : Nat → List Point → List Point} (hstep : ∀ i, Slides n prev (step i))

include hstep

lemma slides_copies (count level : Nat) : Slides n prev (copies step count level) := by
  induction count generalizing level with
  | zero => exact fun ps => rfl
  | succ count ih => exact fun ps => by rw [copies, hstep, ih, copies]

lemma options_slide (choice : Nat → Path) (greedy : Bool) (count level : Nat) (t : Tour) (p : Point) :
    options step choice greedy count level (p.slide n prev) (t.slide n prev) =
      (options step choice greedy count level p t).slide n prev := by
  induction count generalizing level p t with
  | zero => rfl
  | succ count ih =>
    rw [options, options, Point.pos_slide, Point.trail_slide, Tour.visited_slide, Point.mark_slide]
    split
    · rfl
    · dsimp only
      rw [(hstep level).single, Tour.visit_slide]
      refine Tour.below_slide (fun t => ?_) _
      cases greedy with
      | true =>
        rw [if_pos rfl, if_pos rfl, Tour.foldl_slide fun t p => ih (level + 1) t p]
        exact Tour.add_slide _ _
      | false =>
        rw [if_neg Bool.false_ne_true, if_neg Bool.false_ne_true, Tour.add_slide]
        exact Tour.foldl_slide (fun t p => ih (level + 1) t p) _ _

lemma slides_repeats (choice : Nat → Path) (nullable : Bool) (min : Nat) (more : Option Nat) (greedy : Bool) :
    Slides n prev (repeats step choice nullable min more greedy) := by
  intro ps
  cases more with
  | some more =>
    have hfold := Tour.foldl_slide (f := fun t p => options step choice greedy more min p t)
      (fun t p => options_slide hstep choice greedy more min t p) (copies step min 0 ps) .empty
    have hempty : Tour.empty.slide n prev = Tour.empty := rfl
    rw [hempty] at hfold
    rw [repeats, repeats, slides_copies hstep, hfold, Tour.points_slide]
  | none =>
    cases min with
    | zero =>
      cases nullable with
      | false => exact slides_allLaps (hstep 0) _ _ ps
      | true =>
        have hone : ∀ p : Point, lapsOrNone (step 0) (choice 1) (choice 0) greedy (p.slide n prev) =
            (lapsOrNone (step 0) (choice 1) (choice 0) greedy p).map (Point.slide n prev) := by
          intro p
          rw [lapsOrNone, lapsOrNone, Point.trail_slide, Point.mark_slide]
          split
          · rfl
          · dsimp only
            rw [(hstep 0).single, slides_allLaps (hstep 0)]
            cases greedy with
            | true =>
              rw [if_pos rfl, if_pos rfl]
              rw [List.map_append, List.map_singleton]
            | false => rfl
        rw [repeats, repeats]
        simp only [if_true]
        rw [List.flatMap_map, ← slides_distinct, List.map_flatMap]
        simp only [hone]
    | succ k =>
      rw [repeats, repeats, slides_copies hstep, slides_allLaps (hstep k)]

end Repeats

namespace Core

/-- Without assertions an expression leads to the same points farther on. -/
theorem slides_ends {r : Core} (h : r.sightless = true) (path : Path) : Slides n prev (r.ends path) := by
  induction r generalizing path with
  | empty => exact fun ps => rfl
  | literal cs =>
    intro ps
    rw [ends, List.filterMap_map, ends, List.map_filterMap]
    exact List.filterMap_congr fun p _ => Point.literal?_slide cs
  | chars s =>
    intro ps
    rw [ends, List.filterMap_map, ends, List.map_filterMap]
    exact List.filterMap_congr fun p _ => Point.next?_slide s.contains
  | look l => cases h
  | capture index body ih =>
    intro ps
    have hbegin : (ps.map (Point.slide n prev)).map (·.begin index) =
        (ps.map (·.begin index)).map (Point.slide n prev) := by
      rw [List.map_map, List.map_map]
      exact List.map_congr_left fun p _ => Point.begin_slide index
    rw [ends, hbegin, ih h, ends, List.map_map, List.map_map]
    exact List.map_congr_left fun p _ => Point.finish_slide
  | seq a b iha ihb =>
    obtain ⟨ha, hb⟩ := (Bool.and_eq_true _ _).mp h
    intro ps
    rw [ends, iha ha, ihb hb, ends]
  | alt a b iha ihb =>
    obtain ⟨ha, hb⟩ := (Bool.and_eq_true _ _).mp h
    intro ps
    rw [ends, ends, ← slides_distinct, List.filter_map, List.flatMap_map, List.map_flatMap]
    congr 1
    refine List.flatMap_congr fun p _ => ?_
    rw [Point.mark_slide, (iha ha (0 :: path)).single, (ihb hb (1 :: path)).single, List.map_append]
  | repetition min more greedy body ih =>
    exact slides_repeats (fun i => ih h (2 * i :: path)) _ _ _ _ _

lemma run_slide {r : Core} (h : r.sightless = true) (ps : List Point) :
    r.run (ps.map (Point.slide n prev)) = (r.run ps).map (Point.slide n prev) := by
  have hclear : (ps.map (Point.slide n prev)).map Point.clear = (ps.map Point.clear).map (Point.slide n prev) := by
    rw [List.map_map, List.map_map]
    exact List.map_congr_left fun p _ => Point.clear_slide
  rw [run, hclear, slides_ends h, run, List.map_map, List.map_map]
  rfl

end Core

end Regex

end TypedPattern
