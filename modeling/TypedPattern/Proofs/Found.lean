import TypedPattern.Proofs.Matching.Branching
import TypedPattern.Proofs.Pattern.Expression

/-! A match in some mode is a run of the pattern's expression, which records the groups of one branch. -/

namespace TypedPattern

open Pattern (Config Segment Capture Branches)
open Regex (Core Point Match)

namespace Regex

namespace Core

lemma run_closed (r : Core) (ps : List Point) :
    (concat [r, .look .textEnd]).run ps = (r.run ps).filter fun q => q.rest.isEmpty := by
  have hclear : (r.run ps).map Point.clear = r.run ps := clear_run r ps
  rw [run_concat, runAll, runAll_single, run_look, hclear]
  refine List.filter_congr fun q _ => ?_
  cases q.rest <;> rfl

lemma branches_prepend {x : Core} {xs : List Core} (hx : x.branches = [x]) (h : ∀ y ∈ xs, y.branches = [y]) :
    ∀ y ∈ prepend x xs, y.branches = [y] := by
  unfold prepend
  split
  · exact List.forall_mem_cons.mpr ⟨rfl, fun y hy => h y (List.mem_cons_of_mem _ hy)⟩
  · exact List.forall_mem_cons.mpr ⟨hx, h⟩

lemma branches_ofParts {xs : List Core} (h : ∀ x ∈ xs, x.branches = [x]) : (ofParts xs).branches = [ofParts xs] := by
  have hfold : ∀ (ys : List Core) (y : Core), y.branches = [y] → (ys.foldl seq y).branches = [ys.foldl seq y] := by
    intro ys
    induction ys with
    | nil => exact fun y hy => hy
    | cons z zs ih => exact fun y _ => ih (seq y z) rfl
  cases xs with
  | nil => rfl
  | cons x xs => exact hfold xs x (h x List.mem_cons_self)

lemma branches_concat {xs : List Core} (hparts : ∀ x ∈ xs, x.parts = [x]) (h : ∀ x ∈ xs, x.branches = [x]) :
    (concat xs).branches = [concat xs] := by
  have hflat : xs.flatMap parts = xs := by
    rw [List.flatMap_congr hparts]
    exact List.flatMap_singleton' xs
  have hjoin : ∀ ys : List Core, (∀ y ∈ ys, y.branches = [y]) → ∀ y ∈ ys.foldr prepend [], y.branches = [y] := by
    intro ys
    induction ys with
    | nil => exact fun _ y hy => nomatch hy
    | cons z zs ih =>
      exact fun hz => branches_prepend (hz z List.mem_cons_self) (ih fun w hw => hz w (List.mem_cons_of_mem z hw))
  rw [concat, hflat]
  exact branches_ofParts (hjoin xs h)

lemma on_runAll {text : List Char} {xs : List Core} {ps : List Point} (hps : ∀ p ∈ ps, p.On text) :
    ∀ q ∈ runAll xs ps, q.On text := by
  induction xs generalizing ps with
  | nil =>
    intro q hq
    obtain ⟨p, hp, rfl⟩ := List.mem_map.mp hq
    exact (hps p hp).of_spot rfl rfl
  | cons x xs ih => exact ih (on_run hps)

lemma gains_runAll {text : List Char} {xs : List Core} {ps : List Point} {q : Point} (hxs : ∀ x ∈ xs, x.Flat)
    (hps : ∀ p ∈ ps, p.On text) (h : q ∈ runAll xs ps) : ∃ p ∈ ps, Point.Gains text (xs.flatMap indices) p q := by
  induction xs generalizing ps with
  | nil =>
    obtain ⟨p, hp, rfl⟩ := List.mem_map.mp h
    exact ⟨p, hp, rfl, List.suffix_refl _, [], rfl, rfl, fun g hg => nomatch hg⟩
  | cons x xs ih =>
    obtain ⟨o, ho, hrest⟩ := ih (fun y hy => hxs y (List.mem_cons_of_mem x hy)) (on_run hps) h
    obtain ⟨p, hp, hx⟩ := gains_run (hxs x List.mem_cons_self) hps ho
    exact ⟨p, hp, hx.trans hrest⟩

/-- A point of an alternation comes from one of the branches, whose groups it records. -/
lemma gains_alternate {text : List Char} {a b : Core} {p q : Point} (ha : a.Flat) (hb : b.Flat)
    (hdisjoint : ∀ i ∈ a.indices, i ∉ b.indices) (hp : p.On text)
    (h : q ∈ (runAll (lifted a.parts b.parts) [p]).flatMap fun o =>
      runAll (a.parts.drop (lifted a.parts b.parts).length) [o] ++
        runAll (b.parts.drop (lifted a.parts b.parts).length) [o]) :
    Point.Gains text a.indices p q ∨ Point.Gains text b.indices p q := by
  obtain ⟨hleft, hright⟩ := shared_prefix a.parts b.parts
  set front := lifted a.parts b.parts
  have hsplit : ∀ {r : Core}, front <+: r.parts → r.indices = (r.parts.drop front.length).flatMap indices →
      r.Flat → ∀ {o : Point}, o.On text → q ∈ runAll (r.parts.drop front.length) [o] →
        Point.Gains text [] p o → Point.Gains text r.indices p q := by
    intro r _ hindices hr o ho hq hpo
    obtain ⟨o', ho', hgains⟩ := gains_runAll (fun x hx => sequential_flat.parts hr x (List.mem_of_mem_drop hx)) ho.single hq
    obtain rfl := List.mem_singleton.mp ho'
    rw [hindices]
    exact hpo.trans hgains
  -- a group of the common front would be one of both branches
  have hnone : front.flatMap indices = [] := by
    refine List.eq_nil_iff_forall_not_mem.mpr fun i hi => ?_
    obtain ⟨x, hx, hi⟩ := List.mem_flatMap.mp hi
    have hia : i ∈ a.indices := by
      rw [← indices_parts]
      exact List.mem_flatMap.mpr ⟨x, hleft.subset hx, hi⟩
    have hib : i ∈ b.indices := by
      rw [← indices_parts]
      exact List.mem_flatMap.mpr ⟨x, hright.subset hx, hi⟩
    exact hdisjoint i hia hib
  have hdrop : ∀ {r : Core}, front <+: r.parts → r.indices = (r.parts.drop front.length).flatMap indices := by
    rintro r ⟨rest, hrest⟩
    rw [← indices_parts, ← hrest, List.flatMap_append, hnone, List.drop_left]
    rfl
  obtain ⟨o, ho, hq⟩ := List.mem_flatMap.mp h
  have hon := on_runAll hp.single o ho
  obtain ⟨p', hp', hpo⟩ := gains_runAll (fun x hx => sequential_flat.parts ha x (hleft.subset hx)) hp.single ho
  obtain rfl := List.mem_singleton.mp hp'
  rw [hnone] at hpo
  rcases List.mem_append.mp hq with hq | hq
  · exact Or.inl (hsplit hleft (hdrop hleft) ha hon hq hpo)
  · exact Or.inr (hsplit hright (hdrop hright) hb hon hq hpo)

end Core

/-- A point of a text where a match may begin: nothing is chosen and no group has begun. -/
structure Point.Starts (text : List Char) (p : Point) : Prop where
  on : p.On text
  trail : p.trail = []
  opened : p.opened = []
  groups : p.groups = []

lemma Point.starts_ofText (text : List Char) : (Point.ofText text).Starts text :=
  ⟨Point.on_ofText text, rfl, rfl, rfl⟩

lemma Point.starts_of_mem_onwards {text : List Char} {p q : Point} (hp : p.On text) (h : q ∈ p.onwards) :
    q.Starts text := by
  obtain ⟨before, htext, hpos, hprev⟩ := hp
  rw [Point.onwards, hpos, hprev] at h
  obtain ⟨passed, behind, hrest, rfl⟩ := Point.mem_onwards_go.mp h
  refine ⟨?_, rfl, rfl, rfl⟩
  rw [htext, hrest, ← List.append_assoc]
  exact Point.on_fresh

/-- What is found at a point of a text depends on its position alone. -/
def LocalOn (text : List Char) {α : Type} (g : Point → Option α) : Prop :=
  ∀ p q : Point, p.On text → q.On text → p.pos = q.pos → g p = none → g q = none

lemma LocalOn.local {text : List Char} {α : Type} {g : Point → Option α} (h : LocalOn text g) {ps : List Point}
    (hps : ∀ p ∈ ps, p.On text) : Local g ps :=
  fun p hp q hq => h p q (hps p hp) (hps q hq)

end Regex

namespace Matcher

/-- Whether a match in some mode may end at a point. -/
def stops (mode : Mode) (p : Point) : Bool :=
  match mode with
  | .full => p.rest.isEmpty
  | .start => true
  | .stop => p.rest.isEmpty
  | .search => true

variable {types : Registry} {config : Config} {pattern : String} {m : Matcher} {text : List Char} {p q : Point}

lemma localOn_stops (mode : Mode) (text : List Char) : Regex.LocalOn text (Option.guard (stops mode)) := by
  intro p q hp hq hpos hnone
  have hrest : p.rest = q.rest := congrArg Regex.Spot.rest (hp.spot_eq hq hpos)
  have hsame : stops mode p = stops mode q := by
    cases mode <;> simp [stops, hrest]
  rw [Option.guard_eq_none_iff] at hnone ⊢
  rw [← hsame, hnone]

lemma stop_matchAt (h : make types config pattern = .ok m) (mode : Mode) (hp : p.trail = []) :
    ((m.program mode).core.matchAt p).map (fun found => found.stop.clear) =
      (m.bare.core.run [p]).find? (stops mode) := by
  obtain ⟨hb, hc⟩ := make_ok h
  have hclosed : (m.closed.core.matchAt p).map (fun found => found.stop.clear) =
      (m.bare.core.run [p]).find? fun q => q.rest.isEmpty := by
    rw [Core.matchAt_stop hp, (Regex.Program.ofText_enclose hb hc).1, Core.run_closed, List.head?_filter]
  have hbare : (m.bare.core.matchAt p).map (fun found => found.stop.clear) =
      (m.bare.core.run [p]).find? fun _ => true := by
    rw [Core.matchAt_stop hp, ← List.head?_filter, List.filter_true]
  cases mode with
  | full => exact hclosed
  | start => exact hbare
  | stop => exact hclosed
  | search => exact hbare

/-- Where a match begins and ends. -/
structure FoundAt (m : Matcher) (mode : Mode) (text : List Char) (found : Match) (p : Point) : Prop where
  starts : p.Starts text
  start : found.start = p
  stop : (m.bare.core.run [p]).find? (stops mode) = some found.stop.clear

lemma foundAt_of_matchAt (h : make types config pattern = .ok m) (mode : Mode) {found : Match} (hp : p.Starts text)
    (hf : (m.program mode).core.matchAt p = some found) : m.FoundAt mode text found p := by
  refine ⟨hp, (Core.matchAt_eq_some hp.trail hf).1, ?_⟩
  rw [← stop_matchAt h mode hp.trail, hf]
  rfl

lemma foundAt_of_search (h : make types config pattern = .ok m) (mode : Mode) {found : Match} (hp : p.On text)
    (hf : (m.program mode).core.search p = some found) : ∃ q, m.FoundAt mode text found q := by
  obtain ⟨q, hq, hf⟩ := List.exists_of_findSome?_eq_some hf
  exact ⟨q, foundAt_of_matchAt h mode (Point.starts_of_mem_onwards hp hq) hf⟩

lemma FoundAt.on {mode : Mode} {found : Match} (hf : m.FoundAt mode text found p) : found.stop.On text := by
  have hmem : found.stop.clear ∈ m.bare.core.run [p] := List.mem_of_find?_eq_some hf.stop
  have hon : found.stop.clear.On text := Core.on_run hf.starts.on.single _ hmem
  exact hon.of_spot rfl rfl

lemma exists_foundAt (h : make types config pattern = .ok m) {mode : Mode} {found : Match}
    (hf : m.find? mode text = some found) : ∃ p, m.FoundAt mode text found p := by
  have hstart := Point.starts_ofText text
  cases mode with
  | full => exact ⟨_, foundAt_of_matchAt h _ hstart hf⟩
  | start => exact ⟨_, foundAt_of_matchAt h _ hstart hf⟩
  | stop => exact foundAt_of_search h _ hstart.on hf
  | search => exact foundAt_of_search h _ hstart.on hf

lemma foundAt_of_searchAfter (h : make types config pattern = .ok m) {found : Match} (hp : p.On text)
    (hf : m.bare.core.searchAfter p = some found) : ∃ q, m.FoundAt .search text found q := by
  unfold Core.searchAfter at hf
  split at hf
  · cases hf
  · rename_i first hfirst
    split at hf
    · obtain ⟨q, hq, hf⟩ := List.exists_of_findSome?_eq_some hf
      exact ⟨q, foundAt_of_matchAt h .search (Point.starts_of_mem_onwards hp (List.mem_of_mem_tail hq)) hf⟩
    · obtain rfl := Option.some.inj hf
      exact foundAt_of_search h .search hp hfirst

lemma foundAt_of_mem_matchesAfter (h : make types config pattern = .ok m) {fuel : Nat} (hp : p.On text) {found : Match}
    (hf : found ∈ m.bare.core.matchesAfter fuel p) : ∃ q, m.FoundAt .search text found q := by
  induction fuel generalizing p with
  | zero => cases hf
  | succ k ih =>
    rw [Core.matchesAfter] at hf
    split at hf
    · cases hf
    · rename_i first hfirst
      obtain ⟨q, hq⟩ := foundAt_of_searchAfter h hp hfirst
      rcases List.mem_cons.mp hf with rfl | hf
      · exact ⟨q, hq⟩
      · exact ih hq.on hf

lemma foundAt_of_mem_searchAll (h : make types config pattern = .ok m) {found : Match}
    (hf : found ∈ m.bare.core.searchAll text) : ∃ p, m.FoundAt .search text found p := by
  rw [Core.searchAll] at hf
  split at hf
  · cases hf
  · rename_i first hfirst
    obtain ⟨q, hq⟩ := foundAt_of_search h .search (Point.on_ofText text) hfirst
    rcases List.mem_cons.mp hf with rfl | hf
    · exact ⟨q, hq⟩
    · exact foundAt_of_mem_matchesAfter h hq.on hf

end Matcher

namespace Pattern

variable {caseInsensitive flexible : Bool} {segments : List (Segment Capture)}

lemma Constraint.indices_core (caseInsensitive : Bool) (k : Constraint) : (k.core caseInsensitive).indices = [] := by
  unfold Constraint.core
  cases h : k.tree.meaning caseInsensitive with
  | error e => rfl
  | ok r =>
    obtain ⟨⟨q, y⟩, hq, rfl⟩ := Regex.map_eq_ok.mp h
    exact (Regex.Meaning.expression_next _ k.tree_captures hq).2.1

lemma indices_literalCore (c : Char) : (literalCore caseInsensitive flexible c).indices = [] :=
  List.subset_nil.mp (structural_literalCore (Core.structural_indices []) c)

lemma branches_cores : ∀ r ∈ segments.flatMap (Segment.cores caseInsensitive flexible), r.branches = [r] := by
  refine forall_cores (fun c => ?_) (fun w => ?_) fun g _ => rfl
  · rcases literalCore_cases caseInsensitive flexible c with ⟨cs, h⟩ | ⟨s, h⟩ | ⟨body, h⟩ <;> rw [h] <;> rfl
  · cases w <;> rfl

lemma flat_cores : ∀ r ∈ segments.flatMap (Segment.cores caseInsensitive flexible), r.Flat := by
  refine forall_cores (fun c => ?_) (fun w => ?_) fun g _ => g.constraint.indices_core caseInsensitive
  · exact Core.flat_of_indices (indices_literalCore c)
  · exact Core.flat_of_indices (List.subset_nil.mp (structural_wildcard (Core.structural_indices []) w))

lemma indices_cores (segments : List (Segment Capture)) :
    (segments.flatMap (Segment.cores caseInsensitive flexible)).flatMap Core.indices =
      (Segment.groups segments).map (·.order) := by
  induction segments with
  | nil => rfl
  | cons s rest ih =>
    rw [List.flatMap_cons, List.flatMap_append, ih]
    cases s with
    | literal text =>
      have hnone : (text.map (literalCore caseInsensitive flexible)).flatMap Core.indices = [] := by
        refine List.flatMap_eq_nil_iff.mpr fun r hr => ?_
        obtain ⟨c, -, rfl⟩ := List.mem_map.mp hr
        exact indices_literalCore c
      rw [Segment.cores, hnone]
      rfl
    | wildcard w => cases w <;> rfl
    | group c =>
      rw [Segment.cores, List.flatMap_singleton, Capture.core, Core.indices, Constraint.indices_core]
      rfl

lemma indices_branchCore (segments : List (Segment Capture)) :
    (branchCore caseInsensitive flexible segments).indices = (Segment.groups segments).map (·.order) := by
  rw [branchCore, Core.indices_concat, indices_cores]

lemma flat_branchCore (segments : List (Segment Capture)) : (branchCore caseInsensitive flexible segments).Flat :=
  Core.sequential_flat.concat flat_cores

lemma branches_branchCore (segments : List (Segment Capture)) :
    (branchCore caseInsensitive flexible segments).branches = [branchCore caseInsensitive flexible segments] :=
  Core.branches_concat parts_cores branches_cores

/-- A run of a pattern's expression records the groups of one branch, all of them. -/
theorem gains_core {text : List Char} {b : Branches (List (Segment Capture))} (ho : b.Ordered) {p q : Point}
    (hp : p.Starts text) {f : Point → Bool} (hf : Regex.LocalOn text (Option.guard f))
    (h : ((b.core caseInsensitive flexible).run [p]).find? f = some q) : ∃ segments ∈ b.toList,
      Point.Gains text ((Segment.groups segments).map (·.order)) p q := by
  cases b with
  | one only =>
    have hq := List.mem_of_find?_eq_some h
    obtain ⟨p', hp', hgains⟩ := Core.gains_run (flat_branchCore only) hp.on.single hq
    obtain rfl := List.mem_singleton.mp hp'
    rw [indices_branchCore] at hgains
    exact ⟨only, List.mem_singleton_self only, hgains⟩
  | two left right =>
    obtain ⟨hleft, hright⟩ := ho
    have hagree := Core.agree_alternate (@branches_branchCore caseInsensitive flexible left)
      (@branches_branchCore caseInsensitive flexible right) p
    rw [Branches.core, List.find?_eq_findSome?_guard, hagree.findSome? (hf.local (Core.on_run hp.on.single)) (hf.local ?_),
      ← List.find?_eq_findSome?_guard] at h
    · have hgains := Core.gains_alternate (flat_branchCore left) (flat_branchCore right) ?_ hp.on
        (List.mem_of_find?_eq_some h)
      · rw [indices_branchCore, indices_branchCore] at hgains
        rcases hgains with hgains | hgains
        · exact ⟨left, List.mem_cons_self, hgains⟩
        · exact ⟨right, List.mem_cons_of_mem _ (List.mem_singleton_self right), hgains⟩
      · intro i hi hi'
        rw [indices_branchCore, hleft, List.mem_range'_1] at hi
        rw [indices_branchCore, hright, List.mem_range'_1] at hi'
        omega
    · intro q hq
      obtain ⟨o, ho, hq⟩ := List.mem_flatMap.mp hq
      have hon := (Core.on_runAll hp.on.single o ho).single
      rcases List.mem_append.mp hq with hq | hq
      · exact Core.on_runAll hon q hq
      · exact Core.on_runAll hon q hq

end Pattern

end TypedPattern
