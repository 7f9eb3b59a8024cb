import TypedPattern.Proofs.Result
import TypedPattern.Proofs.Matching.Passage

/-! Where the groups of a match lie: one behind the other, each at a text that its expression leads past. -/

namespace TypedPattern

open Pattern (Branches Capture Config Segment)
open Regex (Core Crosses CrossesAll Match Point Spot Stretch)
open Text (ByteSpan)

/-- Spans one behind the other, between two positions. -/
def InOrder : Nat → List ByteSpan → Nat → Prop
  | a, [], b => a ≤ b
  | a, s :: spans, b => a ≤ s.start ∧ s.start ≤ s.stop ∧ InOrder s.stop spans b

namespace InOrder

variable {a b c d : Nat} {spans : List ByteSpan}

lemma le (h : InOrder a spans b) : a ≤ b := by
  induction spans generalizing a with
  | nil => exact h
  | cons s spans ih =>
    obtain ⟨hstart, hstop, h⟩ := h
    exact (hstart.trans hstop).trans (ih h)

lemma widen (h : InOrder b spans c) (hb : a ≤ b) (hc : c ≤ d) : InOrder a spans d := by
  induction spans generalizing a b with
  | nil => exact (hb.trans h).trans hc
  | cons s spans ih =>
    obtain ⟨hstart, hstop, h⟩ := h
    exact ⟨hb.trans hstart, hstop, ih h (Nat.le_refl _)⟩

lemma append {more : List ByteSpan} (h : InOrder a spans b) (h' : InOrder b more c) : InOrder a (spans ++ more) c := by
  induction spans generalizing a with
  | nil => exact h'.widen h (Nat.le_refl c)
  | cons s spans ih =>
    obtain ⟨hstart, hstop, h⟩ := h
    exact ⟨hstart, hstop, ih h⟩

lemma bounds (h : InOrder a spans b) : ∀ s ∈ spans, a ≤ s.start ∧ s.start ≤ s.stop ∧ s.stop ≤ b := by
  induction spans generalizing a with
  | nil => exact fun s hs => absurd hs List.not_mem_nil
  | cons s spans ih =>
    obtain ⟨hstart, hstop, h⟩ := h
    refine List.forall_mem_cons.mpr ⟨⟨hstart, hstop, h.le⟩, fun t ht => ?_⟩
    obtain ⟨ht, ht', hb⟩ := ih h t ht
    exact ⟨(hstart.trans hstop).trans ht, ht', hb⟩

lemma pairwise (h : InOrder a spans b) : spans.Pairwise fun s t => s.stop ≤ t.start := by
  induction spans generalizing a with
  | nil => exact .nil
  | cons s spans ih => exact .cons (fun t ht => (h.2.2.bounds t ht).1) (ih h.2.2)

lemma pairwise_spanLe (h : InOrder a spans b) : spans.Pairwise fun s t => Edit.spanLe s t := by
  refine h.pairwise.imp_of_mem fun {s t} hs ht hst => ?_
  have hstop := (h.bounds s hs).2.1
  have hstop' := (h.bounds t ht).2.1
  simp only [Edit.spanLe, Bool.or_eq_true, Bool.and_eq_true, decide_eq_true_eq, beq_iff_eq]
  omega

lemma mergeSort_eq (h : InOrder a spans b) : spans.mergeSort Edit.spanLe = spans :=
  List.mergeSort_of_pairwise h.pairwise_spanLe

end InOrder

namespace Taken

/-- The text of a group is the one at its place, which its expression leads past. -/
structure Stands (text : List Char) (caseInsensitive : Bool) (t : Taken) : Prop where
  stretch : Stretch text t.span t.raw.toList
  leads : ∃ s u : Spot, s.rest = t.raw.toList ++ u.rest ∧ (t.group.constraint.core caseInsensitive).Leads s u

end Taken

namespace Pattern

variable {caseInsensitive flexible : Bool} {p q : Point} {text : List Char}

/-- Groups that a run has recorded between two points, each in its place. -/
structure Recorded (text : List Char) (caseInsensitive : Bool) (p q : Point) (parts : List Taken) : Prop where
  on : q.On text
  opened : q.opened = p.opened
  groups : q.groups = (parts.map fun t => (t.group.order, t.span)).reverse ++ p.groups
  inOrder : InOrder p.pos (parts.map Taken.span) q.pos
  stands : ∀ t ∈ parts, t.Stands text caseInsensitive

lemma Recorded.append {o : Point} {parts more : List Taken} (h : Recorded text caseInsensitive p o parts)
    (h' : Recorded text caseInsensitive o q more) : Recorded text caseInsensitive p q (parts ++ more) where
  on := h'.on
  opened := h'.opened.trans h.opened
  groups := by rw [h'.groups, h.groups, List.map_append, List.reverse_append, List.append_assoc]
  inOrder := by
    rw [List.map_append]
    exact h.inOrder.append h'.inOrder
  stands := List.forall_mem_append.mpr ⟨h.stands, h'.stands⟩

lemma recorded_none {r : Core} (hr : r.indices = []) (hp : p.On text) (h : Crosses r p q) :
    Recorded text caseInsensitive p q [] := by
  obtain ⟨hgroups, hopened⟩ := h.keeps hr
  exact ⟨h.on hp, hopened, hgroups, h.pos_le hp, fun t ht => absurd ht List.not_mem_nil⟩

lemma recorded_noneAll {rs : List Core} (hr : ∀ r ∈ rs, r.indices = []) (hp : p.On text) (h : CrossesAll rs p q) :
    Recorded text caseInsensitive p q [] := by
  induction rs generalizing p with
  | nil =>
    obtain rfl : p = q := h
    exact ⟨hp, rfl, rfl, Nat.le_refl _, fun t ht => absurd ht List.not_mem_nil⟩
  | cons r rs ih =>
    obtain ⟨o, ho, h⟩ := h
    have hfirst : Recorded text caseInsensitive p o [] := recorded_none (hr r List.mem_cons_self) hp ho
    exact hfirst.append (ih (fun r hmem => hr r (List.mem_cons_of_mem _ hmem)) hfirst.on h)

lemma recorded_group {c : Capture} (hp : p.On text) (h : Crosses (c.core caseInsensitive) p q) :
    ∃ t : Taken, t.group = c ∧ t.span = ⟨p.pos, q.pos⟩ ∧ p.rest = t.raw.toList ++ q.rest ∧
      Recorded text caseInsensitive p q [t] := by
  obtain ⟨o, hbody, rfl⟩ := Regex.crosses_capture.mp h
  have hbegun : (p.begin c.order).On text := hp.begin c.order
  obtain ⟨hgroups, hopened⟩ := hbody.keeps (Constraint.indices_core _ _)
  obtain ⟨raw, hrest, hstretch⟩ := hp.stretch (hbody.on hbegun) hbody.suffix
  have hfinish : o.finish = { o with opened := p.opened, groups := (c.order, ⟨p.pos, o.pos⟩) :: p.groups } := by
    have hopened : o.opened = (c.order, p.pos) :: p.opened := hopened
    rw [Point.finish, hopened]
    exact congrArg (fun gs => { o with opened := p.opened, groups := (c.order, ⟨p.pos, o.pos⟩) :: gs }) hgroups
  have hle : p.pos ≤ o.pos := hbody.pos_le hbegun
  refine ⟨⟨c, ⟨p.pos, o.pos⟩, String.ofList raw⟩, rfl, ?_, ?_, (hbody.on hbegun).finish, ?_, ?_, ?_, ?_⟩
  · rw [Point.pos_finish]
  · rw [String.toList_ofList, hfinish]
    exact hrest
  · rw [hfinish]
  · rw [hfinish]
    rfl
  · rw [hfinish]
    exact ⟨Nat.le_refl _, hle, Nat.le_refl _⟩
  · refine List.forall_mem_singleton.mpr ⟨?_, p.spot, o.spot, ?_, hbody.leads⟩
    · rw [String.toList_ofList]
      exact hstretch
    · rw [String.toList_ofList]
      exact hrest

lemma recorded_segment {s : Segment Capture} (hp : p.On text)
    (h : CrossesAll (s.cores caseInsensitive flexible) p q) : ∃ parts : List Taken,
      parts.map Taken.group = Segment.groups [s] ∧ Recorded text caseInsensitive p q parts := by
  cases s with
  | literal cs =>
    refine ⟨[], rfl, recorded_noneAll (fun r hr => ?_) hp h⟩
    obtain ⟨c, -, rfl⟩ := List.mem_map.mp hr
    exact indices_literalCore c
  | wildcard w =>
    refine ⟨[], rfl, recorded_noneAll (fun r hr => ?_) hp h⟩
    obtain rfl := List.mem_singleton.mp hr
    cases w <;> rfl
  | group c =>
    obtain ⟨o, ho, rfl⟩ := h
    obtain ⟨t, rfl, -, -, ht⟩ := recorded_group hp ho
    exact ⟨[t], rfl, ht⟩

lemma recorded_segments {segments : List (Segment Capture)} (hp : p.On text)
    (h : CrossesAll (segments.flatMap (Segment.cores caseInsensitive flexible)) p q) :
    ∃ parts : List Taken, parts.map Taken.group = Segment.groups segments ∧
      Recorded text caseInsensitive p q parts := by
  induction segments generalizing p with
  | nil => exact ⟨[], rfl, @recorded_noneAll _ _ _ _ [] (fun r hr => absurd hr List.not_mem_nil) hp h⟩
  | cons s rest ih =>
    obtain ⟨o, ho, h⟩ := Regex.crossesAll_append.mp h
    obtain ⟨parts, hparts, hfirst⟩ := recorded_segment hp ho
    obtain ⟨more, hmore, hrest⟩ := ih hfirst.on h
    refine ⟨parts ++ more, ?_, hfirst.append hrest⟩
    rw [List.map_append, hparts, hmore]
    exact (@List.filterMap_append _ _ [s] rest _).symm

lemma crosses_side {segments : List (Segment Capture)} {front : List Core} {o : Point}
    (hbegins : front <+: (branchCore caseInsensitive flexible segments).parts) (hfront : CrossesAll front p o)
    (hclear : o.clear = o)
    (hq : q ∈ Core.runAll ((branchCore caseInsensitive flexible segments).parts.drop front.length) [o]) :
    CrossesAll (segments.flatMap (Segment.cores caseInsensitive flexible)) p q := by
  obtain ⟨rest, hrest⟩ := hbegins
  rw [← hrest, List.drop_left] at hq
  obtain ⟨o', ho', hback⟩ := Regex.crossesAll_of_mem_runAll hq
  obtain rfl := List.mem_singleton.mp ho'
  rw [hclear] at hback
  have hcross := Regex.crosses_of_parts (hrest ▸ Regex.crossesAll_append.mpr ⟨o', hfront, hback⟩)
  exact Regex.crossesAll_of_concat hcross

lemma crosses_core {b : Branches (List (Segment Capture))} (hp : p.Starts text) {f : Point → Bool}
    (hf : Regex.LocalOn text (Option.guard f))
    (h : ((b.core caseInsensitive flexible).run [p]).find? f = some q) : ∃ segments ∈ b.toList,
      CrossesAll (segments.flatMap (Segment.cores caseInsensitive flexible)) p q := by
  have hclear : p.clear = p := Point.clear_eq hp.trail
  cases b with
  | one only =>
    have hq := List.mem_of_find?_eq_some h
    rw [Branches.core, branchCore, Core.run_concat] at hq
    obtain ⟨p', hp', hcross⟩ := Regex.crossesAll_of_mem_runAll hq
    obtain rfl := List.mem_singleton.mp hp'
    exact ⟨only, List.mem_singleton_self only, hclear ▸ hcross⟩
  | two left right =>
    have hagree := Core.agree_alternate (@branches_branchCore caseInsensitive flexible left)
      (@branches_branchCore caseInsensitive flexible right) p
    obtain ⟨hleft, hright⟩ := Core.shared_prefix (branchCore caseInsensitive flexible left).parts
      (branchCore caseInsensitive flexible right).parts
    set front := Core.lifted (branchCore caseInsensitive flexible left).parts
      (branchCore caseInsensitive flexible right).parts
    rw [Branches.core, List.find?_eq_findSome?_guard, hagree.findSome? (hf.local (Core.on_run hp.on.single)) (hf.local ?_),
      ← List.find?_eq_findSome?_guard] at h
    · obtain ⟨o, ho, hq⟩ := List.mem_flatMap.mp (List.mem_of_find?_eq_some h)
      obtain ⟨p', hp', hfront⟩ := Regex.crossesAll_of_mem_runAll ho
      obtain rfl := List.mem_singleton.mp hp'
      rw [hclear] at hfront
      have hrest := Regex.clear_of_mem_runAll ho
      rcases List.mem_append.mp hq with hq | hq
      · exact ⟨left, List.mem_cons_self, crosses_side hleft hfront hrest hq⟩
      · exact ⟨right, List.mem_cons_of_mem _ (List.mem_singleton_self right), crosses_side hright hfront hrest hq⟩
    · intro q hq
      obtain ⟨o, ho, hq⟩ := List.mem_flatMap.mp hq
      have hon := (Core.on_runAll hp.on.single o ho).single
      rcases List.mem_append.mp hq with hq | hq
      · exact Core.on_runAll hon q hq
      · exact Core.on_runAll hon q hq

end Pattern

namespace Matcher

variable {types : Registry} {config : Config} {pattern : String} {m : Matcher}

/-- A match records the groups of one branch in their order, and its result is what they come to. -/
theorem exists_recorded (h : make types config pattern = .ok m) (hl : m.compiled.Legible) {mode : Mode}
    {haystack : String} {found : Match} {p : Point} (hf : m.FoundAt mode haystack.toList found p) :
    ∃ before branch behind parts, m.compiled.branches.toList = before ++ branch :: behind ∧
      parts.map Taken.group = Segment.groups branch ∧
      Pattern.Recorded haystack.toList (!config.caseSensitive) p found.stop.clear parts ∧
      Gives haystack (before.flatMap Segment.groups) (behind.flatMap Segment.groups) parts
        (m.resultOf (m.program mode) haystack found) := by
  obtain ⟨hcore, -, -⟩ := bare_of_make h hl
  have hstop := hf.stop
  rw [hcore] at hstop
  obtain ⟨branch, hbranch, hcross⟩ := Pattern.crosses_core hf.starts (localOn_stops mode _) hstop
  obtain ⟨before, behind, hsplit⟩ := List.append_of_mem hbranch
  obtain ⟨parts, hparts, hrecorded⟩ := Pattern.recorded_segments hf.starts.on hcross
  have hgroups : found.stop.groups = (parts.map fun t => (t.group.order, t.span)).reverse := by
    have hgroups : found.stop.groups = _ := hrecorded.groups
    rwa [hf.starts.groups, List.append_nil] at hgroups
  exact ⟨before, branch, behind, parts, hsplit, hparts, hrecorded,
    gives_of_recorded hgroups h hl mode hsplit hparts fun t ht => (hrecorded.stands t ht).stretch⟩

end Matcher

end TypedPattern
