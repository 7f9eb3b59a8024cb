import TypedPattern.Proofs.Pattern.Joining
import TypedPattern.Proofs.Building
import TypedPattern.Proofs.Result

/-! Two patterns with a bar between them answer as the first one does, or else as the second one. -/

namespace TypedPattern

open Pattern (Branches Capture Compiled Config Segment)
open Regex (Core Match Point Program)

namespace Regex.Core

lemma leads_shift (k : Nat) (r : Core) : (r.shift k).Leads = r.Leads := by
  induction r with
  | repetition min more greedy body ih =>
    funext s t
    rw [shift, Leads, Leads, ih]
  | capture index body ih => exact ih
  | seq a b iha ihb =>
    funext s t
    rw [shift, Leads, Leads, iha, ihb]
  | alt a b iha ihb =>
    funext s t
    rw [shift, Leads, Leads, iha, ihb]
  | _ => rfl

lemma run_nil (r : Core) : r.run [] = [] := by
  have hnone : Stays (fun _ => False) (r.ends []) :=
    stays_ends (fun _ _ _ h _ => h) r [] (fun _ _ _ h => h) (fun _ _ _ h => h) fun _ _ h => h
  have hends : r.ends [] [] = [] := List.eq_nil_iff_forall_not_mem.mpr (hnone [] (List.forall_mem_nil _))
  rw [run, List.map_nil, hends, List.map_nil]

lemma runAll_nil (xs : List Core) : runAll xs [] = [] := by
  induction xs with
  | nil => rfl
  | cons x xs ih => rw [runAll, run_nil, ih]

/-- From a point these expressions lead to one point at most. -/
def Steady (xs : List Core) : Prop :=
  ∀ p, (runAll xs [p]).length ≤ 1

lemma steady_cases {xs : List Core} (h : Steady xs) (p : Point) : runAll xs [p] = [] ∨ ∃ q, runAll xs [p] = [q] := by
  have hlength := h p
  cases hq : runAll xs [p] with
  | nil => exact Or.inl rfl
  | cons q qs =>
    rw [hq, List.length_cons] at hlength
    obtain rfl : qs = [] := List.length_eq_zero_iff.mp (by omega)
    exact Or.inr ⟨q, rfl⟩

lemma steady_cons {x : Core} {xs : List Core} (hx : ∀ p, (x.run [p]).length ≤ 1) (hxs : Steady xs) :
    Steady (x :: xs) := by
  intro p
  have hlength := hx p
  rw [runAll]
  cases hq : x.run [p] with
  | nil =>
    rw [runAll_nil]
    exact Nat.zero_le 1
  | cons q qs =>
    rw [hq, List.length_cons] at hlength
    obtain rfl : qs = [] := List.length_eq_zero_iff.mp (by omega)
    exact hxs q

def isSingle : Core → Bool
  | literal _ => true
  | chars _ => true
  | _ => false

lemma steady_of_single {xs : List Core} (h : xs.all isSingle = true) : Steady xs := by
  induction xs with
  | nil => exact fun p => Nat.le_refl 1
  | cons x xs ih =>
    rw [List.all_cons, Bool.and_eq_true] at h
    refine steady_cons (fun p => ?_) (ih h.2)
    cases x with
    | literal cs =>
      rw [run_literal]
      exact List.length_filterMap_le _ _
    | chars s =>
      rw [run_chars]
      exact List.length_filterMap_le _ _
    | _ => cases h.1

variable {a b : Core} {p : Point} {text : List Char} {f : Point → Bool}

/-- Where what both branches begin with has one way to go, the first branch is tried before the second one. -/
lemma find?_alternate (ha : a.branches = [a]) (hb : b.branches = [b]) (hs : Steady (lifted a.parts b.parts))
    (hp : p.On text) (hf : LocalOn text (Option.guard f)) :
    ((alternate [a, b]).run [p]).find? f = ((a.run [p]).find? f).or ((b.run [p]).find? f) := by
  obtain ⟨⟨ra, hra⟩, ⟨rb, hrb⟩⟩ := shared_prefix a.parts b.parts
  have hagree := agree_alternate ha hb p
  set front := lifted a.parts b.parts
  have hsplit : ∀ {r : Core} {rest}, front ++ rest = r.parts → r.run [p] = runAll rest (runAll front [p]) := by
    intro r rest hr
    rw [← runAll_parts, ← hr, runAll_append]
  -- one way through the front leaves no choice that could come before that of a branch
  have hways : (runAll front [p]).flatMap (fun q =>
      runAll (a.parts.drop front.length) [q] ++ runAll (b.parts.drop front.length) [q]) = a.run [p] ++ b.run [p] := by
    rw [hsplit hra, hsplit hrb, ← hra, ← hrb, List.drop_left, List.drop_left]
    rcases steady_cases hs p with hnone | ⟨q, hone⟩
    · rw [hnone, runAll_nil, runAll_nil]
      rfl
    · rw [hone, List.flatMap_singleton]
  rw [hways] at hagree
  rw [List.find?_eq_findSome?_guard, hagree.findSome? (hf.local (on_run hp.single)) (hf.local ?_), List.findSome?_append,
    ← List.find?_eq_findSome?_guard, ← List.find?_eq_findSome?_guard]
  exact List.forall_mem_append.mpr ⟨on_run hp.single, on_run hp.single⟩

end Regex.Core

namespace Pattern

variable {caseInsensitive flexible : Bool}

lemma cores_shift (k : Nat) (s : Segment Capture) : (s.map (Capture.shift k)).cores caseInsensitive flexible =
    (s.cores caseInsensitive flexible).map (Core.shift k) := by
  cases s with
  | literal text =>
    rw [Segment.map, Segment.cores, List.map_map]
    exact List.map_congr_left fun c _ => (Core.shift_of_indices (indices_literalCore c) k).symm
  | wildcard w => cases w <;> rfl
  | group c => exact congrArg (fun r => [Core.capture (c.order + k) r]) (Core.shift_of_indices (c.constraint.indices_core _) k).symm

lemma branchCore_shift (k : Nat) (segments : List (Segment Capture)) :
    branchCore caseInsensitive flexible (shiftBranch k segments) = (branchCore caseInsensitive flexible segments).shift k := by
  rw [branchCore, branchCore, ← Core.shift_concat, shiftBranch, List.flatMap_map, List.map_flatMap]
  refine congrArg Core.concat (List.flatMap_congr fun s _ => cores_shift k s)

end Pattern

namespace Matcher

variable {program program' : Program} {found found' : Match} {haystack : String}

lemma collect_append (groups rest : List Capture) (r : MatchResult) :
    collect program haystack found (groups ++ rest) r =
      (collect program haystack found groups r).bind (collect program haystack found rest) := by
  induction groups generalizing r with
  | nil => rfl
  | cons c groups ih =>
    rw [List.cons_append, collect, collect]
    cases program.group? found c.id with
    | none => exact ih _
    | some span =>
      dsimp only
      cases c.convert _ with
      | error cause => rfl
      | ok value => exact ih _

def behind (values : List Value) (r : MatchResult) : MatchResult :=
  { r with unnamed := values ++ r.unnamed }

lemma collect_behind (values : List Value) (groups : List Capture) (r : MatchResult) :
    collect program haystack found groups (behind values r) =
      (collect program haystack found groups r).map (behind values) := by
  have hpresent : ∀ (r : MatchResult) name value span,
      (behind values r).addPresent name value span = behind values (r.addPresent name value span) := by
    intro r name value span
    cases name with
    | none => simp [behind, MatchResult.addPresent]
    | some name => rfl
  have habsent : ∀ (r : MatchResult) name, (behind values r).addAbsent name = behind values (r.addAbsent name) := by
    intro r name
    cases name with
    | none => simp [behind, MatchResult.addAbsent]
    | some name => rfl
  induction groups generalizing r with
  | nil => rfl
  | cons c groups ih =>
    rw [collect, collect]
    cases program.group? found c.id with
    | none => exact (congrArg _ (habsent r c.name)).trans (ih _)
    | some span =>
      dsimp only
      cases c.convert _ with
      | error cause => rfl
      | ok value => exact (congrArg _ (hpresent r c.name value span)).trans (ih _)

/-- An outcome comes from another one: its result is changed, or the group that cannot be converted has a later
number. -/
def Renumbered (k : Nat) (groups : List Capture) (change : MatchResult → MatchResult)
    (outcome outcome' : Except Error MatchResult) : Prop :=
  (∃ r, outcome = .ok r ∧ outcome' = .ok (change r)) ∨
    ∃ c ∈ groups, ∃ raw cause, outcome = .error (.conversion c.label raw cause) ∧
      outcome' = .error (.conversion (c.shift k).label raw cause)

lemma Renumbered.mono {k : Nat} {groups more : List Capture} {change : MatchResult → MatchResult}
    {outcome outcome' : Except Error MatchResult} (h : Renumbered k groups change outcome outcome')
    (hmore : groups ⊆ more) : Renumbered k more change outcome outcome' := by
  rcases h with h | ⟨c, hc, h⟩
  · exact Or.inl h
  · exact Or.inr ⟨c, hmore hc, h⟩

lemma Renumbered.map {k : Nat} {groups : List Capture} {change next : MatchResult → MatchResult}
    {outcome outcome' : Except Error MatchResult} (h : Renumbered k groups change outcome outcome') :
    Renumbered k groups (next ∘ change) outcome (outcome'.map next) := by
  rcases h with ⟨r, hr, rfl⟩ | ⟨c, hc, raw, cause, hr, rfl⟩
  · exact Or.inl ⟨r, hr, rfl⟩
  · exact Or.inr ⟨c, hc, raw, cause, hr, rfl⟩

lemma collect_shift (k : Nat) {groups : List Capture}
    (h : ∀ c ∈ groups, program'.group? found' (c.shift k).id = program.group? found c.id) (r : MatchResult) :
    Renumbered k groups id (collect program haystack found groups r)
      (collect program' haystack found' (groups.map (Capture.shift k)) r) := by
  induction groups generalizing r with
  | nil => exact Or.inl ⟨r, rfl, rfl⟩
  | cons c groups ih =>
    have hrest := fun r => (ih (fun d hd => h d (List.mem_cons_of_mem c hd)) r).mono (List.subset_cons_self c groups)
    rw [List.map_cons, collect, collect, h c List.mem_cons_self]
    cases program.group? found c.id with
    | none => exact hrest _
    | some span =>
      dsimp only
      have hconvert : (c.shift k).convert = c.convert := rfl
      rw [hconvert]
      cases hc : c.convert (String.ofList ((Text.sliceBytes span.start span.stop haystack.toList).getD [])) with
      | error cause => exact Or.inr ⟨c, List.mem_cons_self, _, cause, rfl, rfl⟩
      | ok value => exact hrest _

lemma renumbered_zero {groups : List Capture} {outcome outcome' : Except Error MatchResult}
    (h : Renumbered 0 groups id outcome outcome') : outcome' = outcome := by
  rcases h with ⟨r, rfl, rfl⟩ | ⟨c, -, raw, cause, rfl, rfl⟩
  · rfl
  · rfl

lemma nulls_shift (k : Nat) (groups : List Capture) : nulls (groups.map (Capture.shift k)) = nulls groups := by
  rw [nulls, nulls, List.filter_map, List.map_map]
  rfl

/-- The result of a match of the first branch, with nulls in the places of the other one. -/
def ahead (values : List Value) (r : MatchResult) : MatchResult :=
  { r with unnamed := r.unnamed ++ values }

variable {types : Registry} {config : Config} {l r : String} {left right : List (Segment Capture)} {ml mr m : Matcher}

/-- Two patterns of one branch each and the one with a bar between them. -/
structure Joins (types : Registry) (config : Config) (ml mr m : Matcher) : Prop where
  makeLeft : ∃ l, make types config l = .ok ml
  makeRight : ∃ r, make types config r = .ok mr
  makeBoth : ∃ both, make types config both = .ok m
  legibleLeft : ml.compiled.Legible
  legibleRight : mr.compiled.Legible
  legibleBoth : m.compiled.Legible
  groups : m.groups = ml.groups ++ mr.groups.map (Capture.shift ml.groups.length)
  core : m.bare.core = .alternate [ml.bare.core, mr.bare.core.shift ml.groups.length]
  branches : ml.bare.core.branches = [ml.bare.core] ∧ ∀ k, (mr.bare.core.shift k).branches = [mr.bare.core.shift k]
  flat : ml.bare.core.Flat ∧ mr.bare.core.Flat
  indices : ml.bare.core.indices = ml.groups.map (·.order) ∧ mr.bare.core.indices = mr.groups.map (·.order)

lemma legible_joined {cl cr c : Compiled} {k : Nat} (hl : cl.Legible) (hr : cr.Legible)
    (hg : c.groups = cl.groups ++ cr.groups.map (Capture.shift k)) : c.Legible := by
  intro g hc
  rw [hg] at hc
  rcases List.mem_append.mp hc with hc | hc
  · exact hl g hc
  · obtain ⟨d, hd, rfl⟩ := List.mem_map.mp hc
    exact hr d hd

lemma joins_of_make (hl : make types config l = .ok ml) (hleft : ml.compiled.branches = .one left)
    (hr : make types config r = .ok mr) (hright : mr.compiled.branches = .one right)
    (hll : ml.compiled.Legible) (hlr : mr.compiled.Legible) (h : make types config (l ++ "|" ++ r) = .ok m)
    (hm : m.compiled.branches = .two left (Pattern.shiftBranch (Segment.groups left).length right)) :
    Joins types config ml mr m := by
  have hgl : ml.groups = Segment.groups left := by
    rw [groups, Compiled.groups, hleft, Branches.toList, List.flatMap_singleton]
  have hgr : mr.groups = Segment.groups right := by
    rw [groups, Compiled.groups, hright, Branches.toList, List.flatMap_singleton]
  have hg : m.groups = ml.groups ++ mr.groups.map (Capture.shift ml.groups.length) := by
    rw [groups, Compiled.groups, hm, Branches.toList, List.flatMap_cons, List.flatMap_singleton,
      Pattern.groups_shiftBranch, hgl, hgr]
  have hlm := legible_joined hll hlr hg
  have hcl := (bare_of_make hl hll).1
  have hcr := (bare_of_make hr hlr).1
  have hcm := (bare_of_make h hlm).1
  rw [hleft, Branches.core] at hcl
  rw [hright, Branches.core] at hcr
  rw [hm, Branches.core, Pattern.branchCore_shift, ← hcl, ← hcr, ← hgl] at hcm
  refine ⟨⟨l, hl⟩, ⟨r, hr⟩, ⟨_, h⟩, hll, hlr, hlm, hg, hcm, ⟨?_, fun k => ?_⟩, ⟨?_, ?_⟩, ?_, ?_⟩
  · rw [hcl, Pattern.branches_branchCore]
  · rw [hcr, ← Pattern.branchCore_shift, Pattern.branches_branchCore]
  · rw [hcl]
    exact Pattern.flat_branchCore left
  · rw [hcr]
    exact Pattern.flat_branchCore right
  · rw [hcl, Pattern.indices_branchCore, hgl]
  · rw [hcr, Pattern.indices_branchCore, hgr]

lemma stop_find? {pattern : String} (h : make types config pattern = .ok m) {mode : Mode}
    (hmode : mode = .full ∨ mode = .start) (text : List Char) :
    (m.find? mode text).map (fun found => found.stop.clear) = (m.bare.core.run [Point.ofText text]).find? (stops mode) := by
  rw [← stop_matchAt h mode rfl]
  rcases hmode with rfl | rfl
  · rfl
  · rfl

lemma recorded_of_find? {pattern : String} (h : make types config pattern = .ok m) (hflat : m.bare.core.Flat) {mode : Mode}
    (hmode : mode = .full ∨ mode = .start) {text : List Char} (hf : m.find? mode text = some found) :
    found.stop.groups.map (·.1) = m.bare.core.indices.reverse := by
  have hstop := stop_find? h hmode text
  rw [hf] at hstop
  have hmem := List.mem_of_find?_eq_some hstop.symm
  obtain ⟨p, hp, hgains⟩ := Core.gains_run hflat (Point.on_ofText text).single hmem
  obtain rfl := List.mem_singleton.mp hp
  obtain ⟨gs, hgs, horders, -⟩ := hgains.groups
  have hgroups : found.stop.groups = gs.reverse ++ [] := hgs
  rw [hgroups, List.append_nil, List.map_reverse, horders]

lemma not_missed_found {pattern : String} (h : make types config pattern = .ok m) {mode : Mode}
    (hmode : mode = .full ∨ mode = .start) : ¬Missed (m.run mode haystack) ↔
      ∃ t, m.bare.core.Leads ⟨none, haystack.toList⟩ t ∧ (mode = .full → t.rest = []) := by
  obtain ⟨hb, hc⟩ := make_ok h
  rw [not_missed_run]
  rcases hmode with rfl | rfl
  · have hfind : (m.find? .full haystack.toList).isSome = true ↔ ∃ t, m.closed.core.Leads ⟨none, haystack.toList⟩ t :=
      Core.matchAt_isSome_iff (Point.on_ofText _) rfl
    simp only [hfind, Regex.Program.leads_enclose hb hc, true_implies]
  · have hfind : (m.find? .start haystack.toList).isSome = true ↔ ∃ t, m.bare.core.Leads ⟨none, haystack.toList⟩ t :=
      Core.matchAt_isSome_iff (Point.on_ofText _) rfl
    simp [hfind]

namespace Joins

variable {mode : Mode} {fl fr : Match} {text : List Char}

lemma find?_eq (j : Joins types config ml mr m)
    (hs : Core.Steady (Core.lifted ml.bare.core.parts (mr.bare.core.shift ml.groups.length).parts))
    (hmode : mode = .full ∨ mode = .start) (text : List Char) :
    (m.find? mode text).map (fun found => found.stop.clear) =
      ((ml.find? mode text).map fun found => found.stop.clear).or
        ((mr.find? mode text).map fun found => found.stop.clear.shift ml.groups.length) := by
  obtain ⟨l, hl⟩ := j.makeLeft
  obtain ⟨r, hr⟩ := j.makeRight
  obtain ⟨both, h⟩ := j.makeBoth
  have hshift : ((mr.bare.core.shift ml.groups.length).run [Point.ofText text]).find? (stops mode) =
      ((mr.bare.core.run [Point.ofText text]).find? (stops mode)).map (Point.shift ml.groups.length) := by
    have hstops : stops mode ∘ Point.shift ml.groups.length = stops mode := by
      funext p
      cases mode <;> rfl
    rw [← hstops, ← List.find?_map, ← Core.run_shift, hstops]
    rfl
  rw [stop_find? h hmode, j.core, Core.find?_alternate j.branches.1 (j.branches.2 _) hs (Point.on_ofText text)
    (localOn_stops mode text), hshift, ← stop_find? hl hmode, ← stop_find? hr hmode, Option.map_map]
  rfl

lemma group?_left (j : Joins types config ml mr m) {c : Capture} (hc : c ∈ ml.groups) :
    (m.program mode).group? found c.id = found.stop.groups.lookup c.order := by
  obtain ⟨both, h⟩ := j.makeBoth
  refine group?_program h j.legibleBoth mode ?_
  rw [j.groups]
  exact List.mem_append_left _ hc

lemma group?_right (j : Joins types config ml mr m) {c : Capture} (hc : c ∈ mr.groups) :
    (m.program mode).group? found (c.shift ml.groups.length).id =
      found.stop.groups.lookup (c.order + ml.groups.length) := by
  obtain ⟨both, h⟩ := j.makeBoth
  refine group?_program (c := c.shift ml.groups.length) h j.legibleBoth mode ?_
  rw [j.groups]
  exact List.mem_append_right _ (List.mem_map_of_mem hc)

lemma order_lt (j : Joins types config ml mr m) {i : Nat} (hi : i ∈ ml.bare.core.indices) : i < ml.groups.length := by
  obtain ⟨l, hl⟩ := j.makeLeft
  have horders : ml.groups.map (·.order) = List.range ml.groups.length := (sound_of_make hl).orders
  rw [j.indices.1, horders] at hi
  exact List.mem_range.mp hi

/-- A match of the first branch: its groups captured what they capture alone, and those of the second one nothing. -/
lemma run_left (j : Joins types config ml mr m) (hmode : mode = .full ∨ mode = .start)
    (hl : ml.find? mode haystack.toList = some fl) (h : m.find? mode haystack.toList = some found)
    (hstop : found.stop.clear = fl.stop.clear) :
    m.run mode haystack = (ml.run mode haystack).map (ahead (nulls mr.groups)) := by
  obtain ⟨l, hml⟩ := j.makeLeft
  have hgroups : found.stop.groups = fl.stop.groups := by
    have hclear := congrArg Point.groups hstop
    exact hclear
  have hrecorded := recorded_of_find? hml j.flat.1 hmode hl
  -- the first branch keeps its numbers
  have hpresent : collect (m.program mode) haystack found ml.groups (.matched haystack) =
      collect (ml.program mode) haystack fl ml.groups (.matched haystack) := by
    have hsame := @collect_shift (ml.program mode) (m.program mode) fl found haystack 0 ml.groups (fun c hc => ?_)
      (.matched haystack)
    · have hid : ml.groups.map (Capture.shift 0) = ml.groups := List.map_id _
      rw [hid] at hsame
      exact renumbered_zero hsame
    · change (m.program mode).group? found c.id = _
      rw [j.group?_left hc, hgroups, group?_program hml j.legibleLeft mode hc]
      rfl
  -- what is recorded are groups of the first branch, with smaller numbers
  have habsent : ∀ c ∈ mr.groups.map (Capture.shift ml.groups.length), (m.program mode).group? found c.id = none := by
    intro c hc
    obtain ⟨d, hd, rfl⟩ := List.mem_map.mp hc
    rw [j.group?_right hd, hgroups, List.lookup_eq_none_iff]
    intro g hg
    have hmem : g.1 ∈ ml.bare.core.indices := by
      rw [← List.mem_reverse, ← hrecorded]
      exact List.mem_map_of_mem hg
    have hlt := j.order_lt hmem
    exact bne_iff_ne.mpr (by omega)
  rw [run_of_find? h, run_of_find? hl, resultOf, resultOf, j.groups, collect_append, hpresent]
  cases collect (ml.program mode) haystack fl ml.groups (.matched haystack) with
  | error e => rfl
  | ok r =>
    have hnone := @collect_absent (m.program mode) haystack found _ habsent [] r
    rw [List.append_nil, nulls_shift] at hnone
    exact hnone

lemma lookup_renumber {α : Type} (k i : Nat) (gs : List (Nat × α)) :
    (gs.map (Regex.renumber k)).lookup (i + k) = gs.lookup i := by
  induction gs with
  | nil => rfl
  | cons g gs ih =>
    have hbeq : (i + k == g.1 + k) = (i == g.1) := by
      rw [Bool.eq_iff_iff, beq_iff_eq, beq_iff_eq]
      omega
    rw [List.map_cons, Regex.renumber, List.lookup_cons, List.lookup_cons, hbeq, ih]

/-- A match of the second branch: its groups captured what they capture alone, and those of the first one nothing. -/
lemma run_right (j : Joins types config ml mr m)
    (hr : mr.find? mode haystack.toList = some fr) (h : m.find? mode haystack.toList = some found)
    (hstop : found.stop.clear = fr.stop.clear.shift ml.groups.length) :
    Renumbered ml.groups.length mr.groups (behind (nulls ml.groups)) (mr.run mode haystack) (m.run mode haystack) := by
  obtain ⟨r, hmr⟩ := j.makeRight
  have hgroups : found.stop.groups = fr.stop.groups.map (Regex.renumber ml.groups.length) :=
    congrArg (fun p : Point => p.groups) hstop
  -- what is recorded are groups of the second branch, with larger numbers
  have habsent : ∀ c ∈ ml.groups, (m.program mode).group? found c.id = none := by
    intro c hc
    have hlt : c.order < ml.groups.length := j.order_lt (by
      rw [j.indices.1]
      exact List.mem_map_of_mem hc)
    rw [j.group?_left hc, hgroups, List.lookup_eq_none_iff]
    intro g hg
    obtain ⟨d, -, rfl⟩ := List.mem_map.mp hg
    have hge : ml.groups.length ≤ (Regex.renumber ml.groups.length d).1 := Nat.le_add_left ..
    exact bne_iff_ne.mpr (by omega)
  have hpresent := @collect_shift (mr.program mode) (m.program mode) fr found haystack ml.groups.length mr.groups
    (fun c hc => ?_) (.matched haystack)
  · rw [run_of_find? h, run_of_find? hr, resultOf, resultOf, j.groups, collect_absent habsent]
    have hbehind := @collect_behind (m.program mode) found haystack (nulls ml.groups)
      (mr.groups.map (Capture.shift ml.groups.length)) (.matched haystack)
    have hempty : behind (nulls ml.groups) (.matched haystack) =
        { MatchResult.matched haystack with unnamed := [] ++ nulls ml.groups } := by
      rw [behind, MatchResult.matched, List.append_nil, List.nil_append]
    rw [hempty] at hbehind
    change Renumbered _ _ _ _ (collect _ _ _ _ { MatchResult.matched haystack with unnamed := [] ++ nulls ml.groups })
    rw [hbehind]
    exact hpresent.map
  · rw [j.group?_right hc, hgroups, lookup_renumber, group?_program hmr j.legibleRight mode hc]
    rfl

lemma missed_iff (j : Joins types config ml mr m) (hmode : mode = .full ∨ mode = .start) :
    Missed (m.run mode haystack) ↔ Missed (ml.run mode haystack) ∧ Missed (mr.run mode haystack) := by
  obtain ⟨l, hl⟩ := j.makeLeft
  obtain ⟨r, hr⟩ := j.makeRight
  obtain ⟨both, h⟩ := j.makeBoth
  have hcore : ∀ t, m.bare.core.Leads ⟨none, haystack.toList⟩ t ↔
      ml.bare.core.Leads ⟨none, haystack.toList⟩ t ∨ mr.bare.core.Leads ⟨none, haystack.toList⟩ t := by
    intro t
    have hone : ∀ b : Core, Core.LeadsSome [b] ⟨none, haystack.toList⟩ t ↔ b.Leads ⟨none, haystack.toList⟩ t := by
      intro b
      simp [Core.LeadsSome]
    rw [j.core, Core.leads_alternate, Core.leadsSome_cons, hone, Core.leads_shift]
  rw [← not_iff_not, not_and_or, not_missed_found h hmode, not_missed_found hl hmode, not_missed_found hr hmode]
  simp only [hcore, or_and_right, exists_or]

end Joins

/-- Two patterns of one branch that share no name, with a bar between them, are a pattern that compiles. It is ready to
run if they are, within the limits, and at the start of a text it matches where one of them does. Where what both begin
with has one way to go, it answers as the first one if that one matches, or else as the second one, with nulls in the
places of the groups that take no part. -/
theorem alternation_is_compositional {cl cr : Compiled}
    (hl : Pattern.compile types config.flexibleSpaces l = .ok cl) (hleft : cl.branches = .one left)
    (hr : Pattern.compile types config.flexibleSpaces r = .ok cr) (hright : cr.branches = .one right)
    (hnames : (cl.groups.filterMap (·.name)).Disjoint (cr.groups.filterMap (·.name))) :
    ∃ c, Pattern.compile types config.flexibleSpaces (l ++ "|" ++ r) = .ok c ∧
      c.branches = .two left (Pattern.shiftBranch cl.groups.length right) ∧
      ∀ ml mr, make types config l = .ok ml → make types config r = .ok mr → cl.Legible → cr.Legible →
        (∀ e, make types config (l ++ "|" ++ r) = .error e → ∃ fault, e = .rejectedRegex fault ∧
          (Program.Limited c.regex.toList fault ∨ Program.Limited (atEnd c.regex.toList) fault)) ∧
        ∀ m, make types config (l ++ "|" ++ r) = .ok m → ∀ mode, mode = .full ∨ mode = .start → ∀ haystack,
          (Missed (m.run mode haystack) ↔ Missed (ml.run mode haystack) ∧ Missed (mr.run mode haystack)) ∧
          (Core.Steady (Core.lifted ml.bare.core.parts (mr.bare.core.shift ml.groups.length).parts) →
            (¬Missed (ml.run mode haystack) →
              m.run mode haystack = (ml.run mode haystack).map (ahead (nulls mr.groups))) ∧
            (Missed (ml.run mode haystack) → ¬Missed (mr.run mode haystack) →
              Renumbered ml.groups.length mr.groups (behind (nulls ml.groups)) (mr.run mode haystack)
                (m.run mode haystack))) := by
  have hc := Pattern.compile_joined hl hleft hr hright hnames
  have hgl : cl.groups = Segment.groups left := by
    rw [Compiled.groups, hleft, Branches.toList, List.flatMap_singleton]
  have hgr : cr.groups = Segment.groups right := by
    rw [Compiled.groups, hright, Branches.toList, List.flatMap_singleton]
  rw [← hgl] at hc
  refine ⟨_, hc, rfl, fun ml mr hml hmr hll hlr => ⟨fun e he => ?_, fun m hm mode hmode haystack => ?_⟩⟩
  all_goals
    obtain rfl := Except.ok.inj (hl.symm.trans (compile_of_make hml))
    obtain rfl := Except.ok.inj (hr.symm.trans (compile_of_make hmr))
  · have hmeant : ∀ segments ∈ [left, Pattern.shiftBranch ml.compiled.groups.length right],
        Pattern.Meant (!config.caseSensitive) segments := by
      have hleft' := (bare_of_make hml hll).2.1
      have hright' := (bare_of_make hmr hlr).2.1
      rw [hleft, Branches.toList, List.forall_mem_singleton] at hleft'
      rw [hright, Branches.toList, List.forall_mem_singleton] at hright'
      refine List.forall_mem_cons.mpr ⟨hleft', List.forall_mem_singleton.mpr fun g hg => ?_⟩
      rw [Pattern.groups_shiftBranch] at hg
      obtain ⟨d, hd, rfl⟩ := List.mem_map.mp hg
      exact hright' d hd
    refine limited_of_make hc (@legible_joined _ _ _ ml.compiled.groups.length hll hlr ?_) hmeant he
    rw [hgr, Compiled.groups, Branches.toList, List.flatMap_cons, List.flatMap_singleton, Pattern.groups_shiftBranch, ← hgl]
  · have hcm := Except.ok.inj (hc.symm.trans (compile_of_make hm))
    have j := joins_of_make hml hleft hmr hright hll hlr hm (by rw [← hcm, ← hgl])
    refine ⟨j.missed_iff hmode, fun hs => ?_⟩
    have hfind := j.find?_eq hs hmode haystack.toList
    rw [missed_run_iff, missed_run_iff]
    constructor
    · intro hfound
      obtain ⟨fl, hfl⟩ := Option.ne_none_iff_exists'.mp hfound
      rw [hfl, Option.map_some, Option.some_or] at hfind
      obtain ⟨found, hf, hstop⟩ := Option.map_eq_some_iff.mp hfind
      exact j.run_left hmode hfl hf hstop
    · intro hmiss hfound
      obtain ⟨fr, hfr⟩ := Option.ne_none_iff_exists'.mp hfound
      rw [hmiss, hfr, Option.map_none, Option.none_or, Option.map_some] at hfind
      obtain ⟨found, hf, hstop⟩ := Option.map_eq_some_iff.mp hfind
      exact j.run_right hfr hf hstop

def onlyPlain (c : Compiled) : Bool :=
  !c.branches.isAlternation && c.groups.all fun g => g.constraint.tree.legible

lemma onlyPlain_spec {c : Compiled} (h : onlyPlain c = true) : (∃ only, c.branches = .one only) ∧ c.Legible := by
  rw [onlyPlain, Bool.and_eq_true, List.all_eq_true] at h
  refine ⟨?_, h.2⟩
  cases hb : c.branches with
  | one only => exact ⟨only, rfl⟩
  | two left right =>
    rw [hb] at h
    cases h.1

lemma missed_of_any {outcome : Except Error MatchResult}
    (h : (Regex.result? outcome).any (fun r => !r.isMatch) = true) : Missed outcome := by
  obtain ⟨r, hr, hno⟩ := (Option.any_eq_true _ _).mp h
  exact ⟨r, Regex.result?_eq_some.mp hr, by simpa using hno⟩

lemma not_missed_of_any {outcome : Except Error MatchResult}
    (h : (Regex.result? outcome).any MatchResult.isMatch = true) : ¬Missed outcome := by
  obtain ⟨r, hr, hmatch⟩ := (Option.any_eq_true _ _).mp h
  rintro ⟨s, hs, hno⟩
  obtain rfl := Except.ok.inj ((Regex.result?_eq_some.mp hr).symm.trans hs)
  exact Bool.false_ne_true (hno.symm.trans hmatch)

/-- One character, then two of them or the rest. -/
theorem alternation_is_compositional_nulls : ∃ ml mr m, make .empty {} "+[:2]" = .ok ml ∧ make .empty {} "+[b]" = .ok mr ∧
    make .empty {} ("+[:2]" ++ "|" ++ "+[b]") = .ok m ∧
      m.run .full "axy" = (ml.run .full "axy").map (ahead (nulls mr.groups)) ∧
        Renumbered 1 mr.groups (behind [.null]) (mr.run .full "ax") (m.run .full "ax") := by
  have hall : (Regex.result? (make .empty {} "+[:2]")).any (fun ml =>
      (Regex.result? (make .empty {} "+[b]")).any fun mr =>
        (Regex.result? (make .empty {} ("+[:2]" ++ "|" ++ "+[b]"))).isSome &&
          (onlyPlain ml.compiled && (onlyPlain mr.compiled &&
            ((Core.lifted ml.bare.core.parts (mr.bare.core.shift ml.groups.length).parts).all Core.isSingle &&
              ((ml.groups.length == 1 && (nulls ml.groups == [.null] && ml.groups.filterMap (·.name) == [])) &&
                ((Regex.result? (ml.run .full "axy")).any MatchResult.isMatch &&
                  ((Regex.result? (ml.run .full "ax")).any (fun r => !r.isMatch) &&
                    (Regex.result? (mr.run .full "ax")).any MatchResult.isMatch))))))) = true := by
    decide +kernel
  obtain ⟨ml, hml, h⟩ := (Option.any_eq_true _ _).mp hall
  obtain ⟨mr, hmr, h⟩ := (Option.any_eq_true _ _).mp h
  simp only [Bool.and_eq_true, beq_iff_eq] at h
  obtain ⟨hm, hplain, hplain', hs, ⟨hlength, hnulls, hname⟩, hfull, hmiss, hright⟩ := h
  obtain ⟨m, hm⟩ := Option.isSome_iff_exists.mp hm
  have hml := Regex.result?_eq_some.mp hml
  have hmr := Regex.result?_eq_some.mp hmr
  have hm := Regex.result?_eq_some.mp hm
  obtain ⟨⟨left, hleft⟩, hll⟩ := onlyPlain_spec hplain
  obtain ⟨⟨right, hright'⟩, hlr⟩ := onlyPlain_spec hplain'
  have hdisjoint : (ml.compiled.groups.filterMap (·.name)).Disjoint (mr.compiled.groups.filterMap (·.name)) := by
    rw [groups] at hname
    rw [hname]
    exact List.disjoint_nil_left _
  obtain ⟨c, -, -, hc⟩ :=
    alternation_is_compositional (compile_of_make hml) hleft (compile_of_make hmr) hright' hdisjoint
  have hboth := fun haystack => ((hc ml mr hml hmr hll hlr).2 m hm .full (Or.inl rfl) haystack).2
    (Core.steady_of_single hs)
  refine ⟨ml, mr, m, hml, hmr, hm, (hboth _).1 (not_missed_of_any hfull), ?_⟩
  have hlast := (hboth _).2 (missed_of_any hmiss) (not_missed_of_any hright)
  rwa [hlength, hnulls] at hlast

/-- What both branches begin with gives way to the second branch, while the first one alone matches. -/
theorem alternation_lifts_wildcard : ∃ ml mr m, make .empty {} "*x[a]" = .ok ml ∧ make .empty {} "*y[b]" = .ok mr ∧
    make .empty {} ("*x[a]" ++ "|" ++ "*y[b]") = .ok m ∧ ¬Missed (ml.run .full "xy") ∧
      m.run .full "xy" ≠ (ml.run .full "xy").map (ahead (nulls mr.groups)) := by
  have hall : (Regex.result? (make .empty {} "*x[a]")).any (fun ml =>
      (Regex.result? (make .empty {} "*y[b]")).any fun mr =>
        (Regex.result? (make .empty {} ("*x[a]" ++ "|" ++ "*y[b]"))).any fun m =>
          (Regex.result? (ml.run .full "xy")).any fun rl => (Regex.result? (m.run .full "xy")).any fun r =>
            rl.isMatch && (rl.named == [("a", .text "y")] && r.named == [("b", .text "")])) = true := by
    decide +kernel
  obtain ⟨ml, hml, h⟩ := (Option.any_eq_true _ _).mp hall
  obtain ⟨mr, hmr, h⟩ := (Option.any_eq_true _ _).mp h
  obtain ⟨m, hm, h⟩ := (Option.any_eq_true _ _).mp h
  obtain ⟨rl, hrl, h⟩ := (Option.any_eq_true _ _).mp h
  obtain ⟨r, hr, h⟩ := (Option.any_eq_true _ _).mp h
  simp only [Bool.and_eq_true, beq_iff_eq] at h
  obtain ⟨hmatch, hleft, hright⟩ := h
  have hrl := Regex.result?_eq_some.mp hrl
  have hr := Regex.result?_eq_some.mp hr
  refine ⟨ml, mr, m, Regex.result?_eq_some.mp hml, Regex.result?_eq_some.mp hmr, Regex.result?_eq_some.mp hm, ?_, ?_⟩
  · rintro ⟨s, hs, hno⟩
    obtain rfl := Except.ok.inj (hrl.symm.trans hs)
    exact Bool.false_ne_true (hno.symm.trans hmatch)
  · intro he
    rw [hr, hrl] at he
    have he : r = ahead (nulls mr.groups) rl := Except.ok.inj he
    have hnamed : r.named = rl.named := he ▸ rfl
    rw [hleft, hright] at hnamed
    exact absurd hnamed (by decide)

end Matcher

end TypedPattern
