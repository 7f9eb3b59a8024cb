import TypedPattern.Proofs.Replacement
import TypedPattern.Proofs.Matching.Slide

/-!
Where a match may begin anywhere, it is the one at the start of the longest rest of the text that has one there.
-/

namespace TypedPattern

open Pattern (Branches Capture Config Constraint Segment)
open Regex (Core Match Point Program)
open Text (ByteSpan byteLength)

namespace Pattern

variable {caseInsensitive flexible : Bool}

lemma Constraint.sightless_core {k : Constraint} (h : k.tree.sightless = true) :
    (k.core caseInsensitive).sightless = true := by
  unfold core
  cases hm : k.tree.meaning caseInsensitive with
  | error e => rfl
  | ok r => exact Regex.Syntax.sightless_meaning h hm

lemma sightless_branchCore {segments : List (Segment Capture)}
    (h : ∀ c ∈ Segment.groups segments, c.constraint.tree.sightless = true) :
    (branchCore caseInsensitive flexible segments).sightless = true := by
  have hs := Core.structural_sightless
  exact hs.concat (forall_cores (structural_literalCore hs) (structural_wildcard hs) fun c hc =>
    Constraint.sightless_core (h c hc))

lemma sightless_core {b : Branches (List (Segment Capture))}
    (h : ∀ segments ∈ b.toList, ∀ c ∈ Segment.groups segments, c.constraint.tree.sightless = true) :
    (b.core caseInsensitive flexible).sightless = true := by
  cases b with
  | one only => exact sightless_branchCore (h only (List.mem_singleton_self only))
  | two left right =>
    refine Core.structural_sightless.alternate (List.forall_mem_cons.mpr ⟨?_, List.forall_mem_singleton.mpr ?_⟩)
    · exact sightless_branchCore (h left List.mem_cons_self)
    · exact sightless_branchCore (h right (List.mem_cons_of_mem _ (List.mem_singleton_self right)))

end Pattern

namespace Text

lemma dropBytes_add (before text : List Char) (n : Nat) :
    dropBytes (n + byteLength before) (before ++ text) = dropBytes n text := by
  induction before with
  | nil => rfl
  | cons c cs ih =>
    have hpos := Char.utf8Size_pos c
    obtain ⟨k, hk⟩ : ∃ k, n + byteLength (c :: cs) = k + 1 := ⟨n + byteLength (c :: cs) - 1, by simp [byteLength]; omega⟩
    have hsub : k + 1 - c.utf8Size = n + byteLength cs := by
      rw [← hk, byteLength]
      omega
    rw [hk, List.cons_append, dropBytes, if_pos (by rw [← hk, byteLength]; omega), hsub, ih]

lemma sliceBytes_slide (before text : List Char) (s : ByteSpan) :
    sliceBytes (s.slide (byteLength before)).start (s.slide (byteLength before)).stop (before ++ text) =
      sliceBytes s.start s.stop text := by
  have hlength : s.stop + byteLength before - (s.start + byteLength before) = s.stop - s.start :=
    Nat.add_sub_add_right _ _ _
  rw [sliceBytes, sliceBytes, ByteSpan.slide, dropBytes_add, hlength]

end Text

namespace Regex.Core

variable {r : Core} {text before behind : List Char}

lemma search_eq_none : r.search (.ofText text) = none ↔ ∀ before behind, text = before ++ behind →
    r.matchAt (.fresh (byteLength before) before.getLast? behind) = none := by
  rw [search, List.findSome?_eq_none_iff]
  constructor
  · exact fun h before behind ht => h _ (Point.mem_onwards_ofText.mpr ⟨before, behind, ht, rfl⟩)
  · intro h p hp
    obtain ⟨before, behind, ht, rfl⟩ := Point.mem_onwards_ofText.mp hp
    exact h before behind ht

lemma findSome?_onwards {found : Match} (front passed : List Char)
    (hf : r.matchAt (.fresh (byteLength (front ++ passed)) (front ++ passed).getLast? behind) = some found)
    (hfirst : ∀ b later, passed ++ behind = b ++ later → behind.length < later.length →
      r.matchAt (.fresh (byteLength (front ++ b)) (front ++ b).getLast? later) = none) :
    (Point.onwards.go (byteLength front) front.getLast? (passed ++ behind)).findSome? r.matchAt = some found := by
  induction passed generalizing front with
  | nil =>
    rw [List.append_nil] at hf
    cases behind with
    | nil => rw [List.nil_append, Point.onwards.go, List.findSome?_cons, hf]
    | cons c behind => rw [List.nil_append, Point.onwards.go, List.findSome?_cons, hf]
  | cons c passed ih =>
    have hnone := hfirst [] (c :: passed ++ behind) rfl (by simp)
    rw [List.append_nil] at hnone
    have hb : byteLength front + c.utf8Size = byteLength (front ++ [c]) := by simp [byteLength]
    have hl : some c = (front ++ [c]).getLast? := by simp
    have hcons : ∀ b : List Char, front ++ c :: b = front ++ [c] ++ b := fun b => by simp
    rw [List.cons_append, Point.onwards.go, List.findSome?_cons, ← List.cons_append, hnone, hb, hl]
    refine ih (front ++ [c]) (hcons passed ▸ hf) fun b later hsplit hlt => ?_
    rw [← hcons]
    exact hfirst (c :: b) later (by rw [List.cons_append, hsplit, List.cons_append]) hlt

/-- The match that a search finds begins at the longest rest of the text where there is one. -/
lemma search_eq_some {found : Match}
    (hf : r.matchAt (.fresh (byteLength before) before.getLast? behind) = some found)
    (hfirst : ∀ b later, before ++ behind = b ++ later → behind.length < later.length →
      r.matchAt (.fresh (byteLength b) b.getLast? later) = none) :
    r.search (.ofText (before ++ behind)) = some found :=
  findSome?_onwards [] before hf hfirst

end Regex.Core

def MatchResult.slide (before : List Char) (r : MatchResult) : MatchResult :=
  ⟨r.named, r.unnamed, r.captures.map fun c => ⟨c.name, c.span.slide (byteLength before)⟩,
    r.haystack.map fun h => String.ofList (before ++ h.toList)⟩

namespace MatchResult

lemma addPresent_slide (before : List Char) (r : MatchResult) (name : Option String) (value : Value) (span : ByteSpan) :
    (r.slide before).addPresent name value (span.slide (byteLength before)) =
      (r.addPresent name value span).slide before := by
  cases name <;> simp [addPresent, slide]

lemma addAbsent_slide (before : List Char) (r : MatchResult) (name : Option String) :
    (r.slide before).addAbsent name = (r.addAbsent name).slide before := by
  cases name <;> rfl

end MatchResult

lemma InOrder.slide {a b : Nat} {spans : List ByteSpan} (h : InOrder a spans b) (n : Nat) :
    InOrder (a + n) (spans.map (ByteSpan.slide n)) (b + n) := by
  induction spans generalizing a with
  | nil => exact Nat.add_le_add_right h n
  | cons s spans ih =>
    obtain ⟨hstart, hstop, h⟩ := h
    exact ⟨Nat.add_le_add_right hstart n, Nat.add_le_add_right hstop n, ih h⟩

lemma Piece.spans_slide (a n : Nat) (pieces : List Piece) :
    spans (a + n) pieces = (spans a pieces).map (ByteSpan.slide n) := by
  induction pieces generalizing a with
  | nil => rfl
  | cons p pieces ih =>
    rw [spans, spans, List.map_cons, ← ih, ByteSpan.slide, Nat.add_right_comm, Nat.add_right_comm a n]

namespace Matcher

lemma group?_slide {found part : Match} {n : Nat} {prev : Option Char}
    (h : found.stop.clear = part.stop.clear.slide n prev) (index : Nat) :
    found.group? index = (part.group? index).map (ByteSpan.slide n) := by
  have hgroups : found.stop.groups = part.stop.groups.map fun g => (g.1, g.2.slide n) := congrArg Point.groups h
  rw [Match.group?, Match.group?, hgroups]
  induction part.stop.groups with
  | nil => rfl
  | cons g gs ih =>
    rw [List.map_cons, List.lookup_cons, List.lookup_cons, ih]
    split <;> rfl

lemma collect_slide {program : Program} {found part : Match} {before behind : List Char} {prev : Option Char}
    (h : found.stop.clear = part.stop.clear.slide (byteLength before) prev) (groups : List Capture) (r : MatchResult) :
    collect program (String.ofList (before ++ behind)) found groups (r.slide before) =
      (collect program (String.ofList behind) part groups r).map (MatchResult.slide before) := by
  induction groups generalizing r with
  | nil => rfl
  | cons c groups ih =>
    have hgroup : program.group? found c.id = (program.group? part c.id).map (ByteSpan.slide (byteLength before)) := by
      rw [Program.group?, Program.group?]
      cases program.names.findIdx? (· == some c.id.toList) with
      | none => rfl
      | some index => exact group?_slide h index
    rw [collect, collect, hgroup]
    cases program.group? part c.id with
    | none => exact (MatchResult.addAbsent_slide before r c.name) ▸ ih _
    | some span =>
      dsimp only [Option.map_some]
      rw [String.toList_ofList, String.toList_ofList, Text.sliceBytes_slide]
      split
      · rfl
      · rw [MatchResult.addPresent_slide, ih]

/-- One outcome is that of a text without what stands before it: the same values or the same error, and the same text
behind it when captures are replaced. -/
def SameBehind (before : List Char) (whole part : Except Error MatchResult) : Prop :=
  (∃ e, part = .error e ∧ whole = .error e) ∨
    ∃ r s, part = .ok r ∧ whole = .ok s ∧ s.named = r.named ∧ s.unnamed = r.unnamed ∧
      ∀ values, ∃ out, r.replace values = .ok out ∧ s.replace values = .ok (String.ofList (before ++ out.toList))

/-- Where a match may begin anywhere there is none exactly if no rest of the text has one at its start, and otherwise
it is that of the longest rest that has. -/
def LeftmostStart (m : Matcher) (free anchored : Mode) (haystack : String) : Prop :=
  (Missed (m.run free haystack) ↔ ∀ before behind, haystack.toList = before ++ behind →
      Missed (m.run anchored (String.ofList behind))) ∧
    ∀ before behind, haystack.toList = before ++ behind → ¬Missed (m.run anchored (String.ofList behind)) →
      (∀ b later, haystack.toList = b ++ later → ¬Missed (m.run anchored (String.ofList later)) →
        later.length ≤ behind.length) →
      SameBehind before (m.run free haystack) (m.run anchored (String.ofList behind))

variable {types : Registry} {config : Config} {pattern : String} {m : Matcher} {mode : Mode}

lemma matchAt_slide (h : make types config pattern = .ok m) (hs : m.bare.core.sightless = true) (mode : Mode)
    (before behind : List Char) :
    ((m.program mode).core.matchAt (.fresh (byteLength before) before.getLast? behind)).map
        (fun found => found.stop.clear) =
      ((m.program mode).core.matchAt (.ofText behind)).map fun part =>
        part.stop.clear.slide (byteLength before) before.getLast? := by
  have hpart := stop_matchAt h mode (p := .ofText behind) rfl
  have hrun := @Core.run_slide (byteLength before) before.getLast? _ hs [.ofText behind]
  have hstops : ∀ p : Point, stops mode (p.slide (byteLength before) before.getLast?) = stops mode p := fun p => by
    cases mode <;> rfl
  have hwhole := stop_matchAt h mode (p := .fresh (byteLength before) before.getLast? behind) rfl
  rw [Point.fresh_eq_slide] at hwhole ⊢
  rw [List.map_singleton] at hrun
  rw [hwhole, hrun, List.find?_map, Function.comp_def]
  simp only [hstops]
  rw [← hpart, Option.map_map]
  rfl

lemma replace_slide (h : make types config pattern = .ok m) (hl : m.compiled.Legible) {found : Match}
    {behind : List Char} {p : Point} (hf : m.FoundAt mode (String.ofList behind).toList found p) {r : MatchResult}
    (hr : m.resultOf (m.program mode) (String.ofList behind) found = .ok r) (before : List Char)
    (values : List String) : ∃ out, r.replace values = .ok out ∧
      (r.slide before).replace values = .ok (String.ofList (before ++ out.toList)) := by
  have horder := (inOrder_of_foundAt h hl hf hr).widen (Nat.zero_le _) (Nat.le_refl _)
  have hstretch : ∀ s ∈ r.captures.map (·.span), ∃ raw, Regex.Stretch (String.ofList behind).toList s raw := by
    intro s hs
    obtain ⟨c, hc, rfl⟩ := List.mem_map.mp hs
    exact stretch_of_foundAt hf hr c hc
  obtain ⟨pieces, tail, htext, hspans⟩ := @exists_pieces [] (String.ofList behind).toList _ _ horder hstretch
  have hh : r.haystack = some (String.ofList behind) := haystack_collect hr
  have hslid : (r.slide before).captures.map (·.span) =
      (r.captures.map (·.span)).map (ByteSpan.slide (byteLength before)) := by
    rw [MatchResult.slide, List.map_map, List.map_map]
    rfl
  have hslidSpans : (r.slide before).captures.map (·.span) = Piece.spans (byteLength before) pieces := by
    rw [hslid, hspans, ← Piece.spans_slide]
    exact congrArg (Piece.spans · pieces) (Nat.zero_add _)
  have hslidHaystack : (r.slide before).haystack = some (String.ofList (before ++ behind)) := by
    rw [MatchResult.slide, hh, Option.map_some, String.toList_ofList]
  refine ⟨_, @MatchResult.replace_pieces _ _ [] _ _ _ _ hh htext hspans horder values, ?_⟩
  rw [String.toList_ofList] at htext
  have hwhole : (String.ofList (before ++ behind)).toList = before ++ (Piece.whole pieces ++ tail) := by
    rw [String.toList_ofList, htext]
  rw [String.toList_ofList]
  exact MatchResult.replace_pieces hslidHaystack hwhole hslidSpans (hslid ▸ horder.slide _) values

lemma sameBehind_of_search (h : make types config pattern = .ok m) (hl : m.compiled.Legible)
    (hs : m.bare.core.sightless = true) {part found : Match} {before behind : List Char}
    (hpart : (m.program mode).core.matchAt (.ofText behind) = some part)
    (hfound : (m.program mode).core.matchAt (.fresh (byteLength before) before.getLast? behind) = some found) :
    SameBehind before (m.resultOf (m.program mode) (String.ofList (before ++ behind)) found)
      (m.resultOf (m.program mode) (String.ofList behind) part) := by
  have hstop := matchAt_slide h hs mode before behind
  rw [hpart, hfound, Option.map_some, Option.map_some, Option.some.injEq] at hstop
  have hstarts : (Point.ofText behind).Starts (String.ofList behind).toList := by
    rw [String.toList_ofList]
    exact Point.starts_ofText behind
  have hf := foundAt_of_matchAt h mode hstarts hpart
  have hmatched : (MatchResult.matched (String.ofList behind)).slide before =
      .matched (String.ofList (before ++ behind)) := by
    rw [MatchResult.matched, MatchResult.slide, Option.map_some, String.toList_ofList]
    rfl
  have hcollect := @collect_slide (m.program mode) _ _ _ behind _ hstop m.groups (.matched (String.ofList behind))
  rw [hmatched] at hcollect
  have hwhole : m.resultOf (m.program mode) (String.ofList (before ++ behind)) found =
      (m.resultOf (m.program mode) (String.ofList behind) part).map (MatchResult.slide before) := hcollect
  rw [hwhole]
  cases hr : m.resultOf (m.program mode) (String.ofList behind) part with
  | error e => exact Or.inl ⟨e, rfl, rfl⟩
  | ok r => exact Or.inr ⟨r, r.slide before, rfl, rfl, rfl, rfl, replace_slide h hl hf hr before⟩

lemma leftmostStart_of_search (h : make types config pattern = .ok m) (hl : m.compiled.Legible)
    (hs : m.bare.core.sightless = true) (free anchored : Mode)
    (hfree : ∀ text, m.find? free text = (m.program anchored).core.search (.ofText text))
    (hanchored : ∀ text, m.find? anchored text = (m.program anchored).core.matchAt (.ofText text))
    (hprogram : m.program free = m.program anchored) (haystack : String) :
    LeftmostStart m free anchored haystack := by
  have hmissed : ∀ before behind : List Char, Missed (m.run anchored (String.ofList behind)) ↔
      (m.program anchored).core.matchAt (.fresh (byteLength before) before.getLast? behind) = none := by
    intro before behind
    have hslide := matchAt_slide h hs anchored before behind
    rw [missed_run_iff, hanchored, String.toList_ofList, iff_comm,
      ← Option.map_eq_none_iff (f := fun found : Match => found.stop.clear), hslide, Option.map_eq_none_iff]
  constructor
  · rw [missed_run_iff, hfree, Core.search_eq_none]
    exact forall_congr' fun before => forall_congr' fun behind => imp_congr_right fun _ => (hmissed before behind).symm
  · intro before behind ht hpart hlongest
    obtain ⟨found, hfound⟩ := Option.ne_none_iff_exists'.mp (mt (hmissed before behind).mpr hpart)
    obtain ⟨part, hpart⟩ := Option.isSome_iff_exists.mp (not_missed_run.mp hpart)
    rw [String.toList_ofList] at hpart
    have hsearch := Core.search_eq_some hfound fun b later hsplit hlt => by
      refine (hmissed b later).mp (not_not.mp fun hlater => ?_)
      exact absurd (hlongest b later (ht.trans hsplit) hlater) (Nat.not_le.mpr hlt)
    have hrun : m.run free haystack = m.resultOf (m.program anchored) haystack found := by
      rw [run_of_find? (by rw [hfree, ht]; exact hsearch), hprogram]
    have hrunPart : m.run anchored (String.ofList behind) = m.resultOf (m.program anchored) (String.ofList behind) part :=
      run_of_find? (by rw [String.toList_ofList]; exact hpart)
    have hhaystack : haystack = String.ofList (before ++ behind) := by rw [← ht, String.ofList_toList]
    rw [hrun, hrunPart, hhaystack]
    rw [hanchored] at hpart
    exact sameBehind_of_search h hl hs hpart hfound

/-- The modes where a match may begin anywhere are those where it begins at the start, on the longest rest of the text
that has a match there, for patterns whose types are without assertions and can be told apart when they are printed. -/
theorem search_is_leftmost_start (h : make types config pattern = .ok m)
    (hf : ∀ g ∈ m.groups, ∀ t, g.constraint = .type t → t.tree.legible = true ∧ t.tree.sightless = true)
    (haystack : String) :
    LeftmostStart m .search .start haystack ∧ LeftmostStart m .stop .full haystack := by
  have hl : m.compiled.Legible := by
    intro g hg
    cases hk : g.constraint with
    | free => rfl
    | width n => rfl
    | type t => exact (hf g hg t hk).1
  have hsightless : ∀ g ∈ m.groups, g.constraint.tree.sightless = true := by
    intro g hg
    cases hk : g.constraint with
    | free => rfl
    | width n => rfl
    | type t => exact (hf g hg t hk).2
  have hs : m.bare.core.sightless = true := by
    rw [(bare_of_make h hl).1]
    exact Pattern.sightless_core fun segments hsegments c hc =>
      hsightless c (List.mem_flatMap.mpr ⟨segments, hsegments, hc⟩)
  exact ⟨leftmostStart_of_search h hl hs .search .start (fun _ => rfl) (fun _ => rfl) rfl haystack,
    leftmostStart_of_search h hl hs .stop .full (fun _ => rfl) (fun _ => rfl) rfl haystack⟩

/-- A typed group behind a character of two bytes. -/
theorem search_is_leftmost_start_bits : ∃ types m, Registry.empty.register "t" "(?:0|1)+" .identity 0 = .ok types ∧
    make types {} "=[x:t]" = .ok m ∧ ¬Missed (m.run .search "é=01") ∧ LeftmostStart m .search .start "é=01" ∧
      LeftmostStart m .stop .full "é=01" := by
  have hall : (Regex.result? (Registry.empty.register "t" "(?:0|1)+" .identity 0)).any (fun types =>
      (Regex.result? (make types {} "=[x:t]")).any fun m => (m.find? .search "é=01".toList).isSome &&
        m.groups.all fun g => g.constraint.tree.legible && g.constraint.tree.sightless) = true := by
    decide +kernel
  obtain ⟨types, ht, h⟩ := (Option.any_eq_true _ _).mp hall
  obtain ⟨m, hm, h⟩ := (Option.any_eq_true _ _).mp h
  rw [Bool.and_eq_true, List.all_eq_true] at h
  have hm := Regex.result?_eq_some.mp hm
  have hboth := search_is_leftmost_start hm (fun g hg t hk => by
    have hg := h.2 g hg
    rw [hk] at hg
    exact (Bool.and_eq_true _ _).mp hg) "é=01"
  exact ⟨types, m, Regex.result?_eq_some.mp ht, hm, not_missed_run.mpr h.1, hboth⟩

/-- Without the blank of verbose mode between two hyphens the class of one group takes up the other group, of which a
sign that was a member of a class is left as an anchor. -/
theorem search_misses_start_verbose : ∃ types types' m,
    Registry.empty.register "t" "(?x)[a- -[z]" .identity 0 = .ok types ∧
      types.register "u" "x+-[]?^]" .identity 1 = .ok types' ∧ make types' {} "[x:t][y:u]" = .ok m ∧
        (∀ g ∈ m.groups, g.constraint.tree.sightless = true) ∧ ¬Missed (m.run .start "]") ∧
          Missed (m.run .search "b]") ∧ ¬LeftmostStart m .search .start "b]" := by
  have hall : (Regex.result? (Registry.empty.register "t" "(?x)[a- -[z]" .identity 0)).any (fun types =>
      (Regex.result? (types.register "u" "x+-[]?^]" .identity 1)).any fun types' =>
        (Regex.result? (make types' {} "[x:t][y:u]")).any fun m =>
          m.groups.all (fun g => g.constraint.tree.sightless) && ((m.find? .start "]".toList).isSome &&
            (m.find? .search "b]".toList).isNone)) = true := by
    decide +kernel
  obtain ⟨types, ht, h⟩ := (Option.any_eq_true _ _).mp hall
  obtain ⟨types', ht', h⟩ := (Option.any_eq_true _ _).mp h
  obtain ⟨m, hm, h⟩ := (Option.any_eq_true _ _).mp h
  simp only [Bool.and_eq_true, List.all_eq_true, Option.isNone_iff_eq_none] at h
  obtain ⟨hsightless, hstart, hsearch⟩ := h
  have hstart : ¬Missed (m.run .start "]") := not_missed_run.mpr hstart
  have hsearch : Missed (m.run .search "b]") := (m.missed_run_iff .search "b]").mpr hsearch
  exact ⟨types, types', m, Regex.result?_eq_some.mp ht, Regex.result?_eq_some.mp ht', Regex.result?_eq_some.mp hm,
    hsightless, hstart, hsearch, fun hleft => hstart (hleft.1.mp hsearch ['b'] [']'] rfl)⟩

end Matcher

end TypedPattern
