import TypedPattern.Proofs.Alternation
import TypedPattern.Proofs.Pattern.Untyped
import Mathlib.Data.List.Find

/-!
A pattern without types matches the whole of a text where one of its branches decomposes it, and captures the pieces of
the decomposition that is tried first.
-/

namespace TypedPattern

open List (Forall₂)
open Pattern (Branches Capture Resolves Segment Written WrittenGroup)
open Regex (Core Match Point Stretch)
open Taken (Converts named unnamed)
open Text (byteLength)

namespace Pattern

/-- A text decomposed into pieces, one for each segment of a branch. -/
def Written.Decomposes (w : Written) (text : List Char) (i : Nat) (pieces : List (List Char)) : Prop :=
  ∃ segments, w.toList[i]? = some segments ∧ Forall₂ (Segment.Takes WrittenGroup.allows) segments pieces ∧
    pieces.flatten = text

/-- The result of a match where a branch was taken and its groups captured some pieces. -/
structure Written.Answers (w : Written) (i : Nat) (pieces : List (List Char)) (r : MatchResult) : Prop where
  isMatch : r.isMatch = true
  named : r.named = (texts ((w.toList[i]?).getD []) pieces).filterMap fun x => x.1.map (·, x.2)
  unnamed : r.unnamed = absent (w.toList.take i) ++
    ((texts ((w.toList[i]?).getD []) pieces).filter (·.1.isNone)).map (·.2) ++ absent (w.toList.drop (i + 1))

/-- The groups of a branch with their pieces, from a position on. -/
def takenFrom (pos : Nat) : List (Segment Capture) → List (List Char) → List Taken
  | .group c :: rest, piece :: pieces =>
    ⟨c, ⟨pos, pos + byteLength piece⟩, String.ofList piece⟩ :: takenFrom (pos + byteLength piece) rest pieces
  | _ :: rest, piece :: pieces => takenFrom (pos + byteLength piece) rest pieces
  | _, _ => []

variable {ws : List (Segment WrittenGroup)} {cs : List (Segment Capture)} {pieces : List (List Char)}

lemma groups_takenFrom (h : pieces.length = cs.length) (pos : Nat) :
    (takenFrom pos cs pieces).map Taken.group = Segment.groups cs := by
  induction cs generalizing pos pieces with
  | nil => rfl
  | cons s cs ih =>
    cases pieces with
    | nil => cases h
    | cons piece pieces =>
      have hrest := ih (Nat.succ.inj h) (pos + byteLength piece)
      cases s with
      | literal text => exact hrest
      | wildcard w => exact hrest
      | group c => exact congrArg (c :: ·) hrest

lemma groups_behind (h : pieces.length = cs.length) (p : Point) : (behind cs pieces p).groups =
    ((takenFrom p.pos cs pieces).map fun t => (t.group.order, t.span)).reverse ++ p.groups := by
  induction cs generalizing p pieces with
  | nil => rfl
  | cons s cs ih =>
    cases pieces with
    | nil => cases h
    | cons piece pieces =>
      have hrest := ih (Nat.succ.inj h) (s.after p piece)
      rw [pos_after] at hrest
      cases s with
      | literal text => exact hrest
      | wildcard w => exact hrest
      | group c =>
        rw [takenFrom, List.map_cons, List.reverse_cons, List.append_assoc]
        exact hrest

lemma stretch_takenFrom {text before after : List Char} (h : text = before ++ (pieces.flatten ++ after)) :
    ∀ t ∈ takenFrom (byteLength before) cs pieces, Stretch text t.span t.raw.toList := by
  induction cs generalizing before pieces with
  | nil =>
    intro t ht
    cases pieces <;> cases ht
  | cons s cs ih =>
    cases pieces with
    | nil =>
      intro t ht
      cases s <;> cases ht
    | cons piece pieces =>
      have hsplit : text = (before ++ piece) ++ (pieces.flatten ++ after) := by
        rw [h, List.flatten_cons, List.append_assoc, List.append_assoc]
      have hrest := ih hsplit
      rw [Text.byteLength_append] at hrest
      cases s with
      | literal _ => exact hrest
      | wildcard _ => exact hrest
      | group c =>
        refine List.forall_mem_cons.mpr ⟨⟨before, pieces.flatten ++ after, ?_, ?_⟩, hrest⟩
        · rw [String.toList_ofList, hsplit]
        · rw [String.toList_ofList, Text.byteLength_append]

lemma texts_takenFrom (h : Forall₂ Resolves ws cs) (hlength : pieces.length = cs.length) (pos : Nat) :
    (takenFrom pos cs pieces).map (fun t => (t.group.name, Value.text t.raw)) = texts ws pieces := by
  induction h generalizing pos pieces with
  | nil => rfl
  | cons hs _ ih =>
    cases pieces with
    | nil => cases hlength
    | cons piece pieces =>
      have hrest := ih (Nat.succ.inj hlength) (pos + byteLength piece)
      cases hs with
      | literal text => exact hrest
      | wildcard w => exact hrest
      | group hname _ _ => exact congrArg₂ (fun name rest => (name, _) :: rest) hname hrest

lemma absent_resolves {bs : List (List (Segment WrittenGroup))} {cbs : List (List (Segment Capture))}
    (h : Forall₂ (Forall₂ Resolves) bs cbs) : absent bs = nulls (cbs.flatMap Segment.groups) := by
  have hnames : (bs.flatMap Segment.groups).map (·.name) = (cbs.flatMap Segment.groups).map (·.name) := by
    induction h with
    | nil => rfl
    | cons hb _ ih => rw [List.flatMap_cons, List.flatMap_cons, List.map_append, List.map_append, names_resolves hb, ih]
  have hcount : ∀ {γ : Type} (name : γ → Option String) (gs : List γ),
      ((gs.filter fun g => (name g).isNone).map fun _ => Value.null) =
        ((gs.map name).filter (·.isNone)).map fun _ => .null := by
    intro γ name gs
    rw [List.filter_map, List.map_map]
    rfl
  have hwritten := hcount (fun g : WrittenGroup => g.name) (bs.flatMap Segment.groups)
  have hcaptured := hcount (fun c : Capture => c.name) (cbs.flatMap Segment.groups)
  rw [absent, nulls, hwritten, hcaptured, hnames]

end Pattern

namespace Taken

variable {parts : List Taken}

lemma converts_text {p : Taken} (h : ∀ t, p.group.constraint ≠ .type t) : p.Converts (.text p.raw) := by
  unfold Converts Capture.convert
  cases hk : p.group.constraint with
  | free => rfl
  | width n => rfl
  | type t => exact absurd hk (h t)

lemma values_eq (hall : ∀ p ∈ parts, p.Converts (.text p.raw)) {values : List Value} (h : Forall₂ Converts parts values) :
    values = parts.map fun p => .text p.raw := by
  induction h with
  | nil => rfl
  | cons hp _ ih =>
    obtain ⟨hfirst, hrest⟩ := List.forall_mem_cons.mp hall
    rw [List.map_cons, ← ih hrest]
    exact congrArg (· :: _) (Except.ok.inj (hp.symm.trans hfirst))

lemma named_texts (parts : List Taken) : named parts (parts.map fun p => .text p.raw) =
    (parts.map fun p => (p.group.name, Value.text p.raw)).filterMap fun x => x.1.map (·, x.2) := by
  induction parts with
  | nil => rfl
  | cons p parts ih =>
    rw [named, List.map_cons, List.zip_cons_cons, List.filterMap_cons, List.map_cons, List.filterMap_cons]
    cases p.group.name with
    | none => exact ih
    | some name => exact congrArg (_ :: ·) ih

lemma unnamed_texts (parts : List Taken) : unnamed parts (parts.map fun p => .text p.raw) =
    ((parts.map fun p => (p.group.name, Value.text p.raw)).filter (·.1.isNone)).map (·.2) := by
  induction parts with
  | nil => rfl
  | cons p parts ih =>
    rw [unnamed, List.map_cons, List.zip_cons_cons, List.filterMap_cons, List.map_cons, List.filter_cons]
    cases p.group.name with
    | none => exact congrArg (_ :: ·) ih
    | some name => exact ih

end Taken

namespace Matcher

variable {types : Registry} {pattern : String} {m : Matcher} {w : Written} {text : List Char} {haystack : String}
  {found : Match} {i : Nat} {pieces : List (List Char)}

lemma split_of_getElem? {α : Type} {l : List α} {i : Nat} {a : α} (h : l[i]? = some a) :
    l = l.take i ++ a :: l.drop (i + 1) := by
  obtain ⟨hi, rfl⟩ := List.getElem?_eq_some_iff.mp h
  rw [List.getElem_cons_drop, List.take_append_drop]

lemma decomposes_iff (h : Forall₂ (Forall₂ Resolves) w.toList m.compiled.branches.toList) :
    w.Decomposes text i pieces ↔ (i, pieces) ∈ m.compiled.branches.cuts Capture.allows text ∧ pieces.flatten = text := by
  rw [Branches.mem_cuts]
  rcases Pattern.getElem?_resolves h i with ⟨hnone, hnone'⟩ | ⟨ws, cs, hws, hcs, hb⟩
  · refine iff_of_false ?_ ?_
    · rintro ⟨segments, hs, -⟩
      exact absurd (hnone.symm.trans hs) (Option.some_ne_none _).symm
    · rintro ⟨⟨segments, hs, -⟩, -⟩
      exact absurd (hnone'.symm.trans hs) (Option.some_ne_none _).symm
  · constructor
    · rintro ⟨segments, hs, htakes, hflat⟩
      obtain rfl := Option.some.inj (hws.symm.trans hs)
      exact ⟨⟨cs, hcs, Pattern.mem_cuts.mpr ⟨(Pattern.forall₂_takes hb).mp htakes, hflat ▸ List.prefix_refl _⟩⟩, hflat⟩
    · rintro ⟨⟨segments, hs, hcuts⟩, hflat⟩
      obtain rfl := Option.some.inj (hcs.symm.trans hs)
      exact ⟨ws, hws, (Pattern.forall₂_takes hb).mpr (Pattern.mem_cuts.mp hcuts).1, hflat⟩

lemma precedes_of_find? {α : Type} {R : α → α → Prop} {l : List α} (hl : l.Pairwise R) {f : α → Bool} {a b : α}
    (ha : l.find? f = some a) (hb : b ∈ l) (hf : f b = true) : b = a ∨ R a b := by
  obtain ⟨-, before, behind, rfl, hnone⟩ := List.find?_eq_some_iff_append.mp ha
  rcases List.mem_append.mp hb with hb | hb
  · have hnot := hnone b hb
    rw [hf] at hnot
    cases hnot
  · rcases List.mem_cons.mp hb with rfl | hb
    · exact Or.inl rfl
    · exact Or.inr ((List.pairwise_cons.mp (List.pairwise_append.mp hl).2.1).1 b hb)

section Untyped

variable (h : make types {} pattern = .ok m) (hw : Pattern.read pattern = .ok w) (hu : w.Untyped)

include h hw hu

lemma resolves_of_make : Forall₂ (Forall₂ Resolves) w.toList m.compiled.branches.toList :=
  Pattern.resolves_compile (compile_of_make h) hw hu

lemma untyped_of_make : ∀ segments ∈ m.compiled.branches.toList, Pattern.Untyped segments ∧ Pattern.Spaced segments := by
  intro segments hs
  obtain ⟨j, hj⟩ := List.getElem?_of_mem hs
  rcases Pattern.getElem?_resolves (resolves_of_make h hw hu) j with ⟨-, hnone⟩ | ⟨ws, cs, hws, hcs, hb⟩
  · exact absurd (hnone.symm.trans hj) (Option.some_ne_none _).symm
  · obtain rfl := Option.some.inj (hcs.symm.trans hj)
    have hsound := Pattern.read_sound hw ws (List.mem_of_getElem? hws)
    exact ⟨Pattern.untyped_resolves hb, Pattern.spaced_resolves hb hsound⟩

lemma constraint_of_make : ∀ c ∈ m.groups, ∀ t, c.constraint ≠ .type t := by
  intro c hc
  obtain ⟨segments, hs, hc⟩ := List.mem_flatMap.mp hc
  exact (untyped_of_make h hw hu segments hs).1 c (Pattern.mem_groups.mp hc)

lemma legible_untyped : m.compiled.Legible :=
  Pattern.Compiled.legible_of_plain fun c hc t ht => absurd ht (constraint_of_make h hw hu c hc t)

/-- A match of the whole text ends behind the pieces of the decomposition that is tried first. -/
lemma stop_untyped (text : List Char) : (m.find? .full text).map (fun found => found.stop.clear) =
    ((m.compiled.branches.cuts Capture.allows text).find? fun cut => decide (cut.2.flatten = text)).map fun cut =>
      m.compiled.branches.behind cut (.ofText text) := by
  have hcore : m.bare.core = m.compiled.branches.core false false := (bare_of_make h (legible_untyped h hw hu)).1
  have hon := Point.on_ofText text
  have hagree := Pattern.agree_core (fun b hb => (untyped_of_make h hw hu b hb).1)
    (fun b hb => (untyped_of_make h hw hu b hb).2) (sound_of_make h).ordered hon
  -- behind its pieces a cut is at the end of the text exactly if they are all of it
  have hbehind : ∀ cut ∈ m.compiled.branches.cuts Capture.allows text,
      (m.compiled.branches.behind cut (.ofText text)).On text ∧
        stops .full (m.compiled.branches.behind cut (.ofText text)) = decide (cut.2.flatten = text) := by
    rintro ⟨i, pieces⟩ hcut
    obtain ⟨cs, hcs, hpieces⟩ := Branches.mem_cuts.mp hcut
    have hrest := Pattern.rest_behind (Pattern.length_of_mem_cuts hpieces) (.ofText text)
    obtain ⟨rest, hsplit⟩ := (Pattern.mem_cuts.mp hpieces).2
    have htext : (Point.ofText text).rest = text := rfl
    rw [htext, ← hsplit, List.drop_left] at hrest
    rw [Branches.behind_eq hcs]
    refine ⟨Pattern.on_ways hon _ (List.mem_map_of_mem hpieces), ?_⟩
    rw [Bool.eq_iff_iff, stops, ← hsplit, hrest, List.isEmpty_iff, decide_eq_true_eq]
    exact List.self_eq_append_right.symm
  have hways : ∀ p ∈ (m.compiled.branches.cuts Capture.allows text).map
      (fun cut => m.compiled.branches.behind cut (.ofText text)), p.On text := by
    intro p hp
    obtain ⟨cut, hcut, rfl⟩ := List.mem_map.mp hp
    exact (hbehind cut hcut).1
  rw [stop_find? h (Or.inl rfl), hcore, List.find?_eq_findSome?_guard,
    hagree.findSome? ((localOn_stops .full text).local (Core.on_run hon.single)) ((localOn_stops .full text).local hways),
    ← List.find?_eq_findSome?_guard, List.find?_map]
  exact congrArg (Option.map _) (List.find?_congr fun cut hcut => (hbehind cut hcut).2)

lemma answers_of_stop (hf : m.find? .full haystack.toList = some found) (hd : w.Decomposes haystack.toList i pieces)
    (hstop : found.stop.clear = m.compiled.branches.behind (i, pieces) (.ofText haystack.toList)) :
    ∃ r, m.run .full haystack = .ok r ∧ w.Answers i pieces r := by
  have hall := resolves_of_make h hw hu
  obtain ⟨ws, hws, htakes, hflat⟩ := hd
  rcases Pattern.getElem?_resolves hall i with ⟨hnone, -⟩ | ⟨ws', cs, hws', hcs, hb⟩
  · exact absurd (hnone.symm.trans hws) (Option.some_ne_none _).symm
  obtain rfl := Option.some.inj (hws.symm.trans hws')
  have hlength : pieces.length = cs.length := htakes.length_eq.symm.trans hb.length_eq
  set parts := Pattern.takenFrom 0 cs pieces with hparts
  have hgroups : parts.map Taken.group = Segment.groups cs := Pattern.groups_takenFrom hlength 0
  have hrecorded : found.stop.groups = (parts.map fun p => (p.group.order, p.span)).reverse := by
    have hclear := congrArg Point.groups (hstop.trans (Branches.behind_eq hcs pieces _))
    have hrun := Pattern.groups_behind hlength (.ofText haystack.toList)
    exact hclear.trans (hrun.trans (List.append_nil _))
  have hstretch := @Pattern.stretch_takenFrom cs pieces haystack.toList [] [] (by
    rw [List.append_nil, hflat]
    rfl)
  have hconverts : ∀ p ∈ parts, p.Converts (.text p.raw) := by
    intro p hp
    have hmem : p.group ∈ m.groups := by
      refine List.mem_flatMap.mpr ⟨cs, List.mem_of_getElem? hcs, ?_⟩
      rw [← hgroups]
      exact List.mem_map_of_mem hp
    exact Taken.converts_text (constraint_of_make h hw hu p.group hmem)
  have hrun : m.run .full haystack = m.resultOf (m.program .full) haystack found := run_of_find? hf
  rcases gives_of_recorded hrecorded h (legible_untyped h hw hu) .full (split_of_getElem? hcs) hgroups hstretch with
    ⟨values, hvalues, hok⟩ | ⟨p, cause, ⟨before, after, values, hat, -, herror⟩, -⟩
  · refine ⟨_, hrun.trans hok, rfl, ?_, ?_⟩
    · rw [hws, Option.getD_some, ← Pattern.texts_takenFrom hb hlength 0, ← hparts, ← Taken.named_texts,
        ← Taken.values_eq hconverts hvalues]
    · rw [hws, Option.getD_some, ← Pattern.texts_takenFrom hb hlength 0, ← hparts, ← Taken.unnamed_texts,
        ← Taken.values_eq hconverts hvalues, Pattern.absent_resolves (List.forall₂_take i hall),
        Pattern.absent_resolves (List.forall₂_drop (i + 1) hall)]
  · have hmem : p ∈ parts := hat ▸ List.mem_append_right _ List.mem_cons_self
    exact absurd ((hconverts p hmem).symm.trans herror) (by intro he; cases he)

end Untyped

/-- A pattern without types matches exactly the texts that one of its branches decomposes. What it captures are the
pieces of the first decomposition: the pieces of what the branches have in common are as long as possible, from left to
right, then the left branch comes before the right one, and then the other pieces are as long as possible. -/
theorem full_match_decomposes (h : make types {} pattern = .ok m) (hw : Pattern.read pattern = .ok w) (hu : w.Untyped)
    (haystack : String) :
    (¬Missed (m.run .full haystack) ↔ ∃ i pieces, w.Decomposes haystack.toList i pieces) ∧
      (¬Missed (m.run .full haystack) → ∃ i pieces, w.Decomposes haystack.toList i pieces ∧
        (∀ j others, w.Decomposes haystack.toList j others →
          (j, others) = (i, pieces) ∨ Pattern.Precedes w.common (i, pieces) (j, others)) ∧
        ∃ r, m.run .full haystack = .ok r ∧ w.Answers i pieces r) := by
  have hall := resolves_of_make h hw hu
  have hstop := stop_untyped h hw hu haystack.toList
  have hdecomposes := fun i pieces => @decomposes_iff m w haystack.toList i pieces hall
  rw [not_missed_run]
  cases hcut : (m.compiled.branches.cuts Capture.allows haystack.toList).find? fun cut =>
      decide (cut.2.flatten = haystack.toList) with
  | none =>
    rw [hcut, Option.map_none, Option.map_eq_none_iff] at hstop
    rw [hstop]
    refine ⟨iff_of_false Bool.false_ne_true ?_, fun hf => absurd hf Bool.false_ne_true⟩
    rintro ⟨i, pieces, hd⟩
    obtain ⟨hmem, hflat⟩ := (hdecomposes i pieces).mp hd
    exact List.find?_eq_none.mp hcut _ hmem (decide_eq_true hflat)
  | some cut =>
    obtain ⟨i, pieces⟩ := cut
    have hfirst := List.find?_some hcut
    have hflat : pieces.flatten = haystack.toList := of_decide_eq_true hfirst
    have hd := (hdecomposes i pieces).mpr ⟨List.mem_of_find?_eq_some hcut, hflat⟩
    rw [hcut, Option.map_some] at hstop
    obtain ⟨found, hf, hclear⟩ := Option.map_eq_some_iff.mp hstop
    rw [hf]
    refine ⟨iff_of_true rfl ⟨i, pieces, hd⟩, fun _ => ⟨i, pieces, hd, fun j others hj => ?_, ?_⟩⟩
    · obtain ⟨hmem, hother⟩ := (hdecomposes j others).mp hj
      rw [Pattern.common_resolves hall]
      exact precedes_of_find? (m.compiled.branches.pairwise_cuts haystack.toList) hcut hmem (decide_eq_true hother)
    · exact answers_of_stop h hw hu hf hd hclear

/-- Two groups, of which the first one takes as much as it can, or anything. -/
theorem full_match_decomposes_dashes : ∃ m w, make .empty {} "[a]-[:2]|*" = .ok m ∧ Pattern.read "[a]-[:2]|*" = .ok w ∧
    w.Untyped ∧ ∃ i pieces, w.Decomposes "1-2-34".toList i pieces ∧
      ∃ r, m.run .full "1-2-34" = .ok r ∧ w.Answers i pieces r := by
  have hall : (Regex.result? (make .empty {} "[a]-[:2]|*")).isSome = true ∧
      Regex.result? (Pattern.read "[a]-[:2]|*") = some (.two [.group ⟨some "a", none, 0⟩, .literal ['-'],
        .group ⟨none, some "2", 4⟩] [.wildcard .any]) := by
    decide +kernel
  obtain ⟨m, hm⟩ := Option.isSome_iff_exists.mp hall.1
  have hm := Regex.result?_eq_some.mp hm
  have hw := Regex.result?_eq_some.mp hall.2
  have hu : Written.Untyped (.two [.group ⟨some "a", none, 0⟩, .literal ['-'], .group ⟨none, some "2", 4⟩]
      [.wildcard .any]) := by
    unfold Written.Untyped
    decide
  have hd : Written.Decomposes (.two [.group ⟨some "a", none, 0⟩, .literal ['-'], .group ⟨none, some "2", 4⟩]
      [.wildcard .any]) "1-2-34".toList 0 [['1', '-', '2'], ['-'], ['3', '4']] := by
    refine ⟨_, rfl, .cons ⟨by decide, by decide⟩ (.cons rfl (.cons ⟨by decide, by decide⟩ .nil)), by decide⟩
  obtain ⟨hmatch, hanswer⟩ := full_match_decomposes hm hw hu "1-2-34"
  obtain ⟨i, pieces, hd, -, hr⟩ := hanswer (hmatch.mpr ⟨0, _, hd⟩)
  exact ⟨m, _, hm, hw, hu, i, pieces, hd, hr⟩

/-- What both branches begin with gives way to the second branch, while the first one decomposes the text. -/
theorem full_match_shares_wildcard : ∃ m w r, make .empty {} "*x[a]|*y[b]" = .ok m ∧
    Pattern.read "*x[a]|*y[b]" = .ok w ∧ w.Untyped ∧ w.Decomposes "xy".toList 0 [[], ['x'], ['y']] ∧
      m.run .full "xy" = .ok r ∧ r.isMatch = true ∧
        ∀ pieces, w.Decomposes "xy".toList 0 pieces → ¬w.Answers 0 pieces r := by
  have hall : (Regex.result? (make .empty {} "*x[a]|*y[b]")).any (fun m =>
      (Regex.result? (m.run .full "xy")).any fun r => r.isMatch && r.named == [("b", .text "")]) = true ∧
      Regex.result? (Pattern.read "*x[a]|*y[b]") = some (.two
        [.wildcard .any, .literal ['x'], .group ⟨some "a", none, 2⟩]
        [.wildcard .any, .literal ['y'], .group ⟨some "b", none, 8⟩]) := by
    decide +kernel
  obtain ⟨m, hm, hr⟩ := (Option.any_eq_true _ _).mp hall.1
  obtain ⟨r, hr, hnamed⟩ := (Option.any_eq_true _ _).mp hr
  simp only [Bool.and_eq_true, beq_iff_eq] at hnamed
  have hw := Regex.result?_eq_some.mp hall.2
  refine ⟨m, _, r, Regex.result?_eq_some.mp hm, hw, ?_, ?_, Regex.result?_eq_some.mp hr, hnamed.1, ?_⟩
  · unfold Written.Untyped
    decide
  · exact ⟨_, rfl, .cons ⟨by decide, by decide⟩ (.cons rfl (.cons ⟨by decide, by decide⟩ .nil)), by decide⟩
  · rintro pieces ⟨segments, hs, htakes, -⟩ hanswer
    cases hs
    obtain _ | ⟨-, hrest⟩ := htakes
    obtain _ | ⟨-, hrest⟩ := hrest
    obtain _ | ⟨-, hrest⟩ := hrest
    have hnames : ["b"] = ["a"] := congrArg (List.map Prod.fst) (hnamed.2.symm.trans hanswer.named)
    exact absurd hnames (by decide)

end Matcher

end TypedPattern
