import TypedPattern.Proofs.Pattern.Joining
import TypedPattern.Proofs.Replacement

/-! A pattern of literals and groups is a template: replacing what was captured in a full match fills it in anew. -/

namespace TypedPattern

open List (Forall₂)
open Pattern (Capture Config Segment)
open Regex (Core Crosses CrossesAll Match Point Stretch)
open Text (ByteSpan byteLength)

namespace Piece

lemma replaced_nil (pieces : List Piece) : replaced pieces [] = whole pieces := by
  cases pieces <;> rfl

lemma exists_lead (cs : List Char) (pieces : List Piece) (tail : List Char) : ∃ pieces' tail',
    (∀ n, spans n pieces' = spans (n + byteLength cs) pieces) ∧
      ∀ values, replaced pieces' values ++ tail' = cs ++ (replaced pieces values ++ tail) := by
  cases pieces with
  | nil => exact ⟨[], cs ++ tail, fun n => rfl, fun values => rfl⟩
  | cons p pieces =>
    refine ⟨⟨cs ++ p.gap, p.raw⟩ :: pieces, tail, fun n => ?_, fun values => ?_⟩
    · simp only [spans, Text.byteLength_append, Nat.add_assoc]
    · cases values <;> simp [replaced, whole_cons]

end Piece

namespace Pattern

variable {γ : Type} {segments : List (Segment γ)}

/-- A branch of literals and groups. -/
def Template (segments : List (Segment γ)) : Prop :=
  ∀ w, Segment.wildcard w ∉ segments

/-- The text of a branch with a value in the place of each group. -/
def fill : List (Segment γ) → List String → List Char
  | [], _ => []
  | .literal text :: rest, values => text ++ fill rest values
  | .wildcard _ :: rest, values => fill rest values
  | .group _ :: rest, [] => fill rest []
  | .group _ :: rest, value :: values => value.toList ++ fill rest values

/-- Where the values lie that a branch is filled with, from a position on. -/
def places : Nat → List (Segment γ) → List String → List ByteSpan
  | _, [], _ => []
  | n, .literal text :: rest, values => places (n + byteLength text) rest values
  | n, .wildcard _ :: rest, values => places n rest values
  | n, .group _ :: rest, [] => places n rest []
  | n, .group _ :: rest, value :: values =>
    ⟨n, n + byteLength value.toList⟩ :: places (n + byteLength value.toList) rest values

lemma exists_pieces_fill {raws : List String} (h : raws.length = (Segment.groups segments).length) :
    ∃ pieces tail, (∀ n, places n segments raws = Piece.spans n pieces) ∧
      ∀ values : List String, fill segments (values ++ raws.drop values.length) = Piece.replaced pieces values ++ tail := by
  induction segments generalizing raws with
  | nil => exact ⟨[], [], fun n => rfl, fun values => rfl⟩
  | cons s rest ih =>
    cases s with
    | literal text =>
      obtain ⟨pieces, tail, hplaces, hfill⟩ := ih h
      obtain ⟨pieces', tail', hspans, hreplaced⟩ := Piece.exists_lead text pieces tail
      refine ⟨pieces', tail', fun n => ?_, fun values => ?_⟩
      · rw [places, hplaces, hspans]
      · rw [fill, hfill, hreplaced]
    | wildcard w => exact ih h
    | group g =>
      cases raws with
      | nil => cases h
      | cons raw raws =>
        obtain ⟨pieces, tail, hplaces, hfill⟩ := ih (Nat.succ.inj h)
        refine ⟨⟨[], raw.toList⟩ :: pieces, tail, fun n => ?_, fun values => ?_⟩
        · rw [places, hplaces]
          rfl
        · cases values with
          | nil =>
            have hrest := hfill []
            rw [Piece.replaced_nil] at hrest
            change raw.toList ++ fill rest raws = raw.toList ++ Piece.whole pieces ++ tail
            rw [List.append_assoc, ← hrest]
            rfl
          | cons value values =>
            change value.toList ++ fill rest (values ++ raws.drop values.length) =
              value.toList ++ Piece.replaced pieces values ++ tail
            rw [hfill, List.append_assoc]

/-- A branch without what its groups are to capture. -/
def outline (name : γ → Option String) (segments : List (Segment γ)) : List (Segment (Option String)) :=
  segments.map (Segment.map name)

lemma fill_outline (name : γ → Option String) (segments : List (Segment γ)) (values : List String) :
    fill (outline name segments) values = fill segments values := by
  induction segments generalizing values with
  | nil => rfl
  | cons s rest ih =>
    cases s with
    | literal text => exact congrArg (text ++ ·) (ih values)
    | wildcard w => exact ih values
    | group g =>
      cases values with
      | nil => exact ih []
      | cons value values => exact congrArg (value.toList ++ ·) (ih values)

lemma template_outline {name : γ → Option String} : Template (outline name segments) ↔ Template segments := by
  refine forall_congr' fun w => not_congr ?_
  rw [outline, List.mem_map]
  constructor
  · rintro ⟨s, hs, he⟩
    cases s with
    | wildcard w' =>
      cases he
      exact hs
    | literal text => cases he
    | group g => cases he
  · exact fun hw => ⟨_, hw, rfl⟩

lemma outline_number (n : Nat) (segments : List (Segment Group)) :
    outline Capture.name (number n segments) = outline Group.name segments := by
  induction segments generalizing n with
  | nil => rfl
  | cons s rest ih =>
    cases s with
    | literal text => exact congrArg (_ :: ·) (ih n)
    | wildcard w => exact congrArg (_ :: ·) (ih n)
    | group g => exact congrArg (_ :: ·) (ih (n + 1))

variable {types : Registry} {written : List (Segment WrittenGroup)}

lemma outline_resolve {resolved : List (Segment Group)}
    (h : Segment.mapAllM (Group.resolve types) written = .ok resolved) :
    outline WrittenGroup.name written = outline Group.name resolved := by
  rw [Segment.mapAllM_eq_ok] at h
  induction h with
  | nil => rfl
  | @cons s t written resolved hs _ ih =>
    have hhead : s.map WrittenGroup.name = t.map Group.name := by
      cases s with
      | literal text =>
        cases hs
        rfl
      | wildcard w =>
        cases hs
        rfl
      | group g =>
        obtain ⟨d, hd, rfl⟩ := Regex.map_eq_ok.mp hs
        exact congrArg Segment.group (Group.resolve_ok hd).1.symm
    exact congrArg₂ List.cons hhead ih

lemma exists_outline {flexible : Bool} {text : String} {c : Compiled} (h : compile types flexible text = .ok c)
    (hread : read text = .ok (.one written)) : ∃ segments, c.branches = .one segments ∧
      outline Capture.name segments = outline WrittenGroup.name written := by
  obtain ⟨raw, resolved, hraw, hres, rfl, -⟩ := compile_ok h
  obtain rfl := Except.ok.inj (hread.symm.trans hraw)
  obtain ⟨branch, hbranch, rfl⟩ := Regex.map_eq_ok.mp hres
  exact ⟨number 0 branch, rfl, (outline_number 0 branch).trans (outline_resolve hbranch).symm⟩

variable {text : List Char} {p q : Point}

lemma rest_literal {cs : List Char} (h : CrossesAll (cs.map fun c => Core.literal [c]) p q) : p.rest = cs ++ q.rest := by
  induction cs generalizing p with
  | nil =>
    obtain rfl : p = q := h
    rfl
  | cons c cs ih =>
    obtain ⟨o, ho, h⟩ := h
    have hleads : Core.Leads (.literal [c]) p.spot o.spot := ho.leads
    rw [List.cons_append, ← ih h]
    exact hleads.1

lemma recorded_template {segments : List (Segment Capture)} (ht : Template segments) (hp : p.On text)
    (h : CrossesAll (segments.flatMap (Segment.cores false false)) p q) : ∃ parts : List Taken,
      parts.map Taken.group = Segment.groups segments ∧ Recorded text false p q parts ∧
        p.rest = fill segments (parts.map Taken.raw) ++ q.rest ∧
          parts.map Taken.span = places p.pos segments (parts.map Taken.raw) := by
  induction segments generalizing p with
  | nil =>
    obtain ⟨parts, hparts, hrecorded⟩ := recorded_segments hp h
    obtain rfl := List.map_eq_nil_iff.mp hparts
    obtain rfl : p = q := h
    exact ⟨[], rfl, hrecorded, rfl, rfl⟩
  | cons s rest ih =>
    obtain ⟨o, ho, hback⟩ := Regex.crossesAll_append.mp h
    have hrest : Template rest := fun w hw => ht w (List.mem_cons_of_mem s hw)
    cases s with
    | wildcard w => exact absurd List.mem_cons_self (ht w)
    | literal cs =>
      have hnone : ∀ r ∈ Segment.cores false false (.literal cs), r.indices = [] := by
        intro r hr
        obtain ⟨c, -, rfl⟩ := List.mem_map.mp hr
        exact indices_literalCore c
      have hfirst : Recorded text false p o [] := recorded_noneAll hnone hp ho
      rw [cores_literal] at ho
      have htaken := rest_literal ho
      obtain ⟨parts, hparts, hrecorded, htext, hspans⟩ := ih hrest hfirst.on hback
      refine ⟨parts, hparts, hfirst.append hrecorded, ?_, ?_⟩
      · rw [htaken, htext, fill, List.append_assoc]
      · rw [hspans, hp.pos_add hfirst.on htaken, places]
    | group c =>
      obtain ⟨o', ho, rfl⟩ := ho
      obtain ⟨t, rfl, hspan, htaken, hfirst⟩ := recorded_group hp ho
      obtain ⟨parts, hparts, hrecorded, htext, hspans⟩ := ih hrest hfirst.on hback
      refine ⟨t :: parts, congrArg (t.group :: ·) hparts, hfirst.append hrecorded, ?_, ?_⟩
      · rw [htaken, htext, List.map_cons, fill, List.append_assoc]
      · rw [List.map_cons, List.map_cons, hspan, hspans, hp.pos_add hfirst.on htaken, places]

end Pattern

namespace Matcher

open Pattern (WrittenGroup Template fill places)

variable {types : Registry} {pattern : String} {m : Matcher} {segments : List (Segment WrittenGroup)} {haystack : String}
  {r : MatchResult}

/-- A match in full of a branch: the text is the branch, filled with the texts of its groups. -/
structure Filled (branch : List (Segment Capture)) (haystack : String) (parts : List Taken) (r : MatchResult) : Prop where
  groups : parts.map Taken.group = Segment.groups branch
  stretch : ∀ t ∈ parts, Stretch haystack.toList t.span t.raw.toList
  text : haystack.toList = fill branch (parts.map Taken.raw)
  spans : parts.map Taken.span = places 0 branch (parts.map Taken.raw)
  inOrder : ∃ stop, InOrder 0 (parts.map Taken.span) stop
  captures : r.captures = parts.map Taken.captured
  haystack : r.haystack = some haystack

lemma exists_filled (h : make types {} pattern = .ok m) (hl : m.compiled.Legible) {branch : List (Segment Capture)}
    (hbranch : m.compiled.branches = .one branch) (ht : Template branch) (hr : m.run .full haystack = .ok r)
    (hmatch : r.isMatch = true) : ∃ parts, Filled branch haystack parts r := by
  have hsome : ¬Missed (m.run .full haystack) := by
    rintro ⟨s, hs, hno⟩
    obtain rfl := Except.ok.inj (hr.symm.trans hs)
    exact Bool.false_ne_true (hno.symm.trans hmatch)
  obtain ⟨found, hfind⟩ := Option.isSome_iff_exists.mp (not_missed_run.mp hsome)
  rw [run_of_find? hfind] at hr
  have hfound := foundAt_of_matchAt h .full (Point.starts_ofText haystack.toList) hfind
  have hstops : stops .full found.stop.clear = true := List.find?_some hfound.stop
  obtain ⟨hcore, -, -⟩ := bare_of_make h hl
  have hstop := hfound.stop
  rw [hcore, hbranch] at hstop
  obtain ⟨branch', hmem, hcross⟩ := Pattern.crosses_core hfound.starts (localOn_stops .full _) hstop
  obtain rfl := List.mem_singleton.mp hmem
  obtain ⟨parts, hparts, hrecorded, htext, hspans⟩ := Pattern.recorded_template ht hfound.starts.on hcross
  have hstretch : ∀ t ∈ parts, Stretch haystack.toList t.span t.raw.toList :=
    fun t hmem => (hrecorded.stands t hmem).stretch
  have hsplit : m.compiled.branches.toList = [] ++ branch' :: [] := by
    rw [hbranch]
    rfl
  rw [List.isEmpty_iff.mp hstops, List.append_nil] at htext
  refine ⟨parts, hparts, hstretch, htext, hspans, ⟨_, hrecorded.inOrder⟩, ?_, haystack_collect hr⟩
  rcases gives_of_recorded (hrecorded.groups.trans (List.append_nil _)) h hl .full hsplit hparts hstretch with
    ⟨values, -, hok⟩ | ⟨t, cause, -, herror⟩
  · rw [Except.ok.inj (hr.symm.trans hok)]
  · cases hr.symm.trans herror

lemma Filled.replace_eq {branch : List (Segment Capture)} {parts : List Taken} (h : Filled branch haystack parts r)
    (values : List String) :
    r.replace values = .ok (String.ofList (fill branch (values ++ (parts.map Taken.raw).drop values.length))) := by
  obtain ⟨stop, horder⟩ := h.inOrder
  have hlength : (parts.map Taken.raw).length = (Segment.groups branch).length := by
    rw [← h.groups, List.length_map, List.length_map]
  obtain ⟨pieces, tail, hplaces, hpieces⟩ := Pattern.exists_pieces_fill hlength
  have hwhole : haystack.toList = Piece.whole pieces ++ tail := by
    rw [h.text, ← Piece.replaced_nil, ← hpieces []]
    rfl
  have hspans : r.captures.map (·.span) = parts.map Taken.span := by
    rw [h.captures, List.map_map]
    rfl
  have hplaced : r.captures.map (·.span) = Piece.spans 0 pieces := hspans.trans (h.spans.trans (hplaces 0))
  rw [hpieces]
  exact @MatchResult.replace_pieces r haystack [] tail pieces _ _ h.haystack hwhole hplaced (hspans ▸ horder) values

/-- Values fill in the template that a pattern of literals and groups is; where there are none left, a group keeps the
text that it captured. -/
theorem replace_fills_template (h : make types {} pattern = .ok m) (hl : m.compiled.Legible)
    (hread : Pattern.read pattern = .ok (.one segments)) (ht : Template segments) (hr : m.run .full haystack = .ok r)
    (hmatch : r.isMatch = true) :
    ∃ raws : List String, r.captures.map (·.name) = (Segment.groups segments).map (·.name) ∧
      Forall₂ (fun c raw => Stretch haystack.toList c.span raw.toList) r.captures raws ∧
      (∀ values, r.replace values = .ok (String.ofList (fill segments (values ++ raws.drop values.length)))) ∧
      r.replace [] = .ok haystack ∧ r.replace raws = .ok haystack := by
  obtain ⟨branch, hbranch, houtline⟩ := Pattern.exists_outline (compile_of_make h) hread
  have ht' : Template branch := Pattern.template_outline.mp (houtline ▸ Pattern.template_outline.mpr ht)
  have hfill : ∀ values, fill branch values = fill segments values := by
    intro values
    rw [← Pattern.fill_outline Capture.name, houtline, Pattern.fill_outline]
  have hnames : (Segment.groups branch).map Capture.name = (Segment.groups segments).map WrittenGroup.name := by
    rw [← Pattern.groups_map, ← Pattern.groups_map]
    exact congrArg Segment.groups houtline
  obtain ⟨parts, hparts⟩ := exists_filled h hl hbranch ht' hr hmatch
  have hreplace := hparts.replace_eq
  simp only [hfill] at hreplace
  have hback : String.ofList (fill segments (parts.map Taken.raw)) = haystack := by
    rw [← hfill, ← hparts.text, String.ofList_toList]
  refine ⟨parts.map Taken.raw, ?_, ?_, hreplace, ?_, ?_⟩
  · rw [← hnames, ← hparts.groups, hparts.captures, List.map_map, List.map_map]
    rfl
  · rw [hparts.captures, List.forall₂_map_left_iff, List.forall₂_map_right_iff, List.forall₂_same]
    exact hparts.stretch
  · rw [hreplace, ← hback]
    rfl
  · rw [hreplace, List.drop_length, List.append_nil, hback]

/-- Two groups capture nothing, each beside a literal, and there is a value for the first one only. -/
theorem replace_fills_template_empty : ∃ m segments r, make .empty {} "é[a][[[:1][b]" = .ok m ∧
    Pattern.read "é[a][[[:1][b]" = .ok (.one segments) ∧ Template segments ∧ m.run .full "é[ü" = .ok r ∧
      r.isMatch = true ∧ ∃ raws : List String, r.replace ["1"] = .ok (String.ofList (fill segments ("1" :: raws.drop 1))) ∧
        r.replace [] = .ok "é[ü" ∧ r.replace raws = .ok "é[ü" := by
  have hall : (Regex.result? (make .empty {} "é[a][[[:1][b]")).any (fun m =>
      m.groups.all (fun g => g.constraint.tree.legible) && (Regex.result? (m.run .full "é[ü")).any (·.isMatch)) = true ∧
      Regex.result? (Pattern.read "é[a][[[:1][b]") = some (.one [.literal ['é'], .group ⟨some "a", none, 2⟩,
        .literal ['['], .group ⟨none, some "1", 7⟩, .group ⟨some "b", none, 11⟩]) := by
    decide +kernel
  obtain ⟨m, hm, h⟩ := (Option.any_eq_true _ _).mp hall.1
  rw [Bool.and_eq_true, List.all_eq_true] at h
  obtain ⟨r, hr, hmatch⟩ := (Option.any_eq_true _ _).mp h.2
  have hm := Regex.result?_eq_some.mp hm
  have hr := Regex.result?_eq_some.mp hr
  have hread := Regex.result?_eq_some.mp hall.2
  have ht : Template ([.literal ['é'], .group ⟨some "a", none, 2⟩, .literal ['['], .group ⟨none, some "1", 7⟩,
      .group ⟨some "b", none, 11⟩] : List (Segment WrittenGroup)) := by
    simp [Template]
  obtain ⟨raws, -, -, hreplace, hnone, hsame⟩ := replace_fills_template hm h.1 hread ht hr hmatch
  exact ⟨m, _, r, hm, hread, ht, hr, hmatch, raws, hreplace ["1"], hnone, hsame⟩

/-- Without the blank of verbose mode between two hyphens the class of one group takes up the other group, which takes no
value. -/
theorem replace_drops_value_verbose : ∃ types types' m segments r,
    Registry.empty.register "t" "(?x)[a- -[x]" .identity 0 = .ok types ∧
      types.register "u" "[b]]" .identity 1 = .ok types' ∧ make types' {} "[x:t][y:u]" = .ok m ∧
        Pattern.read "[x:t][y:u]" = .ok (.one segments) ∧ Template segments ∧ m.run .full "a" = .ok r ∧
          r.isMatch = true ∧ r.replace ["1", "2"] = .ok "1" ∧
            ∀ raws : List String, fill segments (["1", "2"] ++ raws.drop 2) = "12".toList := by
  have hall : (Regex.result? (Registry.empty.register "t" "(?x)[a- -[x]" .identity 0)).any (fun types =>
      (Regex.result? (types.register "u" "[b]]" .identity 1)).any fun types' =>
        (Regex.result? (make types' {} "[x:t][y:u]")).any fun m => (Regex.result? (m.run .full "a")).any fun r =>
          r.haystack == some "a" && r.captures == [⟨some "x", ⟨0, 1⟩⟩]) = true ∧
      Regex.result? (Pattern.read "[x:t][y:u]") = some (.one [.group ⟨some "x", some "t", 0⟩,
        .group ⟨some "y", some "u", 5⟩]) := by
    decide +kernel
  obtain ⟨types, ht, h⟩ := (Option.any_eq_true _ _).mp hall.1
  obtain ⟨types', ht', h⟩ := (Option.any_eq_true _ _).mp h
  obtain ⟨m, hm, h⟩ := (Option.any_eq_true _ _).mp h
  obtain ⟨r, hr, h⟩ := (Option.any_eq_true _ _).mp h
  rw [Bool.and_eq_true, beq_iff_eq, beq_iff_eq] at h
  have hsorted : [(⟨0, 1⟩ : ByteSpan)].mergeSort Edit.spanLe = [⟨0, 1⟩] := List.mergeSort_singleton _
  refine ⟨types, types', m, _, r, Regex.result?_eq_some.mp ht, Regex.result?_eq_some.mp ht',
    Regex.result?_eq_some.mp hm, Regex.result?_eq_some.mp hall.2, by simp [Template], Regex.result?_eq_some.mp hr, ?_, ?_,
    fun raws => rfl⟩
  · rw [MatchResult.isMatch, h.1]
    rfl
  · rw [MatchResult.replace, h.1, h.2]
    dsimp only
    rw [Edit.inOrder, List.map_cons, List.map_nil, hsorted]
    rfl

end Matcher

end TypedPattern
