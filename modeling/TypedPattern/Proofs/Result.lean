import TypedPattern.Proofs.Found

/-! What a match gives: the groups of one branch, each converted, and nulls in the places of those of the other one. -/

namespace TypedPattern

open List (Forall₂)
open Pattern (Config Capture Segment)
open Regex (Core Match Point Program Stretch)
open Text (ByteSpan)

/-- A group that took part in a match: where, and the text there. -/
structure Taken where
  group : Capture
  span : ByteSpan
  raw : String

def nulls (groups : List Capture) : List Value :=
  (groups.filter (·.name.isNone)).map fun _ => .null

namespace Taken

def Converts (p : Taken) (value : Value) : Prop :=
  p.group.convert p.raw = .ok value

def captured (p : Taken) : Captured :=
  ⟨p.group.name, p.span⟩

def named (parts : List Taken) (values : List Value) : List (String × Value) :=
  (parts.zip values).filterMap fun x => x.1.group.name.map (·, x.2)

def unnamed (parts : List Taken) (values : List Value) : List Value :=
  (parts.zip values).filterMap fun x => if x.1.group.name.isNone then some x.2 else none

/-- The first part whose text cannot be converted. -/
def FailsAt (parts : List Taken) (p : Taken) (cause : ConvertError) : Prop :=
  ∃ before after values, parts = before ++ p :: after ∧ Forall₂ Converts before values ∧
    p.group.convert p.raw = .error cause

lemma failsAt_cons {p q : Taken} {parts : List Taken} {value : Value} {cause : ConvertError} (hp : p.Converts value)
    (h : FailsAt parts q cause) : FailsAt (p :: parts) q cause := by
  obtain ⟨before, after, values, rfl, hall, hq⟩ := h
  exact ⟨p :: before, after, value :: values, rfl, .cons hp hall, hq⟩

lemma names_named {parts : List Taken} {values : List Value} (h : Forall₂ Converts parts values) :
    (named parts values).map (·.1) = (parts.map group).filterMap (·.name) := by
  induction h with
  | nil => rfl
  | @cons p v parts values _ _ ih =>
    rw [named, List.zip_cons_cons, List.filterMap_cons, List.map_cons, List.filterMap_cons]
    cases p.group.name with
    | none => exact ih
    | some name => exact congrArg (name :: ·) ih

end Taken

open Taken (Converts FailsAt named unnamed captured)

/-- The outcome of a match where some groups took part, which stand in a pattern between others that did not. -/
def Gives (haystack : String) (before behind : List Capture) (parts : List Taken)
    (outcome : Except Error MatchResult) : Prop :=
  (∃ values, Forall₂ Converts parts values ∧ outcome = .ok ⟨named parts values,
      nulls before ++ unnamed parts values ++ nulls behind, parts.map captured, some haystack⟩) ∨
    ∃ p cause, FailsAt parts p cause ∧ outcome = .error (.conversion p.group.label p.raw cause)

namespace MatchResult

lemma put_of_new {name : String} {named : List (String × Value)} (h : name ∉ named.map (·.1)) (value : Value) :
    put name value named = named ++ [(name, value)] := by
  induction named with
  | nil => rfl
  | cons x rest ih =>
    obtain ⟨hx, hrest⟩ := not_or.mp (fun hm => h (List.mem_cons.mpr hm))
    rw [put, if_neg (fun he => hx he.symm), ih hrest, List.cons_append]

end MatchResult

namespace Matcher

/-- A result with the values of further groups that took part. -/
def extended (r : MatchResult) (parts : List Taken) (values : List Value) : MatchResult :=
  ⟨r.named ++ named parts values, r.unnamed ++ unnamed parts values, r.captures ++ parts.map captured, r.haystack⟩

lemma extended_cons (r : MatchResult) {p : Taken} {parts : List Taken} {value : Value} {values : List Value}
    (h : ∀ name ∈ p.group.name, name ∉ r.named.map (·.1)) :
    extended (r.addPresent p.group.name value p.span) parts values = extended r (p :: parts) (value :: values) := by
  unfold extended Taken.named Taken.unnamed
  cases hn : p.group.name with
  | none => simp [MatchResult.addPresent, hn, captured]
  | some name => simp [MatchResult.addPresent, MatchResult.put_of_new (h name hn), hn, captured]

variable {program : Program} {haystack : String} {found : Match}

lemma collect_absent {groups : List Capture} (h : ∀ c ∈ groups, program.group? found c.id = none)
    (rest : List Capture) (r : MatchResult) : collect program haystack found (groups ++ rest) r =
      collect program haystack found rest { r with unnamed := r.unnamed ++ nulls groups } := by
  induction groups generalizing r with
  | nil =>
    rw [nulls, List.filter_nil, List.map_nil, List.append_nil, List.nil_append]
  | cons c groups ih =>
    rw [List.cons_append, collect, h c List.mem_cons_self]
    dsimp only
    rw [ih fun d hd => h d (List.mem_cons_of_mem c hd)]
    congr 1
    cases hn : c.name with
    | none => simp [MatchResult.addAbsent, nulls, hn]
    | some name => simp [MatchResult.addAbsent, nulls, hn]

/-- The text of a part is the one at its place. -/
def Reads (program : Program) (haystack : String) (found : Match) (p : Taken) : Prop :=
  program.group? found p.group.id = some p.span ∧
    Text.sliceBytes p.span.start p.span.stop haystack.toList = some p.raw.toList

lemma collect_error {p : Taken} (h : Reads program haystack found p) {cause : ConvertError}
    (hp : p.group.convert p.raw = .error cause) (rest : List Capture) (r : MatchResult) :
    collect program haystack found (p.group :: rest) r = .error (.conversion p.group.label p.raw cause) := by
  obtain ⟨hgroup, hraw⟩ := h
  rw [collect, hgroup]
  dsimp only
  rw [hraw, Option.getD_some, String.ofList_toList, hp]

lemma collect_ok {p : Taken} (h : Reads program haystack found p) {value : Value} (hp : p.Converts value)
    (rest : List Capture) (r : MatchResult) : collect program haystack found (p.group :: rest) r =
      collect program haystack found rest (r.addPresent p.group.name value p.span) := by
  obtain ⟨hgroup, hraw⟩ := h
  have hp : p.group.convert p.raw = .ok value := hp
  rw [collect, hgroup]
  dsimp only
  rw [hraw, Option.getD_some, String.ofList_toList, hp]

lemma collect_present {parts : List Taken} (h : ∀ p ∈ parts, Reads program haystack found p) (rest : List Capture)
    {r : MatchResult} (hnames : (r.named.map (·.1) ++ (parts.map Taken.group).filterMap (·.name)).Nodup) :
    (∃ values, Forall₂ Converts parts values ∧ collect program haystack found (parts.map Taken.group ++ rest) r =
        collect program haystack found rest (extended r parts values)) ∨
      ∃ p cause, FailsAt parts p cause ∧
        collect program haystack found (parts.map Taken.group ++ rest) r = .error (.conversion p.group.label p.raw cause) := by
  induction parts generalizing r with
  | nil =>
    refine Or.inl ⟨[], .nil, ?_⟩
    simp [extended, named, unnamed]
  | cons p parts ih =>
    have hread := h p List.mem_cons_self
    rw [List.map_cons, List.cons_append]
    cases hp : p.group.convert p.raw with
    | error cause => exact Or.inr ⟨p, cause, ⟨[], parts, [], rfl, .nil, hp⟩, collect_error hread hp _ r⟩
    | ok value =>
      rw [collect_ok hread hp]
      -- the names differ, so that no value takes the place of another one
      have hnew : ∀ name ∈ p.group.name, name ∉ r.named.map (·.1) := by
        intro name hn hm
        refine List.disjoint_of_nodup_append hnames hm ?_
        exact List.mem_filterMap.mpr ⟨p.group, List.mem_cons_self, hn⟩
      have hnext : ((r.addPresent p.group.name value p.span).named.map (·.1) ++
          (parts.map Taken.group).filterMap (·.name)).Nodup := by
        cases hn : p.group.name with
        | none => simpa [MatchResult.addPresent, hn] using hnames
        | some name =>
          rw [MatchResult.addPresent, MatchResult.put_of_new (hnew name hn)]
          simpa [hn] using hnames
      rcases ih (fun q hq => h q (List.mem_cons_of_mem p hq)) hnext with ⟨values, hall, hc⟩ | ⟨q, cause, hq, hc⟩
      · refine Or.inl ⟨value :: values, .cons hp hall, ?_⟩
        rw [hc, extended_cons r hnew]
      · exact Or.inr ⟨q, cause, Taken.failsAt_cons hp hq, hc⟩

variable {types : Registry} {config : Config} {pattern : String} {m : Matcher}

/-- What a match may come to: the groups of one branch took part, and none of another one. -/
def Shape (m : Matcher) (haystack : String) (outcome : Except Error MatchResult) : Prop :=
  ∃ before branch behind parts, m.compiled.branches.toList = before ++ branch :: behind ∧
    parts.map Taken.group = Segment.groups branch ∧
    (∀ p ∈ parts, Stretch haystack.toList p.span p.raw.toList) ∧
    Gives haystack (before.flatMap Segment.groups) (behind.flatMap Segment.groups) parts outcome

lemma names_program (h : make types config pattern = .ok m) (hl : m.compiled.Legible) (mode : Mode) :
    (m.program mode).names = m.groups.map fun g => some g.id.toList := by
  obtain ⟨-, -, hnames⟩ := bare_of_make h hl
  obtain ⟨hb, hc⟩ := make_ok h
  have hclosed : m.closed.names = m.groups.map fun g => some g.id.toList :=
    (Program.ofText_enclose hb hc).2.trans hnames
  cases mode with
  | full => exact hclosed
  | start => exact hnames
  | stop => exact hclosed
  | search => exact hnames

lemma group?_program (h : make types config pattern = .ok m) (hl : m.compiled.Legible) (mode : Mode) {c : Capture}
    (hc : c ∈ m.groups) : (m.program mode).group? found c.id = found.group? c.order := by
  have hs := sound_of_make h
  obtain ⟨i, hi, hget⟩ := List.getElem_of_mem hc
  have hi' : i < m.compiled.groups.length := hi
  have horder : c.order = i := by
    have hrange : (m.compiled.groups.map (·.order))[i]? = (List.range m.compiled.groups.length)[i]? := by rw [hs.orders]
    rw [List.getElem?_map, List.getElem?_range hi', List.getElem?_eq_getElem hi'] at hrange
    rw [← hget]
    exact Option.some.inj hrange
  have hids : (m.groups.map fun g => some g.id.toList).Nodup := by
    have hmap := hs.ids_nodup.map (f := fun id => some id.toList) fun a b hab =>
      String.toList_injective (Option.some.inj hab)
    rwa [List.map_map] at hmap
  have hfind : (m.program mode).names.findIdx? (· == some c.id.toList) = some i := by
    rw [names_program h hl, List.findIdx?_eq_some_iff_getElem]
    refine ⟨by simpa using hi, by simp [hget], fun j hj he => ?_⟩
    have hlen : i < (m.groups.map fun g => some g.id.toList).length := by simpa using hi
    have hsame : (m.groups.map fun g => some g.id.toList).get ⟨j, hj.trans hlen⟩ =
        (m.groups.map fun g => some g.id.toList).get ⟨i, hlen⟩ := by
      rw [beq_iff_eq] at he
      exact he.trans (by simp [hget])
    exact absurd ((List.Nodup.getElem_inj_iff hids).mp hsame) (Nat.ne_of_lt hj)
  rw [Program.group?, hfind, Option.bind_some, horder]

lemma lookup_of_mem {α : Type} {gs : List (Nat × α)} (h : (gs.map (·.1)).Nodup) {g : Nat × α} (hg : g ∈ gs) :
    gs.lookup g.1 = some g.2 := by
  induction gs with
  | nil => cases hg
  | cons x gs ih =>
    obtain ⟨hx, hgs⟩ := List.nodup_cons.mp h
    rcases List.mem_cons.mp hg with rfl | hg
    · exact List.lookup_cons_self
    · have hmem : g.1 ∈ gs.map (·.1) := List.mem_map_of_mem hg
      have hne : (g.1 == x.1) = false := beq_eq_false_iff_ne.mpr fun he => hx (Eq.subst he hmem)
      rw [List.lookup_cons, hne]
      exact ih hgs hg

lemma exists_parts {text : List Char} {groups : List Capture} {gs : List (Nat × ByteSpan)}
    (hgs : gs.map (·.1) = groups.map (·.order)) (hall : ∀ g ∈ gs, ∃ raw, Stretch text g.2 raw) :
    ∃ parts : List Taken, parts.map Taken.group = groups ∧ (∀ p ∈ parts, Stretch text p.span p.raw.toList) ∧
      parts.map (fun p => (p.group.order, p.span)) = gs := by
  induction groups generalizing gs with
  | nil =>
    obtain rfl := List.map_eq_nil_iff.mp hgs
    exact ⟨[], rfl, fun p hp => (nomatch hp), rfl⟩
  | cons c groups ih =>
    cases gs with
    | nil => cases hgs
    | cons g gs =>
      obtain ⟨hc, hrest⟩ := List.cons.inj hgs
      obtain ⟨raw, hraw⟩ := hall g List.mem_cons_self
      obtain ⟨parts, hgroups, hstretch, hspans⟩ := ih hrest fun k hk => hall k (List.mem_cons_of_mem g hk)
      refine ⟨⟨c, g.2, String.ofList raw⟩ :: parts, ?_, List.forall_mem_cons.mpr ⟨?_, hstretch⟩, ?_⟩
      · rw [List.map_cons, hgroups]
      · rw [String.toList_ofList]
        exact hraw
      · have hc : g.1 = c.order := hc
        rw [List.map_cons, hspans, ← hc]

lemma slice_of_stretch {text : List Char} {span : ByteSpan} {raw : List Char} (h : Stretch text span raw) :
    Text.sliceBytes span.start span.stop text = some raw := by
  obtain ⟨before, after, rfl, rfl⟩ := h
  rw [Text.byteLength_append]
  exact Text.sliceBytes_append before raw after

section Recorded

variable {haystack : String} {parts : List Taken}
  (hrecorded : found.stop.groups = (parts.map fun p => (p.group.order, p.span)).reverse)

include hrecorded

lemma absent_of_recorded (h : make types config pattern = .ok m) (hl : m.compiled.Legible) (mode : Mode) {c : Capture}
    (hc : c ∈ m.groups) (hne : c.order ∉ (parts.map Taken.group).map (·.order)) :
    (m.program mode).group? found c.id = none := by
  rw [group?_program h hl mode hc, Match.group?, hrecorded, List.lookup_eq_none_iff]
  intro g hg
  obtain ⟨p, hp, rfl⟩ := List.mem_map.mp (List.mem_reverse.mp hg)
  have hmem : p.group.order ∈ (parts.map Taken.group).map (·.order) := List.mem_map_of_mem (List.mem_map_of_mem hp)
  exact bne_iff_ne.mpr fun he => hne (he ▸ hmem)

lemma reads_of_recorded (h : make types config pattern = .ok m) (hl : m.compiled.Legible) (mode : Mode)
    (hnodup : ((parts.map Taken.group).map (·.order)).Nodup) (hgroups : ∀ p ∈ parts, p.group ∈ m.groups)
    (hstretch : ∀ p ∈ parts, Stretch haystack.toList p.span p.raw.toList) {p : Taken} (hp : p ∈ parts) :
    Reads (m.program mode) haystack found p := by
  have hmem : (p.group.order, p.span) ∈ (parts.map fun p => (p.group.order, p.span)).reverse :=
    List.mem_reverse.mpr (List.mem_map_of_mem hp)
  refine ⟨?_, slice_of_stretch (hstretch p hp)⟩
  rw [group?_program h hl mode (hgroups p hp), Match.group?, hrecorded]
  refine lookup_of_mem ?_ hmem
  rw [List.map_reverse, List.nodup_reverse, List.map_map]
  rwa [List.map_map] at hnodup

/-- What the groups of one branch come to, where the run recorded them and no others. -/
lemma gives_of_recorded (h : make types config pattern = .ok m) (hl : m.compiled.Legible) (mode : Mode)
    {before behind : List (List (Segment Capture))} {branch : List (Segment Capture)}
    (hsplit : m.compiled.branches.toList = before ++ branch :: behind) (hparts : parts.map Taken.group = Segment.groups branch)
    (hstretch : ∀ p ∈ parts, Stretch haystack.toList p.span p.raw.toList) :
    Gives haystack (before.flatMap Segment.groups) (behind.flatMap Segment.groups) parts
      (m.resultOf (m.program mode) haystack found) := by
  have hs := sound_of_make h
  have hgroups : m.groups = before.flatMap Segment.groups ++ (parts.map Taken.group ++ behind.flatMap Segment.groups) := by
    rw [hparts, groups, Pattern.Compiled.groups, hsplit, List.flatMap_append, List.flatMap_cons]
  have horders : (m.groups.map (·.order)).Nodup := hs.orders_nodup
  rw [hgroups, List.map_append, List.map_append] at horders
  obtain ⟨-, hinner, hfront⟩ := List.nodup_append.mp horders
  obtain ⟨htaken, -, hback⟩ := List.nodup_append.mp hinner
  have hnames : (m.groups.filterMap (·.name)).Nodup := hs.names
  rw [hgroups, List.filterMap_append, List.filterMap_append] at hnames
  have htakenNames := (List.nodup_append.mp (List.nodup_append.mp hnames).2.1).1
  -- an order stands in one branch only, and the run recorded the orders of this one
  have hbefore : ∀ c ∈ before.flatMap Segment.groups, (m.program mode).group? found c.id = none := fun c hc =>
    absent_of_recorded hrecorded h hl mode (hgroups ▸ List.mem_append_left _ hc) fun hm =>
      hfront _ (List.mem_map_of_mem hc) _ (List.mem_append_left _ hm) rfl
  have hbehind : ∀ c ∈ behind.flatMap Segment.groups, (m.program mode).group? found c.id = none := fun c hc =>
    absent_of_recorded hrecorded h hl mode (hgroups ▸ List.mem_append_right _ (List.mem_append_right _ hc)) fun hm =>
      hback _ hm _ (List.mem_map_of_mem hc) rfl
  have hreads : ∀ q ∈ parts, Reads (m.program mode) haystack found q := fun q hq =>
    reads_of_recorded hrecorded h hl mode htaken
      (fun p hp => hgroups ▸ List.mem_append_right _ (List.mem_append_left _ (List.mem_map_of_mem hp))) hstretch hq
  have hcollect := @collect_present (m.program mode) haystack found parts hreads (behind.flatMap Segment.groups)
    { MatchResult.matched haystack with unnamed := [] ++ nulls (before.flatMap Segment.groups) } htakenNames
  have hresult : m.resultOf (m.program mode) haystack found =
      collect (m.program mode) haystack found (parts.map Taken.group ++ behind.flatMap Segment.groups)
        { MatchResult.matched haystack with unnamed := [] ++ nulls (before.flatMap Segment.groups) } := by
    rw [resultOf, hgroups, collect_absent hbefore]
    rfl
  rw [hresult]
  rcases hcollect with ⟨values, hvalues, hc⟩ | ⟨q, cause, hq, hc⟩
  · refine Or.inl ⟨values, hvalues, ?_⟩
    rw [hc, ← List.append_nil (behind.flatMap Segment.groups), collect_absent hbehind, List.append_nil, collect]
    rfl
  · exact Or.inr ⟨q, cause, hq, hc⟩

end Recorded

lemma shape_of_foundAt (h : make types config pattern = .ok m) (hl : m.compiled.Legible) {mode : Mode} {haystack : String}
    {p : Point} (hf : m.FoundAt mode haystack.toList found p) : m.Shape haystack (m.resultOf (m.program mode) haystack found) := by
  obtain ⟨hcore, -, -⟩ := bare_of_make h hl
  have hstop := hf.stop
  rw [hcore] at hstop
  obtain ⟨branch, hbranch, hgains⟩ :=
    Pattern.gains_core (sound_of_make h).ordered hf.starts (localOn_stops mode _) hstop
  obtain ⟨before, behind, hsplit⟩ := List.append_of_mem hbranch
  obtain ⟨gs, hgs, horders, hall⟩ := hgains.groups
  obtain ⟨parts, hparts, hstretch, hspans⟩ := exists_parts horders hall
  have hrecorded : found.stop.groups = (parts.map fun p => (p.group.order, p.span)).reverse := by
    have hclear : found.stop.groups = gs.reverse ++ p.groups := hgs
    rw [hclear, hf.starts.groups, List.append_nil, hspans]
  exact ⟨before, branch, behind, parts, hsplit, hparts, hstretch,
    gives_of_recorded hrecorded h hl mode hsplit hparts hstretch⟩

/-- The results of several matches, or the first error. -/
def resultsInTurn : List (Except Error MatchResult) → Except Error MatchList
  | [] => .ok []
  | outcome :: rest => do
    let r ← outcome
    let rs ← resultsInTurn rest
    .ok (r :: rs)

lemma resultsOf_eq (m : Matcher) (haystack : String) (founds : List Match) :
    m.resultsOf haystack founds = resultsInTurn (founds.map (m.resultOf m.bare haystack)) := by
  induction founds with
  | nil => rfl
  | cons found founds ih => rw [resultsOf, ih, List.map_cons, resultsInTurn]

lemma length_unnamed {parts : List Taken} {values : List Value} (h : Forall₂ Converts parts values) :
    (unnamed parts values).length = ((parts.map Taken.group).filter (·.name.isNone)).length := by
  induction h with
  | nil => rfl
  | @cons p v parts values _ _ ih =>
    rw [unnamed, List.zip_cons_cons, List.filterMap_cons, List.map_cons, List.filter_cons]
    cases p.group.name.isNone with
    | true => exact congrArg (· + 1) ih
    | false => exact ih

lemma length_nulls (groups : List Capture) : (nulls groups).length = (groups.filter (·.name.isNone)).length :=
  List.length_map ..

lemma shape_ok (h : make types config pattern = .ok m) {haystack : String} {r : MatchResult}
    (hr : m.Shape haystack (.ok r)) : r.isMatch = true ∧ (r.named.map (·.1)).Nodup ∧
      r.unnamed.length = (m.groups.filter (·.name.isNone)).length := by
  obtain ⟨before, branch, behind, parts, hsplit, hparts, -, ⟨values, hvalues, hok⟩ | ⟨p, cause, -, herror⟩⟩ := hr
  · have hgroups : m.groups =
        before.flatMap Segment.groups ++ (Segment.groups branch ++ behind.flatMap Segment.groups) := by
      rw [groups, Pattern.Compiled.groups, hsplit, List.flatMap_append, List.flatMap_cons]
    obtain rfl := Except.ok.inj hok
    refine ⟨rfl, ?_, ?_⟩
    · have hall : (m.groups.filterMap (·.name)).Nodup := (sound_of_make h).names
      rw [hgroups, List.filterMap_append, List.filterMap_append] at hall
      rw [Taken.names_named hvalues, hparts]
      exact (List.nodup_append.mp (List.nodup_append.mp hall).2.1).1
    · rw [hgroups, List.filter_append, List.filter_append, List.length_append, List.length_append, List.length_append,
        List.length_append, length_nulls, length_nulls, length_unnamed hvalues, hparts, Nat.add_assoc]
  · cases herror

/-- In every mode nothing is found, or the groups of one branch took part: their values by name and by position, nulls in
the places of the others, or the error of the first one that cannot be converted. -/
theorem result_shape (h : make types config pattern = .ok m) (hl : m.compiled.Legible) (haystack : String) :
    (∀ mode, m.run mode haystack = .ok .noMatch ∨ m.Shape haystack (m.run mode haystack)) ∧
      (∃ outcomes, (∀ o ∈ outcomes, m.Shape haystack o) ∧ m.searchAll haystack = resultsInTurn outcomes) ∧
      ∀ r, m.Shape haystack (.ok r) → r.isMatch = true ∧ (r.named.map (·.1)).Nodup ∧
        r.unnamed.length = (m.groups.filter (·.name.isNone)).length := by
  refine ⟨fun mode => ?_, ⟨_, fun o ho => ?_, m.resultsOf_eq haystack _⟩, fun r => shape_ok h⟩
  · cases hf : m.find? mode haystack.toList with
    | none =>
      left
      rw [run, hf]
    | some found =>
      right
      obtain ⟨p, hp⟩ := exists_foundAt h hf
      rw [run_of_find? hf]
      exact shape_of_foundAt h hl hp
  · obtain ⟨found, hfound, rfl⟩ := List.mem_map.mp ho
    obtain ⟨p, hp⟩ := foundAt_of_mem_searchAll h hfound
    exact shape_of_foundAt h hl hp

/-- The second branch matches: the group without a name in the first one leaves a null. -/
theorem result_shape_branches : ∃ m r, make .empty {} "[a:2][:1]|x[b]" = .ok m ∧ m.run .full "xy" = .ok r ∧
    r.named = [("b", .text "y")] ∧ r.unnamed = [.null] ∧ m.Shape "xy" (.ok r) := by
  have hall : (Regex.result? (make .empty {} "[a:2][:1]|x[b]")).any (fun m =>
      m.groups.all (fun g => g.constraint.tree.legible) && (Regex.result? (m.run .full "xy")).any fun r =>
        r.isMatch && (r.named == [("b", .text "y")] && r.unnamed == [.null])) = true := by
    decide +kernel
  obtain ⟨m, hm, h⟩ := (Option.any_eq_true _ _).mp hall
  rw [Bool.and_eq_true, List.all_eq_true] at h
  obtain ⟨r, hr, hvalues⟩ := (Option.any_eq_true _ _).mp h.2
  simp only [Bool.and_eq_true, beq_iff_eq] at hvalues
  have hm := Regex.result?_eq_some.mp hm
  have hr := Regex.result?_eq_some.mp hr
  refine ⟨m, r, hm, hr, hvalues.2.1, hvalues.2.2, ?_⟩
  rcases (result_shape hm h.1 "xy").1 .full with hmiss | hshape
  · cases hr.symm.trans hmiss
    cases hvalues.1
  · rwa [hr] at hshape

/-- Without the blank of verbose mode between two hyphens the class of one group takes up the other group. -/
theorem result_shape_verbose : ∃ types types' m r,
    Registry.empty.register "t" "(?x)[a- -[x]" .identity 0 = .ok types ∧
      types.register "u" "[b]]" .identity 1 = .ok types' ∧ make types' {} "[x:t][y:u]" = .ok m ∧
        m.run .full "a" = .ok r ∧ r.isMatch = true ∧ r.named = [("x", .text "a")] ∧ ¬m.Shape "a" (.ok r) := by
  have hall : (Regex.result? (Registry.empty.register "t" "(?x)[a- -[x]" .identity 0)).any (fun types =>
      (Regex.result? (types.register "u" "[b]]" .identity 1)).any fun types' =>
        (Regex.result? (make types' {} "[x:t][y:u]")).any fun m => (Regex.result? (m.run .full "a")).any fun r =>
          r.isMatch && (r.named == [("x", .text "a")] && (r.captures.length == 1 &&
            m.compiled.branches.toList.all fun b => (Segment.groups b).length == 2))) = true := by
    decide +kernel
  obtain ⟨types, ht, h⟩ := (Option.any_eq_true _ _).mp hall
  obtain ⟨types', ht', h⟩ := (Option.any_eq_true _ _).mp h
  obtain ⟨m, hm, h⟩ := (Option.any_eq_true _ _).mp h
  obtain ⟨r, hr, h⟩ := (Option.any_eq_true _ _).mp h
  simp only [Bool.and_eq_true, beq_iff_eq, List.all_eq_true] at h
  obtain ⟨hmatch, hnamed, hcaptures, hbranches⟩ := h
  refine ⟨types, types', m, r, Regex.result?_eq_some.mp ht, Regex.result?_eq_some.mp ht',
    Regex.result?_eq_some.mp hm, Regex.result?_eq_some.mp hr, hmatch, hnamed, ?_⟩
  rintro ⟨before, branch, behind, parts, hsplit, hparts, -, ⟨values, -, hok⟩ | ⟨p, cause, -, herror⟩⟩
  · have htwo := hbranches branch (hsplit ▸ List.mem_append_right _ List.mem_cons_self)
    rw [← hparts, List.length_map] at htwo
    have hone : r.captures.length = parts.length := by
      rw [Except.ok.inj hok]
      exact List.length_map ..
    omega
  · cases herror

end Matcher

end TypedPattern
