import TypedPattern.Proofs.Spans
import TypedPattern.Proofs.Matching.Search

/-! A search for all matches visits the text once, so that every value finds its place when captures are replaced. -/

namespace TypedPattern

open List (Forall₂)
open Pattern (Config)
open Regex (Core Match Point Program Stretch)
open Text (ByteSpan byteLength)

/-- A capture with the text between it and the one before. -/
structure Piece where
  gap : List Char
  raw : List Char

namespace Piece

def whole (pieces : List Piece) : List Char :=
  pieces.flatMap fun p => p.gap ++ p.raw

lemma whole_cons (p : Piece) (rest : List Piece) : whole (p :: rest) = p.gap ++ p.raw ++ whole rest := rfl

def spans : Nat → List Piece → List ByteSpan
  | _, [] => []
  | n, p :: rest => ⟨n + byteLength p.gap, n + byteLength (p.gap ++ p.raw)⟩ :: spans (n + byteLength (p.gap ++ p.raw)) rest

/-- The text with values in the place of captures, for as long as there are values. -/
def replaced : List Piece → List String → List Char
  | [], _ => []
  | pieces@(_ :: _), [] => whole pieces
  | p :: rest, value :: values => p.gap ++ value.toList ++ replaced rest values

end Piece

namespace Text

lemma prefix_of_byteLength_le {a b text : List Char} (ha : a <+: text) (hb : b <+: text)
    (h : byteLength a ≤ byteLength b) : a <+: b := by
  rcases List.prefix_or_prefix_of_prefix ha hb with hab | ⟨c, rfl⟩
  · exact hab
  · cases c with
    | nil => exact (List.append_nil b).symm ▸ List.prefix_refl _
    | cons d c =>
      have hpos := Char.utf8Size_pos d
      rw [byteLength_append, byteLength] at h
      omega

end Text

lemma exists_pieces {before rest : List Char} {spans : List ByteSpan} {n : Nat}
    (h : InOrder (byteLength before) spans n) (hs : ∀ s ∈ spans, ∃ raw, Stretch (before ++ rest) s raw) :
    ∃ pieces tail, rest = Piece.whole pieces ++ tail ∧ spans = Piece.spans (byteLength before) pieces := by
  induction spans generalizing before rest with
  | nil => exact ⟨[], rest, rfl, rfl⟩
  | cons s spans ih =>
    obtain ⟨hstart, -, h⟩ := h
    obtain ⟨raw, b, a, htext, rfl⟩ := hs s List.mem_cons_self
    obtain ⟨gap, rfl⟩ := Text.prefix_of_byteLength_le (List.prefix_append before rest)
      ⟨raw ++ a, by rw [htext, List.append_assoc]⟩ hstart
    have hrest : rest = gap ++ raw ++ a := by
      rw [List.append_assoc, List.append_assoc] at htext
      rw [List.append_cancel_left htext, List.append_assoc]
    obtain ⟨pieces, tail, rfl, hspans⟩ := @ih (before ++ gap ++ raw) a h fun t ht => by
      rw [← htext]
      exact hs t (List.mem_cons_of_mem _ ht)
    have hall : byteLength (before ++ gap ++ raw) = byteLength before + byteLength (gap ++ raw) := by
      rw [List.append_assoc, Text.byteLength_append]
    refine ⟨⟨gap, raw⟩ :: pieces, tail, ?_, ?_⟩
    · rw [hrest, Piece.whole_cons, List.append_assoc _ (Piece.whole pieces)]
    · rw [Piece.spans, Text.byteLength_append, hspans, hall]

namespace Edit

lemma weave_pieces (done before : List Char) (pieces : List Piece) (tail : List Char) (values : List String) :
    weave (done ++ (before ++ (Piece.whole pieces ++ tail))) (byteLength done)
        ((Piece.spans (byteLength (done ++ before)) pieces).zipWith Edit.mk values) =
      .ok (before ++ (Piece.replaced pieces values ++ tail)) := by
  have hend : ∀ done rest : List Char, weave (done ++ rest) (byteLength done) [] = .ok rest := by
    intro done rest
    have hslice := Text.slice_append done rest []
    rwa [List.append_nil] at hslice
  induction pieces generalizing done before values with
  | nil => exact hend done (before ++ tail)
  | cons p pieces ih =>
    cases values with
    | nil => exact hend done _
    | cons value values =>
      have hwhole : done ++ (before ++ (Piece.whole (p :: pieces) ++ tail)) =
          done ++ (before ++ p.gap) ++ (p.raw ++ (Piece.whole pieces ++ tail)) := by
        simp only [Piece.whole_cons, List.append_assoc]
      have hstart : byteLength (done ++ before) + byteLength p.gap = byteLength (done ++ (before ++ p.gap)) := by
        rw [← List.append_assoc, Text.byteLength_append _ p.gap]
      have hstop : byteLength (done ++ before) + byteLength (p.gap ++ p.raw) =
          byteLength (done ++ (before ++ p.gap) ++ p.raw) := by
        simp only [Text.byteLength_append]
        omega
      have hle : byteLength done ≤ byteLength (done ++ (before ++ p.gap)) := by
        rw [Text.byteLength_append]
        exact Nat.le_add_right _ _
      have hkept := Text.slice_append done (before ++ p.gap) (p.raw ++ (Piece.whole pieces ++ tail))
      have hmore := ih (done ++ (before ++ p.gap) ++ p.raw) [] values
      simp only [List.nil_append, List.append_nil] at hmore
      rw [List.append_assoc _ p.raw] at hmore
      rw [hwhole, Piece.spans, List.zipWith_cons_cons, weave, hstart, hstop,
        if_neg (Nat.not_lt.mpr hle), hkept]
      dsimp only
      rw [hmore, Piece.replaced]
      exact congrArg Except.ok (by simp only [List.append_assoc])

lemma apply_pieces {haystack : String} {before tail : List Char} {pieces : List Piece}
    (ht : haystack.toList = before ++ (Piece.whole pieces ++ tail)) (values : List String) :
    apply haystack ((Piece.spans (byteLength before) pieces).zipWith Edit.mk values) =
      .ok (String.ofList (before ++ (Piece.replaced pieces values ++ tail))) := by
  have hweave := weave_pieces [] before pieces tail values
  rw [List.nil_append, List.nil_append, byteLength] at hweave
  rw [apply, ht, hweave]

end Edit

lemma MatchResult.replace_sorted {r : MatchResult} {haystack : String} {spans : List ByteSpan}
    (hh : r.haystack = some haystack) (hs : r.captures.map (·.span) = spans)
    (ho : spans.mergeSort Edit.spanLe = spans) (values : List String) :
    r.replace values = Edit.apply haystack (spans.zipWith Edit.mk values) := by
  rw [MatchResult.replace, hh]
  dsimp only
  rw [Edit.inOrder, hs, ho]

lemma MatchResult.replace_pieces {r : MatchResult} {haystack : String} {before tail : List Char} {pieces : List Piece}
    {a b : Nat} (hh : r.haystack = some haystack) (ht : haystack.toList = before ++ (Piece.whole pieces ++ tail))
    (hs : r.captures.map (·.span) = Piece.spans (byteLength before) pieces)
    (ho : InOrder a (r.captures.map (·.span)) b) (values : List String) :
    r.replace values = .ok (String.ofList (before ++ (Piece.replaced pieces values ++ tail))) := by
  rw [MatchResult.replace_sorted hh hs (hs ▸ ho.mergeSort_eq), Edit.apply_pieces ht]

lemma MatchList.replace_sorted {l : MatchList} {haystack : String} {spans : List ByteSpan}
    (hh : l.findSome? (·.haystack) = some haystack) (hs : (l.flatMap (·.captures)).map (·.span) = spans)
    (ho : spans.mergeSort Edit.spanLe = spans) (values : List String) :
    l.replace values = Edit.apply haystack (spans.zipWith Edit.mk values) := by
  rw [MatchList.replace, hh]
  dsimp only
  rw [Edit.inOrder, hs, ho]

lemma MatchList.replace_pieces {l : MatchList} {haystack : String} {pieces : List Piece} {tail : List Char} {n : Nat}
    (hne : l ≠ []) (hh : ∀ r ∈ l, r.haystack = some haystack) (ht : haystack.toList = Piece.whole pieces ++ tail)
    (hs : (l.flatMap (·.captures)).map (·.span) = Piece.spans 0 pieces)
    (ho : InOrder 0 ((l.flatMap (·.captures)).map (·.span)) n) (values : List String) :
    l.replace values = .ok (String.ofList (Piece.replaced pieces values ++ tail)) := by
  have hfirst : l.findSome? (·.haystack) = some haystack := by
    obtain ⟨r, rest, rfl⟩ := List.exists_cons_of_ne_nil hne
    rw [List.findSome?_cons, hh r List.mem_cons_self]
  rw [MatchList.replace_sorted hfirst hs (hs ▸ ho.mergeSort_eq)]
  exact @Edit.apply_pieces _ [] _ _ ht values

namespace Regex

/-- The groups that have begun at a point began at it or before, and those that have ended are stretches of the text. -/
structure Point.Kept (text : List Char) (p : Point) : Prop where
  on : p.On text
  opened : ∀ o ∈ p.opened, ∃ before raw, text = before ++ raw ++ p.rest ∧ o.2 = byteLength before
  groups : ∀ g ∈ p.groups, ∃ raw, Stretch text g.2 raw

namespace Point.Kept

variable {text : List Char} {p q : Point}

lemma next? (h : p.Kept text) {accepts : Char → Bool} (hq : p.next? accepts = some q) : q.Kept text := by
  have hon := h.on.next? hq
  obtain ⟨c, rest, hrest, -, rfl⟩ := Point.next?_eq_some.mp hq
  refine ⟨hon, fun o ho => ?_, h.groups⟩
  obtain ⟨before, raw, htext, hpos⟩ := h.opened o ho
  refine ⟨before, raw ++ [c], ?_, hpos⟩
  rw [htext, hrest]
  simp

lemma begin (h : p.Kept text) (index : Nat) : (p.begin index).Kept text := by
  obtain ⟨before, htext, hpos, -⟩ := h.on
  refine ⟨h.on.begin index, List.forall_mem_cons.mpr ⟨⟨before, [], ?_, hpos⟩, h.opened⟩, h.groups⟩
  rw [List.append_nil]
  exact htext

lemma finish (h : p.Kept text) : p.finish.Kept text := by
  have hon := h.on.finish
  unfold Point.finish at hon ⊢
  split
  · exact h
  · rename_i index start rest hp
    rw [hp] at hon
    obtain ⟨before, raw, htext, hstart⟩ := h.opened _ (hp ▸ List.mem_cons_self)
    obtain ⟨front, hfront, hpos, -⟩ := h.on
    obtain rfl : front = before ++ raw := List.append_cancel_right (hfront.symm.trans htext)
    refine ⟨hon, fun o ho => h.opened o (hp ▸ List.mem_cons_of_mem _ ho), List.forall_mem_cons.mpr ⟨?_, h.groups⟩⟩
    exact ⟨raw, before, p.rest, htext, (ByteSpan.mk.injEq _ _ _ _).mpr ⟨hstart, hpos⟩⟩

end Point.Kept

lemma Core.kept_run {r : Core} {text : List Char} {p q : Point} (hp : p.Starts text) (h : q ∈ r.run [p]) :
    q.Kept text := by
  obtain ⟨o, ho, rfl⟩ := List.mem_map.mp h
  have hstays : Stays (Point.Kept text) (r.ends []) :=
    Core.stays_ends (fun p q accepts hp hn => hp.next? hn) r [] (fun p c _ hp => ⟨hp.on.mark c, hp.opened, hp.groups⟩)
      (fun i _ p hp => hp.begin i) fun _ p hp => hp.finish
  have hstart : p.clear.Kept text := by
    refine ⟨hp.on.of_spot rfl rfl, fun o ho => ?_, fun g hg => ?_⟩
    · rw [Point.opened_clear, hp.opened] at ho
      cases ho
    · rw [Point.groups_clear, hp.groups] at hg
      cases hg
  have ho := hstays [p.clear] (fun o ho => List.mem_singleton.mp ho ▸ hstart) o ho
  exact ⟨ho.on.of_spot rfl rfl, ho.opened, ho.groups⟩

end Regex

namespace Matcher

variable {types : Registry} {config : Config} {pattern : String} {m : Matcher} {haystack : String}

lemma lookup_mem {α : Type} {gs : List (Nat × α)} {i : Nat} {a : α} (h : gs.lookup i = some a) : (i, a) ∈ gs := by
  induction gs with
  | nil => cases h
  | cons g gs ih =>
    rw [List.lookup_cons] at h
    split at h
    · rename_i hi
      rw [beq_iff_eq.mp hi, ← Option.some.inj h]
      exact List.mem_cons_self
    · exact List.mem_cons_of_mem _ (ih h)

lemma captures_collect {program : Program} {found : Match} {groups : List Pattern.Capture} {r s : MatchResult}
    (h : collect program haystack found groups r = .ok s) :
    ∀ c ∈ s.captures, c ∈ r.captures ∨ ∃ g ∈ found.stop.groups, g.2 = c.span := by
  induction groups generalizing r with
  | nil =>
    cases h
    exact fun c hc => Or.inl hc
  | cons d groups ih =>
    rw [collect] at h
    split at h
    · intro c hc
      have hadd : (r.addAbsent d.name).captures = r.captures := by cases d.name <;> rfl
      exact hadd ▸ ih h c hc
    · rename_i span hspan
      dsimp only at h
      split at h
      · cases h
      · rename_i value _
        intro c hc
        have hadd : (r.addPresent d.name value span).captures = r.captures ++ [⟨d.name, span⟩] := by
          cases d.name <;> rfl
        rcases ih h c hc with hc | hc
        · rw [hadd] at hc
          rcases List.mem_append.mp hc with hc | hc
          · exact Or.inl hc
          · obtain rfl := List.mem_singleton.mp hc
            obtain ⟨i, -, hi⟩ := Option.bind_eq_some_iff.mp hspan
            exact Or.inr ⟨_, lookup_mem hi, rfl⟩
        · exact Or.inr hc

lemma resultsOf_ok {founds : List Match} {l : MatchList} (h : m.resultsOf haystack founds = .ok l) :
    Forall₂ (fun found r => m.resultOf m.bare haystack found = .ok r) founds l := by
  induction founds generalizing l with
  | nil =>
    cases h
    exact .nil
  | cons found founds ih =>
    obtain ⟨r, hr, h⟩ := Regex.bind_eq_ok.mp h
    obtain ⟨rs, hrs, h⟩ := Regex.bind_eq_ok.mp h
    cases h
    exact .cons hr (ih hrs)

lemma exists_found {founds : List Match} {l : MatchList}
    (h : Forall₂ (fun found r => m.resultOf m.bare haystack found = .ok r) founds l) {r : MatchResult} (hr : r ∈ l) :
    ∃ found ∈ founds, m.resultOf m.bare haystack found = .ok r := by
  induction h with
  | nil => cases hr
  | @cons found s founds l hs _ ih =>
    rcases List.mem_cons.mp hr with rfl | hr
    · exact ⟨found, List.mem_cons_self, hs⟩
    · obtain ⟨found, hmem, hresult⟩ := ih hr
      exact ⟨found, List.mem_cons_of_mem _ hmem, hresult⟩

lemma stretch_of_foundAt {mode : Mode} {found : Match} {p : Point} (hf : m.FoundAt mode haystack.toList found p)
    {r : MatchResult} (hr : m.resultOf (m.program mode) haystack found = .ok r) :
    ∀ c ∈ r.captures, ∃ raw, Stretch haystack.toList c.span raw := by
  intro c hc
  have hkept := Core.kept_run hf.starts (List.mem_of_find?_eq_some hf.stop)
  rcases captures_collect hr c hc with hc | ⟨g, hg, hspan⟩
  · cases hc
  · exact hspan ▸ hkept.groups g hg

lemma inOrder_of_foundAt (h : make types config pattern = .ok m) (hl : m.compiled.Legible) {mode : Mode} {found : Match}
    {p : Point} (hf : m.FoundAt mode haystack.toList found p) {r : MatchResult}
    (hr : m.resultOf (m.program mode) haystack found = .ok r) :
    InOrder p.pos (r.captures.map (·.span)) found.stop.pos := by
  obtain ⟨before, branch, behind, parts, -, -, hrecorded, ⟨values, -, hok⟩ | ⟨t, cause, -, herror⟩⟩ :=
    exists_recorded h hl hf
  · obtain rfl := Except.ok.inj (hr.symm.trans hok)
    have hspans : (parts.map Taken.captured).map (·.span) = parts.map Taken.span := List.map_map ..
    exact hspans ▸ hrecorded.inOrder
  · cases hr.symm.trans herror

lemma inOrder_successive (h : make types config pattern = .ok m) (hl : m.compiled.Legible) {founds : List Match}
    {p : Point} (hp : p.On haystack.toList) (hs : Match.Successive haystack.toList p founds)
    (hf : ∀ found ∈ founds, ∃ q, m.FoundAt .search haystack.toList found q) {l : MatchList}
    (hr : Forall₂ (fun found r => m.resultOf m.bare haystack found = .ok r) founds l) :
    InOrder p.pos ((l.flatMap (·.captures)).map (·.span)) (byteLength haystack.toList) := by
  induction hr generalizing p with
  | nil =>
    obtain ⟨before, htext, hpos, -⟩ := hp
    rw [htext, Text.byteLength_append, hpos]
    exact Nat.le_add_right _ _
  | @cons found r founds l hr _ ih =>
    obtain ⟨hbehind, -, hs⟩ := hs
    obtain ⟨q, hq⟩ := hf found List.mem_cons_self
    have hfirst := inOrder_of_foundAt h hl hq hr
    rw [← hq.start] at hfirst
    rw [List.flatMap_cons, List.map_append]
    refine InOrder.append (hfirst.widen (hp.pos_le hbehind.start hbehind.behind) (Nat.le_refl _)) ?_
    exact ih hbehind.stop hs fun found hmem => hf found (List.mem_cons_of_mem _ hmem)

/-- A search for all matches visits the text once and in order: it finds at most one match more than there are
characters, captures are stretches of the text, each one ends before the next one begins, and values take their places
one by one. -/
theorem searchAll_in_order (h : make types config pattern = .ok m) {l : MatchList}
    (hall : m.searchAll haystack = .ok l) :
    l.length ≤ haystack.toList.length + 1 ∧
      (∀ c ∈ l.flatMap (·.captures), ∃ raw, Stretch haystack.toList c.span raw) ∧
      (m.compiled.Legible → ((l.flatMap (·.captures)).map (·.span)).Pairwise (fun s t => s.stop ≤ t.start) ∧
        ∃ pieces tail, haystack.toList = Piece.whole pieces ++ tail ∧
          (l.flatMap (·.captures)).map (·.span) = Piece.spans 0 pieces ∧
          (l ≠ [] → ∀ values, l.replace values = .ok (String.ofList (Piece.replaced pieces values ++ tail)))) := by
  have hresults := resultsOf_ok hall
  have hfound : ∀ found ∈ m.bare.core.searchAll haystack.toList,
      ∃ p, m.FoundAt .search haystack.toList found p := fun found hf => foundAt_of_mem_searchAll h hf
  have hstretch : ∀ c ∈ l.flatMap (·.captures), ∃ raw, Stretch haystack.toList c.span raw := by
    intro c hc
    obtain ⟨r, hr, hc⟩ := List.mem_flatMap.mp hc
    obtain ⟨found, hf, hresult⟩ := exists_found hresults hr
    obtain ⟨p, hp⟩ := hfound found hf
    exact stretch_of_foundAt hp hresult c hc
  refine ⟨hresults.length_eq ▸ Core.length_searchAll_le _ _, hstretch, fun hl => ?_⟩
  have horder : InOrder 0 ((l.flatMap (·.captures)).map (·.span)) (byteLength haystack.toList) := by
    rcases m.bare.core.searchAll_cases haystack.toList with hnone | ⟨found, rest, hsome, hbehind, hrest⟩
    · rw [hnone] at hresults
      cases hresults
      exact Nat.zero_le _
    · rw [hsome] at hresults hfound
      cases hresults with
      | @cons _ r _ l hr hrs =>
        obtain ⟨q, hq⟩ := hfound found List.mem_cons_self
        have hfirst := inOrder_of_foundAt h hl hq hr
        have hlater := inOrder_successive h hl hbehind.stop hrest
          (fun found hmem => hfound found (List.mem_cons_of_mem _ hmem)) hrs
        rw [List.flatMap_cons, List.map_append]
        exact InOrder.append (hfirst.widen (Nat.zero_le _) (Nat.le_refl _)) hlater
  have hspans : ∀ s ∈ (l.flatMap (·.captures)).map (·.span), ∃ raw, Stretch haystack.toList s raw := by
    intro s hs
    obtain ⟨c, hc, rfl⟩ := List.mem_map.mp hs
    exact hstretch c hc
  obtain ⟨pieces, tail, htext, hpieces⟩ := @exists_pieces [] haystack.toList _ _ horder hspans
  refine ⟨horder.pairwise, pieces, tail, htext, hpieces, fun hne => ?_⟩
  refine MatchList.replace_pieces hne (fun r hr => ?_) htext hpieces horder
  obtain ⟨found, -, hresult⟩ := exists_found hresults hr
  exact haystack_collect hresult

/-- Matches of one character each, of which the first one has two bytes. -/
theorem searchAll_in_order_letters : ∃ m l, make .empty {} "[x:1]" = .ok m ∧ m.searchAll "éa" = .ok l ∧
    l ≠ [] ∧ ∃ pieces tail, "éa".toList = Piece.whole pieces ++ tail ∧
      (l.flatMap (·.captures)).map (·.span) = Piece.spans 0 pieces ∧
        l.replace ["b"] = .ok (String.ofList (Piece.replaced pieces ["b"] ++ tail)) := by
  have hall : (Regex.result? (make .empty {} "[x:1]")).any (fun m =>
      m.groups.all (fun g => g.constraint.tree.legible) && (Regex.result? (m.searchAll "éa")).any fun l =>
        !l.isEmpty) = true := by
    decide +kernel
  obtain ⟨m, hm, h⟩ := (Option.any_eq_true _ _).mp hall
  rw [Bool.and_eq_true, List.all_eq_true] at h
  obtain ⟨l, hl, hne⟩ := (Option.any_eq_true _ _).mp h.2
  have hm := Regex.result?_eq_some.mp hm
  have hl := Regex.result?_eq_some.mp hl
  have hne : l ≠ [] := fun hnil => by
    rw [hnil] at hne
    cases hne
  obtain ⟨-, -, hlegible⟩ := searchAll_in_order hm hl
  obtain ⟨-, pieces, tail, htext, hspans, hreplace⟩ := hlegible h.1
  exact ⟨m, l, hm, hl, hne, pieces, tail, htext, hspans, hreplace hne ["b"]⟩

/-- Without a match there is no text to replace anything in; and without the blanks of verbose mode between two hyphens
the class of one group takes up the other group, so that captures overlap and a value is dropped. -/
theorem searchAll_drops_value_verbose :
    (∃ m, make .empty {} "nugget" = .ok m ∧ m.searchAll "no gold here" = .ok [] ∧
      MatchList.replace [] ["x"] = .error .noMatch) ∧
    ∃ types types' m l, Registry.empty.register "t" "(?x)[a- -[z]x+-[](]" .identity 0 = .ok types ∧
      types.register "u" "(?x)[a- -[z]x+-[])]" .identity 1 = .ok types' ∧ make types' {} "[x:t][y:u]" = .ok m ∧
        m.searchAll "a]a]" = .ok l ∧ (l.flatMap (·.captures)).map (·.span) = [⟨0, 4⟩, ⟨2, 3⟩] ∧
          l.replace ["1", "2"] = .ok "1" := by
  have hnone : (Regex.result? (make .empty {} "nugget")).any (fun m =>
      (Regex.result? (m.searchAll "no gold here")).any fun l => l == []) = true := by
    decide +kernel
  have hall : (Regex.result? (Registry.empty.register "t" "(?x)[a- -[z]x+-[](]" .identity 0)).any (fun types =>
      (Regex.result? (types.register "u" "(?x)[a- -[z]x+-[])]" .identity 1)).any fun types' =>
        (Regex.result? (make types' {} "[x:t][y:u]")).any fun m => (Regex.result? (m.searchAll "a]a]")).any fun l =>
          (l.flatMap (·.captures)).map (·.span) == [⟨0, 4⟩, ⟨2, 3⟩] &&
            l.findSome? (·.haystack) == some "a]a]") = true := by
    decide +kernel
  constructor
  · obtain ⟨m, hm, h⟩ := (Option.any_eq_true _ _).mp hnone
    obtain ⟨l, hl, hempty⟩ := (Option.any_eq_true _ _).mp h
    obtain rfl := beq_iff_eq.mp hempty
    exact ⟨m, Regex.result?_eq_some.mp hm, Regex.result?_eq_some.mp hl, rfl⟩
  · obtain ⟨types, ht, h⟩ := (Option.any_eq_true _ _).mp hall
    obtain ⟨types', ht', h⟩ := (Option.any_eq_true _ _).mp h
    obtain ⟨m, hm, h⟩ := (Option.any_eq_true _ _).mp h
    obtain ⟨l, hl, h⟩ := (Option.any_eq_true _ _).mp h
    rw [Bool.and_eq_true, beq_iff_eq, beq_iff_eq] at h
    have hsorted : [(⟨0, 4⟩ : ByteSpan), ⟨2, 3⟩].mergeSort Edit.spanLe = [⟨0, 4⟩, ⟨2, 3⟩] :=
      List.mergeSort_of_pairwise (by decide)
    refine ⟨types, types', m, l, Regex.result?_eq_some.mp ht, Regex.result?_eq_some.mp ht',
      Regex.result?_eq_some.mp hm, Regex.result?_eq_some.mp hl, h.1, ?_⟩
    rw [MatchList.replace_sorted h.2 h.1 hsorted]
    rfl

end Matcher

end TypedPattern
