import TypedPattern.Proofs.Merging
import TypedPattern.Proofs.Replacement

/-! Values in the place of captures that lie in any way: from left to right, those that do not overlap are put in. -/

namespace TypedPattern

open Pattern (Config)
open Regex (Stretch)
open Text (ByteSpan)

namespace Edit

variable {s : ByteSpan} {e : Edit} {chosen edits more : List Edit} {cs : List Char} {haystack : String} {a : Nat}

def stop : Nat → List Edit → Nat
  | a, [] => a
  | _, e :: rest => stop e.span.stop rest

/-- Takes up an edit, unless it starts before the end of the last one. -/
def add (chosen : List Edit) (e : Edit) : List Edit :=
  if e.span.start < stop 0 chosen then chosen else chosen ++ [e]

/-- The edits that are carried out, chosen from left to right. -/
def kept (edits : List Edit) : List Edit :=
  edits.foldl add []

/-- A text is what a haystack becomes by edits in the order of their spans: those that are kept lie apart from each
other, and all that is between them stays. Edits of one empty span are all kept, or none of them is. -/
structure Edited (haystack : String) (edits : List Edit) (text : String) : Prop where
  chosen : (kept edits).Sublist edits
  apart : ((kept edits).map (·.span)).Pairwise fun s t => s.stop ≤ t.start
  empty : ∀ s : ByteSpan, s.start = s.stop →
    (kept edits).filter (·.span = s) = edits.filter (·.span = s) ∨ (kept edits).filter (·.span = s) = []
  rewritten : ∃ pieces tail, haystack.toList = Piece.whole pieces ++ tail ∧
    (kept edits).map (·.span) = Piece.spans 0 pieces ∧
      text.toList = Piece.replaced pieces ((kept edits).map (·.text)) ++ tail

@[simp]
lemma stop_append (a : Nat) (chosen more : List Edit) : stop a (chosen ++ more) = stop (stop a chosen) more := by
  induction chosen generalizing a with
  | nil => rfl
  | cons c chosen ih => exact ih c.span.stop

lemma add_of_lt (h : e.span.start < stop 0 chosen) : add chosen e = chosen :=
  if_pos h

lemma add_of_le (h : stop 0 chosen ≤ e.span.start) : add chosen e = chosen ++ [e] :=
  if_neg (Nat.not_lt.mpr h)

lemma sublist_foldl_add (chosen edits : List Edit) : (edits.foldl add chosen).Sublist (chosen ++ edits) := by
  induction edits generalizing chosen with
  | nil => simp
  | cons e edits ih =>
    refine (ih (add chosen e)).trans ?_
    rcases Nat.lt_or_ge e.span.start (stop 0 chosen) with he | he
    · simp [add_of_lt he]
    · simp [add_of_le he]

lemma kept_sublist (edits : List Edit) : (kept edits).Sublist edits :=
  sublist_foldl_add [] edits

lemma inOrder_foldl_add (h : InOrder 0 (chosen.map (·.span)) (stop 0 chosen))
    (he : ∀ e ∈ edits, e.span.start ≤ e.span.stop) :
    InOrder 0 ((edits.foldl add chosen).map (·.span)) (stop 0 (edits.foldl add chosen)) := by
  induction edits generalizing chosen with
  | nil => exact h
  | cons e edits ih =>
    obtain ⟨hle, he⟩ := List.forall_mem_cons.mp he
    refine ih ?_ he
    rcases Nat.lt_or_ge e.span.start (stop 0 chosen) with hlt | hge
    · rwa [add_of_lt hlt]
    · rw [add_of_le hge, List.map_append, stop_append]
      exact h.append ⟨hge, hle, Nat.le_refl _⟩

lemma inOrder_kept (h : ∀ e ∈ edits, e.span.start ≤ e.span.stop) :
    InOrder 0 ((kept edits).map (·.span)) (stop 0 (kept edits)) :=
  inOrder_foldl_add (Nat.le_refl 0) h

lemma weave_of_lt (h : InOrder a (chosen.map (·.span)) (stop a chosen)) (he : e.span.start < stop a chosen)
    (rest : List Edit) : weave cs a (chosen ++ e :: rest) = weave cs a (chosen ++ rest) := by
  induction chosen generalizing a with
  | nil => exact if_pos he
  | cons c chosen ih =>
    obtain ⟨hle, -, h⟩ := h
    simp only [List.cons_append, weave, ih h he, if_neg (Nat.not_lt.mpr hle)]

lemma weave_foldl_add (h : InOrder 0 (chosen.map (·.span)) (stop 0 chosen))
    (he : ∀ e ∈ edits, e.span.start ≤ e.span.stop) :
    weave cs 0 (edits.foldl add chosen) = weave cs 0 (chosen ++ edits) := by
  -- what is chosen is in order, so that weaving it ends where the last edit of it ends
  induction edits generalizing chosen with
  | nil => rw [List.foldl_nil, List.append_nil]
  | cons e edits ih =>
    obtain ⟨hle, he⟩ := List.forall_mem_cons.mp he
    have hstep := @inOrder_foldl_add chosen [e] h (by simpa using hle)
    rw [List.foldl_cons, List.foldl_nil] at hstep
    rw [List.foldl_cons, ih hstep he]
    rcases Nat.lt_or_ge e.span.start (stop 0 chosen) with hlt | hge
    · rw [add_of_lt hlt, weave_of_lt h hlt]
    · rw [add_of_le hge, List.append_assoc, List.singleton_append]

lemma weave_kept (h : ∀ e ∈ edits, e.span.start ≤ e.span.stop) : weave cs 0 (kept edits) = weave cs 0 edits :=
  weave_foldl_add (Nat.le_refl 0) h

lemma filter_foldl_add (h : ∀ e ∈ edits, e.span ≠ s) :
    (edits.foldl add chosen).filter (·.span = s) = chosen.filter (·.span = s) := by
  induction edits generalizing chosen with
  | nil => rfl
  | cons e edits ih =>
    obtain ⟨he, h⟩ := List.forall_mem_cons.mp h
    rw [List.foldl_cons, ih h, add]
    split
    · rfl
    · simp [he]

lemma foldl_add_of_empty (hs : s.start = s.stop) (h : ∀ e ∈ edits, e.span = s) (chosen : List Edit) :
    edits.foldl add chosen = if s.start < stop 0 chosen then chosen else chosen ++ edits := by
  induction edits generalizing chosen with
  | nil => simp
  | cons e edits ih =>
    obtain ⟨rfl, h⟩ := List.forall_mem_cons.mp h
    rw [List.foldl_cons, ih h]
    rcases Nat.lt_or_ge e.span.start (stop 0 chosen) with hlt | hge
    · rw [add_of_lt hlt]
      simp [hlt]
    · simp [add_of_le hge, stop, hs, hs ▸ hge]

lemma spanLe_iff {s t : ByteSpan} : spanLe s t = true ↔ s.start < t.start ∨ s.start = t.start ∧ s.stop ≤ t.stop := by
  simp [spanLe]

lemma spanLe_trans (s t u : ByteSpan) (h : spanLe s t = true) (h' : spanLe t u = true) : spanLe s u = true := by
  rw [spanLe_iff] at *
  omega

lemma spanLe_total (s t : ByteSpan) : (spanLe s t || spanLe t s) = true := by
  rw [Bool.or_eq_true, spanLe_iff, spanLe_iff]
  omega

lemma spanLe_antisymm {s t : ByteSpan} (h : spanLe s t = true) (h' : spanLe t s = true) : s = t := by
  rw [spanLe_iff] at *
  exact (ByteSpan.mk.injEq ..).mpr (by omega)

lemma filter_append_filter_not {α : Type} {le : α → α → Prop} {p : α → Bool} {l : List α} (h : l.Pairwise le)
    (hp : ∀ x y, le x y → p y = true → p x = true) : l.filter p ++ l.filter (fun x => !p x) = l := by
  induction h with
  | nil => rfl
  | @cons x l hx _ ih =>
    by_cases hpx : p x = true
    · simpa [hpx] using ih
    · have hnone : l.filter p = [] := List.filter_eq_nil_iff.mpr fun y hy hpy => hpx (hp x y (hx y hy) hpy)
      rw [hnone] at ih
      simpa [hpx, hnone] using ih

lemma exists_together (h : edits.Pairwise fun e f => spanLe e.span f.span) (s : ByteSpan) : ∃ before behind,
    edits = before ++ edits.filter (·.span = s) ++ behind ∧
      (∀ e ∈ before, e.span ≠ s) ∧ ∀ e ∈ behind, e.span ≠ s := by
  -- the edits up to the span, and of these the ones before it
  have hfront := filter_append_filter_not (p := fun e => spanLe e.span s) h fun e f hef hf => spanLe_trans _ _ _ hef hf
  have hfirst := filter_append_filter_not (p := fun e => spanLe e.span s && e.span ≠ s)
    (h.sublist (List.filter_sublist (p := fun e => spanLe e.span s))) fun e f hef hf => by
      simp only [Bool.and_eq_true, decide_eq_true_eq] at hf ⊢
      exact ⟨spanLe_trans _ _ _ hef hf.1, fun he => hf.2 (spanLe_antisymm hf.1 (he ▸ hef))⟩
  have hmiddle : (edits.filter fun e => spanLe e.span s).filter (fun e => !(spanLe e.span s && e.span ≠ s)) =
      edits.filter (·.span = s) := by
    rw [List.filter_filter]
    refine List.filter_congr fun e _ => ?_
    by_cases he : e.span = s
    · simp [he, spanLe]
    · cases hle : spanLe e.span s <;> simp [he]
  rw [← hfirst, hmiddle] at hfront
  refine ⟨_, _, hfront.symm, fun e he => ?_, fun e he hs => ?_⟩
  · have hlt : spanLe e.span s = true ∧ e.span ≠ s := by simpa using (List.mem_filter.mp he).2
    exact hlt.2
  · simpa [hs, spanLe] using (List.mem_filter.mp he).2

lemma filter_kept_of_empty (h : edits.Pairwise fun e f => spanLe e.span f.span) (hs : s.start = s.stop) :
    (kept edits).filter (·.span = s) = edits.filter (·.span = s) ∨ (kept edits).filter (·.span = s) = [] := by
  obtain ⟨before, behind, hedits, hbefore, hbehind⟩ := exists_together h s
  have hmiddle : ∀ e ∈ edits.filter (·.span = s), e.span = s := fun e he => of_decide_eq_true (List.mem_filter.mp he).2
  have hkept : kept edits = (before ++ edits.filter (·.span = s) ++ behind).foldl add [] := congrArg kept hedits
  rw [hkept, List.foldl_append, List.foldl_append, filter_foldl_add hbehind, foldl_add_of_empty hs hmiddle]
  have hnone : (before.foldl add []).filter (·.span = s) = [] := filter_foldl_add hbefore
  split
  · exact Or.inr hnone
  · left
    rw [List.filter_append, hnone, List.filter_filter]
    simp

lemma zipWith_span_text (edits : List Edit) : (edits.map (·.span)).zipWith Edit.mk (edits.map (·.text)) = edits := by
  rw [List.zipWith_map, List.zipWith_self, List.map_id']

lemma apply_edited (h : edits.Pairwise fun e f => spanLe e.span f.span)
    (hs : ∀ e ∈ edits, ∃ raw, Stretch haystack.toList e.span raw) :
    ∃ text, apply haystack edits = .ok text ∧ Edited haystack edits text := by
  have hle : ∀ e ∈ edits, e.span.start ≤ e.span.stop := by
    intro e he
    obtain ⟨raw, before, behind, -, hspan⟩ := hs e he
    rw [hspan, Text.byteLength_append]
    exact Nat.le_add_right _ _
  have horder := inOrder_kept hle
  have hkept : ∀ s ∈ (kept edits).map (·.span), ∃ raw, Stretch haystack.toList s raw := by
    intro s hmem
    obtain ⟨e, he, rfl⟩ := List.mem_map.mp hmem
    exact hs e ((kept_sublist edits).mem he)
  obtain ⟨pieces, tail, htext, hspans⟩ := @exists_pieces [] haystack.toList _ _ horder hkept
  have happly : apply haystack edits = apply haystack (kept edits) := by
    rw [apply, apply, weave_kept hle]
  have hpieces := @apply_pieces haystack [] tail pieces htext ((kept edits).map (·.text))
  rw [← hspans, zipWith_span_text] at hpieces
  refine ⟨_, happly.trans hpieces, kept_sublist edits, horder.pairwise, fun s => filter_kept_of_empty h, ?_⟩
  exact ⟨pieces, tail, htext, hspans, String.toList_ofList⟩

/-- Values are put in the place of captures: the spans, in order, are paired with the values. -/
def Replaces (haystack : String) (captures : List Captured) (replace : List String → Except Error String) : Prop :=
  ∃ spans : List ByteSpan, spans.Perm (captures.map (·.span)) ∧ spans.Pairwise (fun s t => spanLe s t) ∧
    ∀ values, ∃ text, replace values = .ok text ∧ Edited haystack (spans.zipWith Edit.mk values) text

/-- The value that the name of a capture has. -/
def given (values : List (String × String)) (c : Captured) : Option String :=
  c.name.bind fun n => values.lookup n

/-- The captures whose names have a value, each with its value. -/
def named (captures : List Captured) (values : List (String × String)) : List Edit :=
  captures.filterMap fun c => (given values c).map (Edit.mk c.span)

/-- Values are put in the place of the captures that have their names, in the order of their spans; captures of one span
stay in their order. -/
def ReplacesNamed (haystack : String) (captures : List Captured)
    (replace : List (String × String) → Except Error String) : Prop :=
  ∀ values, ∃ (edits : List Edit) (text : String), edits.Perm (named captures values) ∧
    edits.Pairwise (fun e f => spanLe e.span f.span) ∧
    (∀ s, edits.filter (·.span = s) = (named captures values).filter (·.span = s)) ∧
      replace values = .ok text ∧ Edited haystack edits text

lemma map_span_zipWith (spans : List ByteSpan) (values : List String) :
    (spans.zipWith Edit.mk values).map (·.span) = spans.take values.length := by
  induction spans generalizing values with
  | nil => simp
  | cons s spans ih => cases values <;> simp [ih]

variable {captures : List Captured}

lemma apply_inOrder (h : ∀ c ∈ captures, ∃ raw, Stretch haystack.toList c.span raw) :
    Replaces haystack captures fun values => apply haystack (inOrder captures values) := by
  have hperm := (captures.map (·.span)).mergeSort_perm spanLe
  have hsorted := (captures.map (·.span)).pairwise_mergeSort spanLe_trans spanLe_total
  refine ⟨_, hperm, hsorted, fun values => ?_⟩
  have htake : ((inOrder captures values).map (·.span)).Sublist ((captures.map (·.span)).mergeSort spanLe) := by
    rw [inOrder, map_span_zipWith]
    exact List.take_sublist _ _
  refine apply_edited (List.pairwise_map.mp (hsorted.sublist htake)) fun e he => ?_
  obtain ⟨c, hc, hspan⟩ := List.mem_map.mp (hperm.mem_iff.mp (htake.mem (List.mem_map_of_mem he)))
  exact hspan ▸ h c hc

lemma filter_mergeSort (edits : List Edit) (s : ByteSpan) :
    (edits.mergeSort fun e f => spanLe e.span f.span).filter (·.span = s) = edits.filter (·.span = s) := by
  have hsame : (edits.filter (·.span = s)).Pairwise fun e f => spanLe e.span f.span := by
    refine List.pairwise_filter.mpr (List.pairwise_of_forall fun e f he hf => ?_)
    simp only [decide_eq_true_eq] at he hf
    simp [he, hf, spanLe]
  have hsub := (List.sublist_mergeSort (fun e f g => spanLe_trans e.span f.span g.span)
    (fun e f => spanLe_total e.span f.span) hsame List.filter_sublist).filter (·.span = s)
  simp only [List.filter_filter, Bool.and_self] at hsub
  exact (hsub.eq_of_length ((List.mergeSort_perm edits _).filter _).length_eq.symm).symm

lemma apply_byName (h : ∀ c ∈ captures, ∃ raw, Stretch haystack.toList c.span raw) :
    ReplacesNamed haystack captures fun values => apply haystack (byName captures values) := by
  intro values
  have hperm := (named captures values).mergeSort_perm fun e f => spanLe e.span f.span
  have hsorted := (named captures values).pairwise_mergeSort (fun e f g => spanLe_trans e.span f.span g.span)
    fun e f => spanLe_total e.span f.span
  obtain ⟨text, happly, hedited⟩ := @apply_edited _ haystack hsorted fun e he => by
    obtain ⟨c, hc, hmap⟩ := List.mem_filterMap.mp (hperm.mem_iff.mp he)
    obtain ⟨value, -, rfl⟩ := Option.map_eq_some_iff.mp hmap
    exact h c hc
  exact ⟨_, text, hperm, hsorted, filter_mergeSort _, happly, hedited⟩

end Edit

namespace MatchResult

variable {haystack : String} {r s : MatchResult}

/-- A result is that of a match in a text, or of none. -/
structure From (haystack : String) (r : MatchResult) : Prop where
  text : ∀ t, r.haystack = some t → t = haystack
  captures : r.isMatch = false → r.captures = []
  stretch : ∀ c ∈ r.captures, ∃ raw, Stretch haystack.toList c.span raw

lemma from_noMatch (haystack : String) : From haystack .noMatch where
  text _ h := nomatch h
  captures _ := rfl
  stretch _ h := nomatch h

lemma From.merge (hr : From haystack r) (hs : From haystack s) : From haystack (r.merge s) where
  text t h := by
    rcases Option.or_eq_some_iff.mp h with h | ⟨-, h⟩
    · exact hr.text t h
    · exact hs.text t h
  captures h := by
    simp only [isMatch, MatchResult.merge, Option.isSome_or, Bool.or_eq_false_iff] at h
    exact List.append_eq_nil_iff.mpr ⟨hr.captures h.1, hs.captures h.2⟩
  stretch c hc := by
    rcases List.mem_append.mp hc with hc | hc
    · exact hr.stretch c hc
    · exact hs.stretch c hc

lemma From.haystack_eq (h : From haystack r) (hm : r.isMatch = true) : r.haystack = some haystack := by
  obtain ⟨t, ht⟩ := Option.isSome_iff_exists.mp hm
  rw [ht, h.text t ht]

lemma From.replaces (h : From haystack r) (hm : r.isMatch = true) : Edit.Replaces haystack r.captures r.replace := by
  have happly : r.replace = fun values => Edit.apply haystack (Edit.inOrder r.captures values) := by
    funext values
    rw [replace, h.haystack_eq hm]
  exact happly ▸ Edit.apply_inOrder h.stretch

lemma From.replacesNamed (h : From haystack r) (hm : r.isMatch = true) :
    Edit.ReplacesNamed haystack r.captures r.replaceNamed := by
  have happly : r.replaceNamed = fun values => Edit.apply haystack (Edit.byName r.captures values) := by
    funext values
    rw [replaceNamed, h.haystack_eq hm]
  exact happly ▸ Edit.apply_byName h.stretch

lemma replace_of_not_isMatch (h : r.isMatch = false) :
    (∀ values, r.replace values = .error .noMatch) ∧ ∀ values, r.replaceNamed values = .error .noMatch := by
  have hnone : r.haystack = none := Option.not_isSome_iff_eq_none.mp (Bool.eq_false_iff.mp h)
  simp [replace, replaceNamed, hnone]

end MatchResult

namespace MatchList

variable {haystack : String} {l : MatchList}

lemma replaces_of_first (hfirst : l.findSome? (·.haystack) = some haystack)
    (h : ∀ r ∈ l, ∀ c ∈ r.captures, ∃ raw, Stretch haystack.toList c.span raw) :
    Edit.Replaces haystack (l.flatMap (·.captures)) l.replace := by
  have happly : l.replace = fun values => Edit.apply haystack (Edit.inOrder (l.flatMap (·.captures)) values) := by
    funext values
    rw [MatchList.replace, hfirst]
  refine happly ▸ Edit.apply_inOrder fun c hc => ?_
  obtain ⟨r, hr, hc⟩ := List.mem_flatMap.mp hc
  exact h r hr c hc

lemma replaces_of_from (h : ∀ r ∈ l, r.From haystack ∧ r.isMatch = true) (hne : l ≠ []) :
    Edit.Replaces haystack (l.flatMap (·.captures)) l.replace := by
  obtain ⟨r, rest, rfl⟩ := List.exists_cons_of_ne_nil hne
  obtain ⟨hr, hm⟩ := h r List.mem_cons_self
  apply replaces_of_first
  · simp [hr.haystack_eq hm]
  · exact fun s hs => (h s hs).1.stretch

end MatchList

namespace Matcher

variable {types : Registry} {config : Config} {pattern : String} {m : Matcher} {haystack : String} {r : MatchResult}

lemma from_foundAt {mode : Mode} {found : Regex.Match} {p : Regex.Point} (hf : m.FoundAt mode haystack.toList found p)
    (hr : m.resultOf (m.program mode) haystack found = .ok r) : r.From haystack ∧ r.isMatch = true := by
  have hsome : r.haystack = some haystack := haystack_collect hr
  have hm : r.isMatch = true := by rw [MatchResult.isMatch, hsome, Option.isSome_some]
  refine ⟨⟨fun t ht => Option.some.inj (ht.symm.trans hsome), fun hno => ?_, stretch_of_foundAt hf hr⟩, hm⟩
  cases hno.symm.trans hm

lemma run_cases (h : make types config pattern = .ok m) {mode : Mode} (hr : m.run mode haystack = .ok r) :
    r = .noMatch ∨ ∃ found p, m.FoundAt mode haystack.toList found p ∧
      m.resultOf (m.program mode) haystack found = .ok r := by
  rw [run] at hr
  split at hr
  · exact Or.inl (Except.ok.inj hr).symm
  · rename_i found hf
    obtain ⟨p, hp⟩ := exists_foundAt h hf
    exact Or.inr ⟨found, p, hp, hr⟩

lemma exists_foundAt_of_mem (h : make types config pattern = .ok m) {l : MatchList}
    (hl : m.searchAll haystack = .ok l) (hr : r ∈ l) : ∃ found p, m.FoundAt .search haystack.toList found p ∧
      m.resultOf (m.program .search) haystack found = .ok r := by
  obtain ⟨found, hf, hresult⟩ := exists_found (resultsOf_ok hl) hr
  obtain ⟨p, hp⟩ := foundAt_of_mem_searchAll h hf
  exact ⟨found, p, hp, hresult⟩

lemma from_run (h : make types config pattern = .ok m) {mode : Mode} (hr : m.run mode haystack = .ok r) :
    r.From haystack := by
  rcases run_cases h hr with rfl | ⟨found, p, hp, hresult⟩
  · exact MatchResult.from_noMatch haystack
  · exact (from_foundAt hp hresult).1

lemma from_searchAll (h : make types config pattern = .ok m) {l : MatchList} (hl : m.searchAll haystack = .ok l) :
    ∀ r ∈ l, r.From haystack ∧ r.isMatch = true := by
  intro r hr
  obtain ⟨found, p, hp, hresult⟩ := exists_foundAt_of_mem h hl hr
  exact from_foundAt hp hresult

end Matcher

namespace Ensemble

variable {types : Registry} {config : Config} {patterns : List String} {strict : Bool} {ms : List Matcher} {e : Ensemble}
  {mode : Mode} {haystack : String} {acc r : MatchResult} {found l : MatchList}

lemma exists_make (h : makeAll types config patterns = .ok ms) :
    ∀ m ∈ ms, ∃ pattern, Matcher.make types config pattern = .ok m := by
  induction patterns generalizing ms with
  | nil =>
    cases h
    simp
  | cons pattern patterns ih =>
    obtain ⟨m, hm, h⟩ := Regex.bind_eq_ok.mp h
    obtain ⟨ms, hms, h⟩ := Regex.bind_eq_ok.mp h
    cases h
    exact List.forall_mem_cons.mpr ⟨⟨pattern, hm⟩, ih hms⟩

lemma from_runAll (hms : ∀ m ∈ ms, ∃ pattern, Matcher.make types config pattern = .ok m) (hacc : acc.From haystack)
    (h : runAll mode haystack strict ms acc = .ok r) : r.From haystack := by
  induction ms generalizing acc with
  | nil =>
    cases h
    exact hacc
  | cons m ms ih =>
    obtain ⟨⟨pattern, hm⟩, hms⟩ := List.forall_mem_cons.mp hms
    obtain ⟨s, hs, h⟩ := Regex.bind_eq_ok.mp h
    split at h
    · cases h
      exact MatchResult.from_noMatch haystack
    · exact ih hms (hacc.merge (Matcher.from_run hm hs)) h

lemma from_searchEach (hms : ∀ m ∈ ms, ∃ pattern, Matcher.make types config pattern = .ok m)
    (hfound : ∀ r ∈ found, r.From haystack ∧ r.isMatch = true) (h : searchEach haystack strict ms found = .ok l) :
    ∀ r ∈ l, r.From haystack ∧ r.isMatch = true := by
  induction ms generalizing found with
  | nil =>
    cases h
    exact hfound
  | cons m ms ih =>
    obtain ⟨⟨pattern, hm⟩, hms⟩ := List.forall_mem_cons.mp hms
    obtain ⟨more, hmore, h⟩ := Regex.bind_eq_ok.mp h
    split at h
    · cases h
      simp
    · refine ih hms (fun r hr => ?_) h
      rcases List.mem_append.mp hr with hr | hr
      · exact hfound r hr
      · exact Matcher.from_searchAll hm hmore r hr

lemma from_run (h : make types config strict patterns = .ok e) (hr : e.run mode haystack = .ok r) : r.From haystack := by
  obtain ⟨ms, hms, rfl⟩ := Regex.map_eq_ok.mp h
  exact from_runAll (exists_make hms) (MatchResult.from_noMatch haystack) hr

lemma from_searchAll (h : make types config strict patterns = .ok e) (hl : e.searchAll haystack = .ok l) :
    ∀ r ∈ l, r.From haystack ∧ r.isMatch = true := by
  obtain ⟨ms, hms, rfl⟩ := Regex.map_eq_ok.mp h
  exact from_searchEach (exists_make hms) (by simp) hl

/-- What several patterns match is replaced in the text, however their captures lie to each other: the edits that are
kept lie apart, and all the rest of the text stays. Where nothing has matched there is nothing to replace. -/
theorem replace_edits_haystack (h : make types config strict patterns = .ok e) (haystack : String) :
    (∀ mode r, e.run mode haystack = .ok r →
      (r.isMatch = true → Edit.Replaces haystack r.captures r.replace ∧
        Edit.ReplacesNamed haystack r.captures r.replaceNamed) ∧
      (r.isMatch = false → (∀ values, r.replace values = .error .noMatch) ∧
        ∀ values, r.replaceNamed values = .error .noMatch)) ∧
    ∀ l, e.searchAll haystack = .ok l →
      (l ≠ [] → Edit.Replaces haystack (l.flatMap (·.captures)) (MatchList.replace l)) ∧
      (l = [] → ∀ values, MatchList.replace l values = .error .noMatch) := by
  refine ⟨fun mode r hr => ⟨fun hm => ?_, MatchResult.replace_of_not_isMatch⟩, fun l hl => ⟨fun hne => ?_, ?_⟩⟩
  · have hfrom := from_run h hr
    exact ⟨hfrom.replaces hm, hfrom.replacesNamed hm⟩
  · exact MatchList.replaces_of_from (from_searchAll h hl) hne
  · rintro rfl values
    rfl

/-- The captures of two patterns cross each other. -/
theorem replace_edits_haystack_crossing : ∃ e r, make .empty {} false ["[x:2]b", "é[y]"] = .ok e ∧
    e.run .full "éab" = .ok r ∧ r.captures = [⟨some "x", ⟨0, 3⟩⟩, ⟨some "y", ⟨2, 4⟩⟩] ∧
      Edit.Replaces "éab" r.captures r.replace ∧ Edit.ReplacesNamed "éab" r.captures r.replaceNamed := by
  have hall : (Regex.result? (make .empty {} false ["[x:2]b", "é[y]"])).any (fun e =>
      (Regex.result? (e.run .full "éab")).any fun r =>
        r.isMatch && r.captures == [⟨some "x", ⟨0, 3⟩⟩, ⟨some "y", ⟨2, 4⟩⟩]) = true := by
    decide +kernel
  obtain ⟨e, he, h⟩ := Regex.any_result?.mp hall
  obtain ⟨r, hr, h⟩ := Regex.any_result?.mp h
  rw [Bool.and_eq_true, beq_iff_eq] at h
  exact ⟨e, r, he, hr, h.2, ((replace_edits_haystack he "éab").1 .full r hr).1 h.1⟩

/-- Where nothing has matched there is no text; and captures of one empty span are all left out if another one that is
kept holds them. -/
theorem replace_drops_empty_captures :
    (∃ e r, make .empty {} false ["nugget"] = .ok e ∧ e.run .search "no gold here" = .ok r ∧
      r.replace ["x"] = .error .noMatch) ∧
    ∃ e r, make .empty {} false ["[x]", "a[:0][:0]b"] = .ok e ∧ e.run .full "ab" = .ok r ∧
      r.captures.map (·.span) = [⟨0, 2⟩, ⟨1, 1⟩, ⟨1, 1⟩] ∧ r.replace ["1", "2", "3"] = .ok "1" := by
  have hnone : (Regex.result? (make .empty {} false ["nugget"])).any (fun e =>
      (Regex.result? (e.run .search "no gold here")).any fun r => r == .noMatch) = true := by
    decide +kernel
  have hall : (Regex.result? (make .empty {} false ["[x]", "a[:0][:0]b"])).any (fun e =>
      (Regex.result? (e.run .full "ab")).any fun r =>
        r.captures.map (·.span) == [⟨0, 2⟩, ⟨1, 1⟩, ⟨1, 1⟩] && r.haystack == some "ab") = true := by
    decide +kernel
  constructor
  · obtain ⟨e, he, h⟩ := Regex.any_result?.mp hnone
    obtain ⟨r, hr, h⟩ := Regex.any_result?.mp h
    obtain rfl := beq_iff_eq.mp h
    exact ⟨e, _, he, hr, rfl⟩
  · obtain ⟨e, he, h⟩ := Regex.any_result?.mp hall
    obtain ⟨r, hr, h⟩ := Regex.any_result?.mp h
    rw [Bool.and_eq_true, beq_iff_eq, beq_iff_eq] at h
    have hsorted : [(⟨0, 2⟩ : ByteSpan), ⟨1, 1⟩, ⟨1, 1⟩].mergeSort Edit.spanLe = [⟨0, 2⟩, ⟨1, 1⟩, ⟨1, 1⟩] :=
      List.mergeSort_of_pairwise (by decide)
    refine ⟨e, r, he, hr, h.1, ?_⟩
    rw [MatchResult.replace_sorted h.2 h.1 hsorted]
    rfl

end Ensemble

end TypedPattern
