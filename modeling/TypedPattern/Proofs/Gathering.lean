import TypedPattern.Proofs.Editing

/-! Lists of results that are put together: their captures are replaced in the text of the first match. -/

namespace TypedPattern

open Pattern (Config)
open Text (ByteSpan)

/-- A list is what a search of a text for all matches comes to, with one pattern or with several. -/
inductive MatchList.Searched (haystack : String) : MatchList → Prop where
  | alone {types : Registry} {config : Config} {pattern : String} {m : Matcher} {l : MatchList} :
      Matcher.make types config pattern = .ok m → m.searchAll haystack = .ok l → Searched haystack l
  | together {types : Registry} {config : Config} {strict : Bool} {patterns : List String} {e : Ensemble}
      {l : MatchList} :
      Ensemble.make types config strict patterns = .ok e → e.searchAll haystack = .ok l → Searched haystack l

/-- A result is one that a text has given, in any mode, with one pattern or with several. -/
inductive MatchResult.Obtained (haystack : String) : MatchResult → Prop where
  | alone {types : Registry} {config : Config} {pattern : String} {m : Matcher} {mode : Mode} {r : MatchResult} :
      Matcher.make types config pattern = .ok m → m.run mode haystack = .ok r → Obtained haystack r
  | together {types : Registry} {config : Config} {strict : Bool} {patterns : List String} {e : Ensemble} {mode : Mode}
      {r : MatchResult} :
      Ensemble.make types config strict patterns = .ok e → e.run mode haystack = .ok r → Obtained haystack r
  | listed {l : MatchList} {r : MatchResult} : MatchList.Searched haystack l → r ∈ l → Obtained haystack r

namespace MatchList

variable {haystack : String} {l : MatchList} {r : MatchResult}

lemma from_of_searched (h : Searched haystack l) : ∀ r ∈ l, r.From haystack ∧ r.isMatch = true := by
  cases h with
  | alone hm hl => exact Matcher.from_searchAll hm hl
  | together he hl => exact Ensemble.from_searchAll he hl

lemma from_of_obtained (h : r.Obtained haystack) : r.From haystack := by
  cases h with
  | alone hm hr => exact Matcher.from_run hm hr
  | together he hr => exact Ensemble.from_run he hr
  | listed hl hr => exact (from_of_searched hl r hr).1

lemma apply_ne_noMatch (haystack : String) (edits : List Edit) : Edit.apply haystack edits ≠ .error .noMatch := by
  rw [Edit.apply]
  split <;> simp

lemma replace_eq_noMatch_iff (values : List String) :
    l.replace values = .error .noMatch ↔ ∀ r ∈ l, r.isMatch = false := by
  have hnone : l.findSome? (·.haystack) = none ↔ ∀ r ∈ l, r.isMatch = false := by
    simp [List.findSome?_eq_none_iff, MatchResult.isMatch]
  rw [← hnone, replace]
  cases l.findSome? (·.haystack) with
  | none => simp
  | some haystack => simpa using apply_ne_noMatch haystack _

/-- In a list of results, put together in any way, captures that are all taken from the text of the first match are
replaced there, each at its place. Results that are no match do not matter, and only they leave nothing to replace. -/
theorem replace_keeps_places (l : MatchList) :
    (∀ values, l.replace values = .error .noMatch ↔ ∀ r ∈ l, r.isMatch = false) ∧
    (∀ haystack, l.findSome? (·.haystack) = some haystack → (∀ r ∈ l, r.captures ≠ [] → r.Obtained haystack) →
      Edit.Replaces haystack (l.flatMap (·.captures)) l.replace) ∧
    ∀ haystack, Searched haystack l → l ≠ [] → Edit.Replaces haystack (l.flatMap (·.captures)) l.replace := by
  refine ⟨replace_eq_noMatch_iff, fun haystack hfirst hall => ?_, fun haystack hs => replaces_of_from (from_of_searched hs)⟩
  apply replaces_of_first hfirst
  intro r hr c hc
  exact (from_of_obtained (hall r hr (List.ne_nil_of_mem hc))).stretch c hc

/-- Two matches of a text in the other order, and before them a result of another text that is no match. -/
theorem replace_keeps_places_reversed : ∃ m s t, Matcher.make .empty {} "[x:1]" = .ok m ∧
    m.run .full "ab" = .ok .noMatch ∧ m.searchAll "éa" = .ok [s, t] ∧
      MatchList.replace [.noMatch] ["1"] = .error .noMatch ∧
        Edit.Replaces "éa" ([.noMatch, t, s].flatMap (·.captures)) (MatchList.replace [.noMatch, t, s]) := by
  have hall : (Regex.result? (Matcher.make .empty {} "[x:1]")).any (fun m =>
      Regex.result? (m.run .full "ab") == some .noMatch && (Regex.result? (m.searchAll "éa")).any fun l =>
        l.length == 2 && l.all fun s => s.haystack == some "éa") = true := by
    decide +kernel
  obtain ⟨m, hm, h⟩ := Regex.any_result?.mp hall
  rw [Bool.and_eq_true, beq_iff_eq] at h
  obtain ⟨l, hl, htext⟩ := Regex.any_result?.mp h.2
  rw [Bool.and_eq_true, beq_iff_eq] at htext
  obtain ⟨s, t, rfl⟩ := List.length_eq_two.mp htext.1
  have hnone : MatchList.replace [.noMatch] ["1"] = .error .noMatch :=
    ((replace_keeps_places [.noMatch]).1 ["1"]).mpr (by simp [MatchResult.isMatch, MatchResult.noMatch])
  refine ⟨m, s, t, hm, Regex.result?_eq_some.mp h.1, hl, hnone, ?_⟩
  apply (replace_keeps_places [.noMatch, t, s]).2.1
  · simp_all [MatchResult.noMatch]
  · intro r hr hne
    have hmem : r ∈ [s, t] := by
      rcases List.mem_cons.mp hr with rfl | hr
      · exact absurd rfl hne
      · simpa [or_comm] using hr
    exact .listed (.alone hm hl) hmem

/-- The captures of a match of another text are replaced in the text of the first match: at places that are not theirs, or
inside a character. -/
theorem replace_mixes_texts :
    (∃ m n r s, Matcher.make .empty {} "[x]b" = .ok m ∧ Matcher.make .empty {} "c[x]" = .ok n ∧
      m.run .full "ab" = .ok r ∧ n.run .full "cd" = .ok s ∧ MatchList.replace [r, s] ["1", "2"] = .ok "12") ∧
    ∃ m n r s, Matcher.make .empty {} "é" = .ok m ∧ Matcher.make .empty {} "[x]b" = .ok n ∧
      m.run .full "é" = .ok r ∧ n.run .full "ab" = .ok s ∧
        MatchList.replace [r, s] ["1"] = .error (.badCut (.insideCharacter 1) "é") := by
  have hother : (Regex.result? (Matcher.make .empty {} "[x]b")).any (fun m =>
      (Regex.result? (Matcher.make .empty {} "c[x]")).any fun n => (Regex.result? (m.run .full "ab")).any fun r =>
        (Regex.result? (n.run .full "cd")).any fun s => r.haystack == some "ab" &&
          ([r, s].flatMap (·.captures)).map (·.span) == [⟨0, 1⟩, ⟨1, 2⟩]) = true := by
    decide +kernel
  have hinside : (Regex.result? (Matcher.make .empty {} "é")).any (fun m =>
      (Regex.result? (Matcher.make .empty {} "[x]b")).any fun n => (Regex.result? (m.run .full "é")).any fun r =>
        (Regex.result? (n.run .full "ab")).any fun s => r.haystack == some "é" &&
          ([r, s].flatMap (·.captures)).map (·.span) == [⟨0, 1⟩]) = true := by
    decide +kernel
  constructor
  · obtain ⟨m, hm, h⟩ := Regex.any_result?.mp hother
    obtain ⟨n, hn, h⟩ := Regex.any_result?.mp h
    obtain ⟨r, hr, h⟩ := Regex.any_result?.mp h
    obtain ⟨s, hs, h⟩ := Regex.any_result?.mp h
    rw [Bool.and_eq_true, beq_iff_eq, beq_iff_eq] at h
    have hfirst : [r, s].findSome? (·.haystack) = some "ab" := by simp [h.1]
    have hsorted : [(⟨0, 1⟩ : ByteSpan), ⟨1, 2⟩].mergeSort Edit.spanLe = [⟨0, 1⟩, ⟨1, 2⟩] :=
      List.mergeSort_of_pairwise (by decide)
    refine ⟨m, n, r, s, hm, hn, hr, hs, ?_⟩
    rw [replace_sorted hfirst h.2 hsorted]
    rfl
  · obtain ⟨m, hm, h⟩ := Regex.any_result?.mp hinside
    obtain ⟨n, hn, h⟩ := Regex.any_result?.mp h
    obtain ⟨r, hr, h⟩ := Regex.any_result?.mp h
    obtain ⟨s, hs, h⟩ := Regex.any_result?.mp h
    rw [Bool.and_eq_true, beq_iff_eq, beq_iff_eq] at h
    have hfirst : [r, s].findSome? (·.haystack) = some "é" := by simp [h.1]
    refine ⟨m, n, r, s, hm, hn, hr, hs, ?_⟩
    rw [replace_sorted hfirst h.2 (List.mergeSort_singleton _)]
    rfl

end MatchList

end TypedPattern
