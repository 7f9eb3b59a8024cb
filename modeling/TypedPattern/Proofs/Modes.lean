import TypedPattern.Proofs.Closing.Program

/-! The modes of a matcher agree with each other. -/

namespace TypedPattern

open Pattern (Config)
open Regex (Core Point Program Match)

/-- An outcome is that nothing has matched. -/
def Missed (outcome : Except Error MatchResult) : Prop :=
  ∃ r, outcome = .ok r ∧ r.isMatch = false

namespace Regex

lemma Point.onwards_ofText (text : List Char) :
    ∃ later, (Point.ofText text).onwards = Point.ofText text :: later := by
  cases text with
  | nil => exact ⟨_, rfl⟩
  | cons c cs => exact ⟨_, rfl⟩

lemma Point.on_of_mem_onwards {text : List Char} {p : Point} (h : p ∈ (Point.ofText text).onwards) :
    p.On text ∧ p.trail = [] := by
  obtain ⟨before, rest, rfl, rfl⟩ := Point.mem_onwards_ofText.mp h
  exact ⟨Point.on_fresh, rfl⟩

lemma Core.search_of_matchAt {r : Core} {text : List Char} {found : Match}
    (h : r.matchAt (.ofText text) = some found) : r.search (.ofText text) = some found := by
  obtain ⟨later, hl⟩ := Point.onwards_ofText text
  rw [Core.search, hl, List.findSome?_cons, h]

lemma Core.search_isSome_iff {r : Core} {text : List Char} :
    (r.search (.ofText text)).isSome = true ↔ ∃ p ∈ (Point.ofText text).onwards, ∃ t, r.Leads p.spot t := by
  rw [Core.search, List.findSome?_isSome_iff]
  constructor
  · rintro ⟨p, hp, h⟩
    obtain ⟨hon, ht⟩ := Point.on_of_mem_onwards hp
    exact ⟨p, hp, (Core.matchAt_isSome_iff hon ht).mp h⟩
  · rintro ⟨p, hp, h⟩
    obtain ⟨hon, ht⟩ := Point.on_of_mem_onwards hp
    exact ⟨p, hp, (Core.matchAt_isSome_iff hon ht).mpr h⟩

end Regex

namespace MatchResult

lemma haystack_addPresent (r : MatchResult) (name : Option String) (value : Value) (span : Text.ByteSpan) :
    (r.addPresent name value span).haystack = r.haystack := by
  cases name <;> rfl

lemma haystack_addAbsent (r : MatchResult) (name : Option String) : (r.addAbsent name).haystack = r.haystack := by
  cases name <;> rfl

end MatchResult

namespace Matcher

lemma haystack_collect {program : Program} {haystack : String} {found : Match} {groups : List Pattern.Capture}
    {r s : MatchResult} (h : collect program haystack found groups r = .ok s) : s.haystack = r.haystack := by
  induction groups generalizing r with
  | nil =>
    cases h
    rfl
  | cons c rest ih =>
    rw [collect] at h
    split at h
    · exact (ih h).trans (r.haystack_addAbsent c.name)
    · dsimp only at h
      split at h
      · cases h
      · exact (ih h).trans (r.haystack_addPresent c.name _ _)

lemma missed_resultOf (m : Matcher) (program : Program) (haystack : String) (found : Match) :
    ¬Missed (m.resultOf program haystack found) := by
  rintro ⟨r, hr, hno⟩
  rw [MatchResult.isMatch, haystack_collect hr] at hno
  cases hno

lemma missed_run_iff (m : Matcher) (mode : Mode) (haystack : String) :
    Missed (m.run mode haystack) ↔ m.find? mode haystack.toList = none := by
  rw [run]
  cases m.find? mode haystack.toList with
  | none => exact iff_of_true ⟨.noMatch, rfl, rfl⟩ rfl
  | some found => exact iff_of_false (m.missed_resultOf _ haystack found) (by simp)

lemma run_of_find? {m : Matcher} {mode : Mode} {haystack : String} {found : Match}
    (h : m.find? mode haystack.toList = some found) :
    m.run mode haystack = m.resultOf (m.program mode) haystack found := by
  rw [run, h]

lemma not_missed_run {m : Matcher} {mode : Mode} {haystack : String} :
    ¬Missed (m.run mode haystack) ↔ (m.find? mode haystack.toList).isSome = true := by
  rw [missed_run_iff, Option.isSome_iff_ne_none]

lemma make_ok {types : Registry} {config : Config} {pattern : String} {m : Matcher}
    (h : make types config pattern = .ok m) :
    Program.ofText (!config.caseSensitive) m.regex.toList = .ok m.bare ∧
      Program.ofText (!config.caseSensitive) (Regex.enclose m.regex.toList) = .ok m.closed := by
  unfold make at h
  obtain ⟨compiled, -, h⟩ := Regex.bind_eq_ok.mp h
  obtain ⟨bare, hb, h⟩ := Regex.bind_eq_ok.mp h
  obtain ⟨closed, hc, h⟩ := Regex.bind_eq_ok.mp h
  cases h
  constructor
  · cases ho : Program.ofText (!config.caseSensitive) compiled.regex.toList with
    | error e =>
      rw [ho] at hb
      cases hb
    | ok p =>
      rw [ho] at hb
      cases hb
      exact ho
  · cases ho : Program.ofText (!config.caseSensitive) (atEnd compiled.regex.toList) with
    | error e =>
      rw [ho] at hc
      cases hc
    | ok p =>
      rw [ho] at hc
      cases hc
      exact ho

variable {types : Registry} {config : Config} {pattern : String} {m : Matcher}

/-- What matches up to the end of the text matches from the same place without that. -/
lemma leads_of_closed (hm : make types config pattern = .ok m) {s t : Regex.Spot} (h : m.closed.core.Leads s t) :
    m.bare.core.Leads s t := by
  obtain ⟨hb, hc⟩ := make_ok hm
  exact ((Program.leads_enclose hb hc s t).mp h).1

lemma start_of_full (hm : make types config pattern = .ok m) {text : List Char}
    (h : (m.find? .full text).isSome = true) : (m.find? .start text).isSome = true := by
  have hon := Point.on_ofText text
  obtain ⟨t, ht⟩ := (Core.matchAt_isSome_iff hon rfl).mp h
  exact (Core.matchAt_isSome_iff hon rfl).mpr ⟨t, leads_of_closed hm ht⟩

lemma search_of_stop (hm : make types config pattern = .ok m) {text : List Char}
    (h : (m.find? .stop text).isSome = true) : (m.find? .search text).isSome = true := by
  obtain ⟨p, hp, t, ht⟩ := Core.search_isSome_iff.mp h
  exact Core.search_isSome_iff.mpr ⟨p, hp, t, leads_of_closed hm ht⟩

lemma search_of_start {haystack : String} (h : ¬Missed (m.run .start haystack)) :
    m.run .search haystack = m.run .start haystack := by
  obtain ⟨found, hf⟩ := Option.isSome_iff_exists.mp (not_missed_run.mp h)
  have hs : m.find? .search haystack.toList = some found := Core.search_of_matchAt hf
  rw [run_of_find? hf, run_of_find? hs]
  rfl

lemma stop_of_full {haystack : String} (h : ¬Missed (m.run .full haystack)) :
    m.run .stop haystack = m.run .full haystack := by
  obtain ⟨found, hf⟩ := Option.isSome_iff_exists.mp (not_missed_run.mp h)
  have hs : m.find? .stop haystack.toList = some found := Core.search_of_matchAt hf
  rw [run_of_find? hf, run_of_find? hs]
  rfl

lemma searchAll_eq (m : Matcher) (haystack : String) :
    (Missed (m.run .search haystack) ∧ m.searchAll haystack = .ok []) ∨
      (¬Missed (m.run .search haystack) ∧ ∃ later : Except Error MatchList,
        m.searchAll haystack = (m.run .search haystack).bind fun r => later.map (r :: ·)) := by
  cases hf : m.find? .search haystack.toList with
  | none =>
    have hs : m.bare.core.search (.ofText haystack.toList) = none := hf
    refine Or.inl ⟨(m.missed_run_iff .search haystack).mpr hf, ?_⟩
    rw [searchAll, Core.searchAll, hs]
    rfl
  | some found =>
    have hs : m.bare.core.search (.ofText haystack.toList) = some found := hf
    refine Or.inr ⟨not_missed_run.mpr (by rw [hf]; rfl),
      m.resultsOf haystack (m.bare.core.matchesAfter (haystack.toList.length + 1) found.stop), ?_⟩
    rw [searchAll, Core.searchAll, hs, run_of_find? hf]
    rfl

lemma searchAll_eq_nil_iff (m : Matcher) (haystack : String) :
    m.searchAll haystack = .ok [] ↔ Missed (m.run .search haystack) := by
  rcases m.searchAll_eq haystack with ⟨hmiss, hall⟩ | ⟨hfound, later, hall⟩
  · exact iff_of_true hall hmiss
  · refine iff_of_false (fun h => ?_) hfound
    rw [hall] at h
    obtain ⟨r, -, h⟩ := Regex.bind_eq_ok.mp h
    obtain ⟨rs, -, hcons⟩ := Regex.map_eq_ok.mp h
    cases hcons

/-- The modes agree: a match at the start is the one that a search finds, up to the end or not; a match of the whole
text implies one of its start, and one of its end implies one somewhere; a search for all matches begins with the
first one. -/
theorem modes_agree (hm : make types config pattern = .ok m) (haystack : String) :
    (¬Missed (m.run .start haystack) → m.run .search haystack = m.run .start haystack) ∧
      (¬Missed (m.run .full haystack) → m.run .stop haystack = m.run .full haystack) ∧
      (¬Missed (m.run .full haystack) → ¬Missed (m.run .start haystack)) ∧
      (¬Missed (m.run .stop haystack) → ¬Missed (m.run .search haystack)) ∧
      (Missed (m.run .search haystack) ↔ m.searchAll haystack = .ok []) ∧
      (∀ r rs, m.searchAll haystack = .ok (r :: rs) → m.run .search haystack = .ok r) ∧
      ∀ e, m.run .search haystack = .error e → m.searchAll haystack = .error e := by
  refine ⟨search_of_start, stop_of_full, fun h => ?_, fun h => ?_, ?_⟩
  · exact not_missed_run.mpr (start_of_full hm (not_missed_run.mp h))
  · exact not_missed_run.mpr (search_of_stop hm (not_missed_run.mp h))
  · rcases m.searchAll_eq haystack with ⟨hmiss, hall⟩ | ⟨hfound, later, hall⟩
    · refine ⟨iff_of_true hmiss hall, fun r rs h => ?_, fun e h => ?_⟩
      · cases hall.symm.trans h
      · obtain ⟨r, hr, -⟩ := hmiss
        cases hr.symm.trans h
    · rw [hall]
      cases hrun : m.run .search haystack with
      | error e =>
        refine ⟨iff_of_false (hrun ▸ hfound) (fun h => nomatch h), fun r rs h => (nomatch h), fun e' h => ?_⟩
        cases h
        rfl
      | ok r =>
        refine ⟨iff_of_false (hrun ▸ hfound) (fun h => ?_), fun r' rs h => ?_, fun e h => (nomatch h)⟩
        · cases later <;> cases h
        · cases later <;> cases h
          rfl

/-- The modes on a pattern whose first branch is a beginning of the second one. -/
theorem modes_agree_branches :
    ∃ m, make .empty {} "a|ab" = .ok m ∧ ¬Missed (m.run .full "ab") ∧ m.run .stop "ab" = m.run .full "ab" := by
  cases hm : make .empty {} "a|ab" with
  | error e =>
    have hok : (Regex.result? (make .empty {} "a|ab")).isSome = true := by decide +kernel
    rw [hm] at hok
    cases hok
  | ok m =>
    have hfull : (Regex.result? (make .empty {} "a|ab")).all
        (fun m => (m.find? .full "ab".toList).isSome) = true := by decide +kernel
    rw [hm] at hfull
    have h := not_missed_run.mpr hfull
    exact ⟨m, rfl, h, (modes_agree hm "ab").2.1 h⟩

end Matcher

end TypedPattern
