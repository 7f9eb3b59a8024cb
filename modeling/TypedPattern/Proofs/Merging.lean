import TypedPattern.Ensemble
import TypedPattern.Proofs.Modes

/-! Results of several patterns are merged one by one, and merging them is like putting lists together. -/

namespace TypedPattern

open Pattern (Config)

namespace MatchResult

variable {r s t : MatchResult} {name : String} {value : Value} {named more : List (String × Value)}

def names (r : MatchResult) : List String :=
  r.named.map (·.1)

def putAll (more named : List (String × Value)) : List (String × Value) :=
  more.foldl (fun named x => put x.1 x.2 named) named

lemma lookup_cons_pair (k n : String) (v : Value) (named : List (String × Value)) :
    ((n, v) :: named).lookup k = if k = n then some v else named.lookup k := by
  rw [List.lookup_cons]
  by_cases hk : k = n
  · rw [if_pos hk, beq_iff_eq.mpr hk]
  · rw [if_neg hk, beq_eq_false_iff_ne.mpr hk]

lemma lookup_of_not_mem (h : name ∉ named.map (·.1)) : named.lookup name = none := by
  rw [List.lookup_eq_none_iff]
  exact fun x hx => bne_iff_ne.mpr fun he => h (he ▸ List.mem_map_of_mem hx)

lemma names_put (name : String) (value : Value) (named : List (String × Value)) :
    (put name value named).map (·.1) =
      if name ∈ named.map (·.1) then named.map (·.1) else named.map (·.1) ++ [name] := by
  induction named with
  | nil => rfl
  | cons x named ih =>
    rw [put]
    by_cases hx : x.1 = name
    · simp [hx]
    · have hx' : name ≠ x.1 := Ne.symm hx
      rw [if_neg hx, List.map_cons, ih]
      split_ifs <;> simp_all

lemma lookup_put (name k : String) (value : Value) (named : List (String × Value)) :
    (put name value named).lookup k = if k = name then some value else named.lookup k := by
  induction named with
  | nil => rw [put, lookup_cons_pair]
  | cons x named ih =>
    obtain ⟨n, v⟩ := x
    rw [put, lookup_cons_pair]
    by_cases hn : n = name
    · rw [if_pos hn, lookup_cons_pair, hn]
      split_ifs <;> rfl
    · rw [if_neg hn, lookup_cons_pair, ih]
      split_ifs with hkn hk
      · exact absurd (hkn.symm.trans hk) hn
      all_goals rfl

lemma nodup_put (h : (named.map (·.1)).Nodup) : ((put name value named).map (·.1)).Nodup := by
  rw [names_put]
  split_ifs with hm
  · exact h
  · exact List.nodup_append'.mpr ⟨h, List.nodup_singleton name, by simpa using hm⟩

lemma nodup_putAll (h : (named.map (·.1)).Nodup) : ((putAll more named).map (·.1)).Nodup := by
  induction more generalizing named with
  | nil => exact h
  | cons x more ih => exact ih (nodup_put h)

/-- A name keeps the position where it was first. -/
lemma names_putAll (h : (more.map (·.1)).Nodup) : (putAll more named).map (·.1) =
    named.map (·.1) ++ (more.map (·.1)).filter (· ∉ named.map (·.1)) := by
  induction more generalizing named with
  | nil => simp [putAll]
  | cons x more ih =>
    obtain ⟨hx, hmore⟩ : x.1 ∉ more.map (·.1) ∧ (more.map (·.1)).Nodup := List.nodup_cons.mp h
    have hstep : putAll (x :: more) named = putAll more (put x.1 x.2 named) := rfl
    rw [hstep, ih hmore, names_put, List.map_cons]
    by_cases hm : x.1 ∈ named.map (·.1)
    · rw [if_pos hm, List.filter_cons_of_neg (by simpa using hm)]
    · have hfilter : (more.map (·.1)).filter (· ∉ named.map (·.1) ++ [x.1]) =
          (more.map (·.1)).filter (· ∉ named.map (·.1)) := by
        refine List.filter_congr fun y hy => ?_
        have hne : y ≠ x.1 := ne_of_mem_of_not_mem hy hx
        simp [hne]
      rw [if_neg hm, List.filter_cons_of_pos (by simpa using hm), hfilter, List.append_assoc,
        List.singleton_append]

/-- A name takes the value that it was given last. -/
lemma lookup_putAll (h : (more.map (·.1)).Nodup) (k : String) :
    (putAll more named).lookup k = (more.lookup k).or (named.lookup k) := by
  induction more generalizing named with
  | nil => rfl
  | cons x more ih =>
    obtain ⟨n, v⟩ := x
    obtain ⟨hn, hmore⟩ : n ∉ more.map (·.1) ∧ (more.map (·.1)).Nodup := List.nodup_cons.mp h
    have hstep : putAll ((n, v) :: more) named = putAll more (put n v named) := rfl
    rw [hstep, ih hmore, lookup_put, lookup_cons_pair]
    split_ifs with hk
    · rw [hk, lookup_of_not_mem hn]
      rfl
    · rfl

lemma eq_of_lookup (hk : named.map (·.1) = more.map (·.1)) (hn : (named.map (·.1)).Nodup)
    (hl : ∀ k, named.lookup k = more.lookup k) : named = more := by
  induction named generalizing more with
  | nil => exact (List.map_eq_nil_iff.mp hk.symm).symm
  | cons x named ih =>
    cases more with
    | nil => cases hk
    | cons y more =>
      obtain ⟨n, v⟩ := x
      obtain ⟨n', w⟩ := y
      obtain ⟨rfl, hrest⟩ : n = n' ∧ named.map (·.1) = more.map (·.1) := List.cons.inj hk
      obtain ⟨hx, hn⟩ : n ∉ named.map (·.1) ∧ (named.map (·.1)).Nodup := List.nodup_cons.mp hn
      simp only [lookup_cons_pair] at hl
      have hvw : v = w := by simpa using hl n
      refine congrArg₂ List.cons (by rw [hvw]) (ih hrest hn fun k => ?_)
      by_cases hkn : k = n
      · rw [hkn, lookup_of_not_mem hx, lookup_of_not_mem (hrest ▸ hx)]
      · simpa [hkn] using hl k

/-- What two results come to together. -/
structure Joined (r s both : MatchResult) : Prop where
  isMatch : both.isMatch = (r.isMatch || s.isMatch)
  nodup : both.names.Nodup
  names : both.names = r.names ++ s.names.filter (· ∉ r.names)
  get? : ∀ name, both.get? name = (s.get? name).or (r.get? name)
  unnamed : both.unnamed = r.unnamed ++ s.unnamed
  captures : both.captures = r.captures ++ s.captures
  haystack : both.haystack = r.haystack.or s.haystack

lemma joined_merge (hr : r.names.Nodup) (hs : s.names.Nodup) : Joined r s (r.merge s) where
  isMatch := by
    rw [MatchResult.isMatch, merge, Option.isSome_or]
    rfl
  nodup := nodup_putAll hr
  names := names_putAll hs
  get? name := lookup_putAll hs name
  unnamed := rfl
  captures := rfl
  haystack := rfl

lemma merge_noMatch (r : MatchResult) : r.merge .noMatch = r := by
  simp [merge, noMatch]

lemma noMatch_merge (hr : r.names.Nodup) : MatchResult.noMatch.merge r = r := by
  have hnamed : putAll r.named [] = r.named := by
    refine eq_of_lookup ((names_putAll hr).trans ?_) (nodup_putAll List.nodup_nil) fun k => ?_
    · simp
    · rw [lookup_putAll hr, List.lookup_nil, Option.or_none]
  change MatchResult.mk (putAll r.named []) r.unnamed r.captures (none.or r.haystack) = r
  rw [hnamed, Option.none_or]

lemma merge_assoc (hr : r.names.Nodup) (hs : s.names.Nodup) (ht : t.names.Nodup) :
    (r.merge s).merge t = r.merge (s.merge t) := by
  have hrs := joined_merge hr hs
  have hst := joined_merge hs ht
  have hleft := joined_merge hrs.nodup ht
  have hright := joined_merge hr hst.nodup
  have hnamed : ((r.merge s).merge t).named = (r.merge (s.merge t)).named := by
    refine eq_of_lookup ?_ hleft.nodup fun k => ?_
    · change ((r.merge s).merge t).names = (r.merge (s.merge t)).names
      rw [hleft.names, hright.names, hrs.names, hst.names, List.filter_append, List.append_assoc, List.filter_filter]
      congr 2
      refine List.filter_congr fun y _ => ?_
      by_cases hy : y ∈ r.names <;> by_cases hy' : y ∈ s.names <;> simp [hy, hy']
    · have hl := hleft.get? k
      have hr := hright.get? k
      rw [hrs.get?] at hl
      rw [hst.get?] at hr
      exact (hl.trans (Option.or_assoc ..).symm).trans hr.symm
  exact MatchResult.mk.injEq .. ▸ ⟨hnamed, List.append_assoc .., List.append_assoc .., Option.or_assoc ..⟩

end MatchResult

namespace Matcher

variable {m : Matcher} {mode : Mode} {haystack : String} {r s : MatchResult}

lemma nodup_collect {program : Regex.Program} {found : Regex.Match} {groups : List Pattern.Capture}
    (h : collect program haystack found groups r = .ok s) (hr : r.names.Nodup) : s.names.Nodup := by
  induction groups generalizing r with
  | nil =>
    cases h
    exact hr
  | cons c rest ih =>
    rw [collect] at h
    split at h
    · refine ih h ?_
      cases hn : c.name <;> exact hr
    · dsimp only at h
      split at h
      · cases h
      · refine ih h ?_
        cases hn : c.name with
        | none => exact hr
        | some name => exact MatchResult.nodup_put hr

lemma nodup_run (h : m.run mode haystack = .ok r) : r.names.Nodup := by
  rw [run] at h
  split at h
  · cases h
    exact List.nodup_nil
  · exact nodup_collect h List.nodup_nil

lemma run_eq_noMatch (h : Missed (m.run mode haystack)) : m.run mode haystack = .ok .noMatch := by
  rw [run, (m.missed_run_iff mode haystack).mp h]

end Matcher

namespace Ensemble

variable {types : Registry} {config : Config} {ps qs : List String} {ms ns rest : List Matcher} {m : Matcher}
  {mode : Mode} {haystack : String} {strict : Bool} {acc r s t : MatchResult} {cause : Error}

/-- A result of some patterns run together. -/
def Results (r : MatchResult) : Prop :=
  ∃ (e : Ensemble) (mode : Mode) (haystack : String), e.run mode haystack = .ok r

/-- A pattern does not decide the outcome: it has a result, and a match if all have to match. -/
def Passes (mode : Mode) (haystack : String) (strict : Bool) (m : Matcher) : Prop :=
  ∃ r, m.run mode haystack = .ok r ∧ (strict = true → r.isMatch = true)

lemma makeAll_append (hp : makeAll types config ps = .ok ms) (hq : makeAll types config qs = .ok ns) :
    makeAll types config (ps ++ qs) = .ok (ms ++ ns) := by
  induction ps generalizing ms with
  | nil =>
    cases hp
    exact hq
  | cons pattern ps ih =>
    obtain ⟨m, hm, hp⟩ := Regex.bind_eq_ok.mp hp
    obtain ⟨ms, hms, hp⟩ := Regex.bind_eq_ok.mp hp
    cases hp
    rw [List.cons_append, makeAll, hm, ih hms]
    rfl

lemma runAll_of_error (h : m.run mode haystack = .error cause) :
    runAll mode haystack strict (m :: rest) acc = .error cause := by
  rw [runAll, h]
  rfl

lemma runAll_of_missed (h : Missed (m.run mode haystack)) :
    runAll mode haystack true (m :: rest) acc = .ok .noMatch := by
  rw [runAll, m.run_eq_noMatch h]
  rfl

lemma runAll_of_passes (h : m.run mode haystack = .ok r) (hm : strict = true → r.isMatch = true) :
    runAll mode haystack strict (m :: rest) acc = runAll mode haystack strict rest (acc.merge r) := by
  have hgo : (strict && !r.isMatch) = false := by
    cases strict with
    | false => rfl
    | true => rw [hm rfl]; rfl
  rw [runAll, h]
  change (if (strict && !r.isMatch) = true then _ else _) = _
  rw [hgo]
  rfl

lemma runAll_of_ok (h : m.run mode haystack = .ok r) :
    runAll mode haystack false (m :: rest) acc = runAll mode haystack false rest (acc.merge r) :=
  runAll_of_passes h fun hno => absurd hno Bool.false_ne_true

lemma exists_runAll (h : ∀ k ∈ ms, Passes mode haystack strict k) (acc : MatchResult) :
    ∃ r, ∀ rest, runAll mode haystack strict (ms ++ rest) acc = runAll mode haystack strict rest r ∧
      runAll mode haystack false (ms ++ rest) acc = runAll mode haystack false rest r := by
  induction ms generalizing acc with
  | nil => exact ⟨acc, fun rest => ⟨rfl, rfl⟩⟩
  | cons m ms ih =>
    obtain ⟨⟨s, hs, hmatch⟩, h⟩ := List.forall_mem_cons.mp h
    obtain ⟨r, hr⟩ := ih h (acc.merge s)
    refine ⟨r, fun rest => ?_⟩
    rw [List.cons_append, runAll_of_passes hs hmatch, runAll_of_ok hs]
    exact hr rest

lemma runAll_append (h : runAll mode haystack false ms acc = .ok r) (rest : List Matcher) :
    runAll mode haystack false (ms ++ rest) acc = runAll mode haystack false rest r := by
  induction ms generalizing acc with
  | nil =>
    cases h
    rfl
  | cons m ms ih =>
    obtain ⟨s, hs, h⟩ := Regex.bind_eq_ok.mp h
    rw [List.cons_append, runAll_of_ok hs]
    exact ih h

lemma nodup_runAll (h : runAll mode haystack strict ms acc = .ok r) (hacc : acc.names.Nodup) : r.names.Nodup := by
  induction ms generalizing acc with
  | nil =>
    cases h
    exact hacc
  | cons m ms ih =>
    obtain ⟨s, hs, h⟩ := Regex.bind_eq_ok.mp h
    split at h
    · cases h
      exact List.nodup_nil
    · exact ih h (MatchResult.nodup_putAll hacc)

lemma Results.nodup (h : Results r) : r.names.Nodup := by
  obtain ⟨e, mode, haystack, h⟩ := h
  exact nodup_runAll h List.nodup_nil

lemma runAll_merge (h : runAll mode haystack false ms s = .ok r) (hacc : acc.names.Nodup) (hs : s.names.Nodup) :
    runAll mode haystack false ms (acc.merge s) = .ok (acc.merge r) := by
  induction ms generalizing s with
  | nil =>
    cases h
    rfl
  | cons m ms ih =>
    obtain ⟨t, ht, h⟩ := Regex.bind_eq_ok.mp h
    have hnodup := m.nodup_run ht
    rw [runAll_of_ok ht, MatchResult.merge_assoc hacc hs hnodup]
    exact ih h (MatchResult.nodup_putAll hs)

lemma run_append (hr : run ⟨ms, false⟩ mode haystack = .ok r) (hs : run ⟨ns, false⟩ mode haystack = .ok s) :
    run ⟨ms ++ ns, false⟩ mode haystack = .ok (r.merge s) := by
  have hnodup : r.names.Nodup := nodup_runAll hr List.nodup_nil
  have happend : run ⟨ms ++ ns, false⟩ mode haystack = runAll mode haystack false ns r := runAll_append hr ns
  have hmerge := runAll_merge hs hnodup List.nodup_nil
  rwa [r.merge_noMatch, ← happend] at hmerge

lemma exists_error (h : runAll mode haystack false ms acc = .error cause) : ∃ before m behind,
    ms = before ++ m :: behind ∧ (∀ k ∈ before, Passes mode haystack false k) ∧ m.run mode haystack = .error cause := by
  induction ms generalizing acc with
  | nil => cases h
  | cons m ms ih =>
    cases hm : m.run mode haystack with
    | error e =>
      rw [runAll_of_error hm] at h
      obtain rfl := Except.error.inj h
      exact ⟨[], m, ms, rfl, fun k hk => absurd hk List.not_mem_nil, hm⟩
    | ok s =>
      rw [runAll_of_ok hm] at h
      obtain ⟨before, k, behind, rfl, hbefore, hk⟩ := ih h
      have hpass : Passes mode haystack false m := ⟨s, hm, fun hno => absurd hno Bool.false_ne_true⟩
      exact ⟨m :: before, k, behind, rfl, List.forall_mem_cons.mpr ⟨hpass, hbefore⟩, hk⟩

lemma run_singleton (m : Matcher) (strict : Bool) (mode : Mode) (haystack : String) :
    run ⟨[m], strict⟩ mode haystack = m.run mode haystack := by
  rcases Classical.em (Missed (m.run mode haystack)) with hno | hyes
  · cases strict with
    | true => exact (runAll_of_missed hno).trans (m.run_eq_noMatch hno).symm
    | false =>
      have hrun := m.run_eq_noMatch hno
      rw [run, runAll_of_ok hrun, hrun, runAll, MatchResult.merge_noMatch]
  · cases hm : m.run mode haystack with
    | error cause => exact runAll_of_error hm
    | ok r =>
      have hmatch : r.isMatch = true := Bool.eq_true_of_not_eq_false fun hno => hyes ⟨r, hm, hno⟩
      rw [run, runAll_of_passes hm fun _ => hmatch, runAll, MatchResult.noMatch_merge (m.nodup_run hm)]

lemma searchAll_singleton (m : Matcher) (strict : Bool) (haystack : String) :
    searchAll ⟨[m], strict⟩ haystack = m.searchAll haystack := by
  rw [searchAll, searchEach]
  cases m.searchAll haystack with
  | error cause => rfl
  | ok l => cases strict <;> cases l <;> rfl

/-- Running patterns together turns lists put together into results merged. Merging has the properties of putting
lists together, except that a name is given once, and the first pattern that does not pass decides. -/
theorem run_append_eq_merge (hp : makeAll types config ps = .ok ms) (hq : makeAll types config qs = .ok ns)
    (mode : Mode) (haystack : String) :
    (∀ strict, make types config strict (ps ++ qs) = .ok ⟨ms ++ ns, strict⟩) ∧
    (∀ r s, run ⟨ms, false⟩ mode haystack = .ok r → run ⟨ns, false⟩ mode haystack = .ok s →
      run ⟨ms ++ ns, false⟩ mode haystack = .ok (r.merge s)) ∧
    (∀ r s t, Results r → Results s → Results t → MatchResult.Joined r s (r.merge s) ∧
      (r.merge s).merge t = r.merge (s.merge t) ∧ r.merge .noMatch = r ∧ MatchResult.noMatch.merge r = r) ∧
    (∀ cause, run ⟨ms, false⟩ mode haystack = .error cause ↔ ∃ before m behind, ms = before ++ m :: behind ∧
      (∀ k ∈ before, Passes mode haystack false k) ∧ m.run mode haystack = .error cause) ∧
    (∀ before m behind, ms = before ++ m :: behind → (∀ k ∈ before, Passes mode haystack true k) →
      (∀ cause, m.run mode haystack = .error cause → run ⟨ms, true⟩ mode haystack = .error cause) ∧
      (Missed (m.run mode haystack) → run ⟨ms, true⟩ mode haystack = .ok .noMatch)) ∧
    ((∀ k ∈ ms, Passes mode haystack true k) → run ⟨ms, true⟩ mode haystack = run ⟨ms, false⟩ mode haystack) ∧
    (∀ pattern m, Matcher.make types config pattern = .ok m → ∀ strict,
      make types config strict [pattern] = .ok ⟨[m], strict⟩ ∧
      (∀ mode haystack, run ⟨[m], strict⟩ mode haystack = m.run mode haystack) ∧
      ∀ haystack, searchAll ⟨[m], strict⟩ haystack = m.searchAll haystack) := by
  refine ⟨fun strict => ?_, fun r s => run_append, fun r s t hr hs ht => ?_, fun cause => ⟨exists_error, ?_⟩, ?_, ?_, ?_⟩
  · rw [make, makeAll_append hp hq]
    rfl
  · exact ⟨MatchResult.joined_merge hr.nodup hs.nodup, MatchResult.merge_assoc hr.nodup hs.nodup ht.nodup,
      r.merge_noMatch, MatchResult.noMatch_merge hr.nodup⟩
  · rintro ⟨before, m, behind, rfl, hbefore, hm⟩
    obtain ⟨r, hr⟩ := exists_runAll hbefore .noMatch
    exact (hr (m :: behind)).1.trans (runAll_of_error hm)
  · rintro before m behind rfl hbefore
    obtain ⟨r, hr⟩ := exists_runAll hbefore .noMatch
    exact ⟨fun cause hm => (hr (m :: behind)).1.trans (runAll_of_error hm),
      fun hm => (hr (m :: behind)).1.trans (runAll_of_missed hm)⟩
  · intro hall
    obtain ⟨r, hr⟩ := exists_runAll hall .noMatch
    obtain ⟨hstrict, hloose⟩ := hr []
    rw [List.append_nil] at hstrict hloose
    exact hstrict.trans hloose.symm
  · intro pattern m hm strict
    refine ⟨?_, run_singleton m strict, searchAll_singleton m strict⟩
    rw [make, makeAll, hm]
    rfl

/-- The value given last is the one that a name keeps. -/
theorem run_append_eq_merge_same_name : ∃ ms ns r s, makeAll .empty {} ["[x]-*"] = .ok ms ∧
    makeAll .empty {} ["*-[x]"] = .ok ns ∧ run ⟨ms, false⟩ .full "a-b" = .ok r ∧
    run ⟨ns, false⟩ .full "a-b" = .ok s ∧ r.named = [("x", .text "a")] ∧ s.named = [("x", .text "b")] ∧
    run ⟨ms ++ ns, false⟩ .full "a-b" = .ok (r.merge s) ∧ (r.merge s).named = [("x", .text "b")] := by
  have hall : (Regex.result? (makeAll .empty {} ["[x]-*"])).any (fun ms =>
      (Regex.result? (makeAll .empty {} ["*-[x]"])).any fun ns =>
        (Regex.result? (run ⟨ms, false⟩ .full "a-b")).any fun r => (Regex.result? (run ⟨ns, false⟩ .full "a-b")).any
          fun s => r.named == [("x", .text "a")] && s.named == [("x", .text "b")]) = true := by
    decide +kernel
  obtain ⟨ms, hms, h⟩ := (Option.any_eq_true _ _).mp hall
  obtain ⟨ns, hns, h⟩ := (Option.any_eq_true _ _).mp h
  obtain ⟨r, hr, h⟩ := (Option.any_eq_true _ _).mp h
  obtain ⟨s, hs, h⟩ := (Option.any_eq_true _ _).mp h
  rw [Bool.and_eq_true, beq_iff_eq, beq_iff_eq] at h
  have hms := Regex.result?_eq_some.mp hms
  have hns := Regex.result?_eq_some.mp hns
  have hr := Regex.result?_eq_some.mp hr
  have hs := Regex.result?_eq_some.mp hs
  refine ⟨ms, ns, r, s, hms, hns, hr, hs, h.1, h.2, (run_append_eq_merge hms hns .full "a-b").2.1 r s hr hs, ?_⟩
  rw [MatchResult.merge, h.1, h.2]
  rfl

end Ensemble

end TypedPattern
