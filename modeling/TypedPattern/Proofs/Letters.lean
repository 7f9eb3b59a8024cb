import TypedPattern.Proofs.Building
import TypedPattern.Proofs.Capturing
import TypedPattern.Proofs.Unicode.Complement

/-! What groups of the type of letters capture: words without digits and underscores. -/

namespace TypedPattern

open Pattern (Capture Config Segment)
open Regex (ByteSequence Core Footprint.ofClass Match Point Program Syntax)
open Text (ByteSpan)

namespace Regex.Core

lemma fits_repeated_class {s : CharSet} (hf : Footprint.ofClass false s ≤ 200000)
    (hb : Footprint.ofClass true s ≤ 200000) : (capture 0 (repetition 1 none true (chars s))).fits = true ∧
      (seq (capture 0 (repetition 1 none true (chars s))) (look .textEnd)).fits = true := by
  have hlimit : 1000000 ≤ Footprint.limit := by decide
  simp only [fits, footprint, anchoredAtStart, anchoredAtEnd, Footprint.repetition, Footprint.copies, Footprint.choice,
    Footprint.state, skipFootprint, Footprint.ranged, Bool.and_eq_true, decide_eq_true_eq]
  simp
  omega

lemma repeated_ofChars {s : CharSet} (h : s.only? = none) :
    repeated 1 none true (ofChars s) = repetition 1 none true (chars s) := by
  rw [ofChars, h]
  cases hs : s.isEmpty <;> simp [repeated, maxLength, hs]

end Regex.Core

/-- A letter, a mark, a connector other than the underscore or a joiner. -/
def IsWordLetter (c : Char) : Prop :=
  (isAlphabetic c = true ∨ (Unicode.inCategories (.connectorPunctuation :: Unicode.Category.marks)).contains c = true ∨
      Unicode.joinControl.contains c = true) ∧
    Unicode.decimalDigit.contains c = false ∧ c ≠ '_'

namespace Fragment

def lettersTree : Syntax :=
  .repetition ⟨0, 0⟩ ⟨0, 0⟩ .oneOrMore true (.bracketed ⟨0, 0⟩ true (.union ⟨0, 0⟩
    [.perl ⟨⟨0, 0⟩, .digit, false⟩, .literal ⟨⟨0, 0⟩, .verbatim, '_'⟩, .perl ⟨⟨0, 0⟩, .word, true⟩]))

def excluded : CharSet :=
  Unicode.decimalDigit.union ((CharSet.range 0x5F 0x5F).union (Unicode.word.complement.union .empty))

def letterSet (caseInsensitive : Bool) : CharSet :=
  (Regex.Meaning.fold (.standard caseInsensitive) excluded).complement

lemma bare_letters : (Regex.result? (Regex.read letters.toList)).map Syntax.bare = some lettersTree := by
  rfl

lemma meaning_lettersTree (caseInsensitive : Bool) :
    lettersTree.meaning caseInsensitive = .ok (.repeated 1 none true (.ofChars (letterSet caseInsensitive))) := by
  rfl

-- One computation for all that is to be known of the two sets, which come from long tables.
lemma letterSet_facts : ((letterSet false).isAscii = false ∧ (letterSet false).only? = none) ∧
    ((ByteSequence.ofSet (letterSet false)).length ≤ 1000 ∧ (excluded.ranges.IsChain fun r s => r.lo ≤ s.lo) ∧
      excluded.ranges.length ≤ 0xC0000) ∧
    (letterSet false).contains 'é' = true ∧ (letterSet false).contains '\u0301' = true := by
  decide +kernel

lemma increasing_excluded : CharRange.Increasing excluded.ranges ∧ excluded.ranges.length ≤ 0xC0000 := by
  have : IsTrans CharRange fun r s => r.lo ≤ s.lo := ⟨fun _ _ _ => Nat.le_trans⟩
  obtain ⟨-, ⟨-, hchain, hlength⟩, -⟩ := letterSet_facts
  exact ⟨List.isChain_iff_pairwise.mp hchain, hlength⟩

/-- Case folding adds to what is left out and takes nothing away. -/
lemma not_excluded {caseInsensitive : Bool} {c : Char} (h : (letterSet caseInsensitive).contains c = true) :
    excluded.contains c = false := by
  obtain ⟨hincreasing, hlength⟩ := increasing_excluded
  cases caseInsensitive with
  | false => exact CharSet.not_contains_of_complement hincreasing h
  | true =>
    have hfolded : (Unicode.closeUnderFolding excluded).contains c = false :=
      CharSet.not_contains_of_complement (Unicode.increasing_closeUnderFolding hincreasing hlength) h
    rw [← Bool.not_eq_true] at hfolded ⊢
    exact fun hc => hfolded (Unicode.contains_closeUnderFolding hc)

lemma isWordLetter_of_not_excluded {c : Char} (h : excluded.contains c = false) : IsWordLetter c := by
  simp only [excluded, CharSet.contains_union, Bool.or_eq_false_iff] at h
  obtain ⟨hdigit, hunderscore, hword, -⟩ := h
  refine ⟨?_, hdigit, fun he => ?_⟩
  · have hword : Unicode.word.contains c = true := by
      by_contra hc
      rw [CharSet.complement_of_not_contains (Bool.not_eq_true _ ▸ hc)] at hword
      cases hword
    rw [Unicode.word, CharSet.contains_union, CharSet.contains_union, Unicode.contains_inCategories_cons] at hword
    simp only [Bool.or_eq_true] at hword
    rcases hword with (h | h | h) | h
    · exact Or.inl h
    · exact absurd h (Bool.eq_false_iff.mp hdigit)
    · exact Or.inr (Or.inl h)
    · exact Or.inr (Or.inr h)
  · rw [he] at hunderscore
    cases hunderscore

lemma spells_letters {caseInsensitive : Bool} {s t : Regex.Spot}
    (h : (Core.repeated 1 none true (.ofChars (letterSet caseInsensitive))).Leads s t) :
    ∃ w, s.rest = w ++ t.rest ∧ w ≠ [] ∧ ∀ c ∈ w, IsWordLetter c := by
  have hchars : Core.Alike (.ofChars (letterSet caseInsensitive)) (.chars (letterSet caseInsensitive)) :=
    fun _ _ => Core.leads_ofChars _
  rw [Core.leads_repeated, hchars.repetition] at h
  obtain ⟨w, hw, hspells⟩ := h.spells
  obtain ⟨hlength, -, hall⟩ := hspells.repeated_chars
  exact ⟨w, hw, List.ne_nil_of_length_pos hlength, fun c hc => isWordLetter_of_not_excluded (not_excluded (hall c hc))⟩

end Fragment

namespace Registry

lemma tree_letters {origin : Nat} {t : GroupType} (ht : (builtin origin).find? "letters" = some t) :
    t.tree.bare = Fragment.lettersTree := by
  have he : ("letters", Fragment.letters, Converter.identity) ∈ builtinTypes := by
    simp [builtinTypes]
  obtain ⟨u, hu⟩ := exists_builtin origin he
  have hf := find?_builtin he hu
  obtain rfl := Option.some.inj (ht.symm.trans hf)
  obtain ⟨-, -, whole, hread, htree⟩ := hu.spec
  obtain ⟨hr, -⟩ := GroupType.readFragment_ok.mp hread
  have hbare : some whole.bare = some Fragment.lettersTree := by
    rw [← Fragment.bare_letters, hr]
    rfl
  rw [htree, Syntax.withoutCaptures_bare, Option.some.inj hbare]
  rfl

end Registry

namespace Fragment

def lettersCore : Core :=
  .repetition 1 none true (.chars (letterSet false))

def lettersText : List Char :=
  Pattern.groupText lettersTree

lemma fits_letters : (Core.capture 0 lettersCore).fits = true ∧
    (Core.seq (.capture 0 lettersCore) (.look .textEnd)).fits = true := by
  obtain ⟨⟨hascii, -⟩, ⟨hlength, -⟩, -⟩ := letterSet_facts
  have hroom : ∀ backward, Regex.Footprint.ofClass backward (letterSet false) ≤ 200000 := by
    intro backward
    have hle := Regex.Footprint.ofClass_le hascii backward
    omega
  exact Core.fits_repeated_class (hroom false) (hroom true)

lemma eager_letters : lettersCore.eager = true := by
  have hne : (letterSet false).isEmpty = false := by
    obtain ⟨r, hr, -⟩ := List.any_eq_true.mp letterSet_facts.2.2.1
    exact List.isEmpty_eq_false_iff.mpr (List.ne_nil_of_mem hr)
  simp [lettersCore, Core.eager, Core.sweeps, Core.tame, Core.spread, Core.falls, hne]

lemma ofText_of_bare {text : List Char} {x : Syntax} {core : Core}
    (hr : (Regex.result? (Regex.read text)).map Syntax.bare = some x) (hm : x.meaning false = .ok core)
    (hx : x.bare = x) (hf : core.fits = true) : ∃ names, Program.ofText false text = .ok ⟨core, names⟩ := by
  obtain ⟨tree, hread, hbare⟩ := Option.map_eq_some_iff.mp hr
  have hmean := Syntax.meaning_of_bare_eq (hx.trans hbare.symm) hm
  exact ⟨_, Regex.Program.ofText_of_fits (Regex.result?_eq_some.mp hread) hmean hf⟩

def lettersGroup : Syntax :=
  .group ⟨0, 0⟩ (.named true ['x']) lettersTree

lemma bare_lettersGroup : (Regex.result? (Regex.read lettersText)).map Syntax.bare = some lettersGroup := by
  rfl

lemma bare_lettersClosed : (Regex.result? (Regex.read (Matcher.atEnd lettersText))).map Syntax.bare =
    some (.concat ⟨0, 0⟩ [.group ⟨0, 0⟩ (.plain []) lettersGroup, .assertion ⟨0, 0⟩ .lineEnd]) := by
  rfl

lemma meaning_lettersGroup : lettersGroup.meaning false =
    .ok (.capture 0 (.repeated 1 none true (.ofChars (letterSet false)))) := by
  rfl

lemma meaning_lettersClosed :
    (Syntax.concat ⟨0, 0⟩ [.group ⟨0, 0⟩ (.plain []) lettersGroup, .assertion ⟨0, 0⟩ .lineEnd]).meaning false =
      .ok (.seq (.capture 0 (.repeated 1 none true (.ofChars (letterSet false)))) (.look .textEnd)) := by
  rfl

lemma runs_letters (p : Program → Program → Bool) (h : ∀ names names', p ⟨.capture 0 lettersCore, names⟩
    ⟨.seq (.capture 0 lettersCore) (.look .textEnd), names'⟩ = true) : Matcher.runs false lettersText p = true := by
  have hcore := Core.repeated_ofChars letterSet_facts.1.2
  have hbare := meaning_lettersGroup
  have hclosed := meaning_lettersClosed
  rw [hcore] at hbare hclosed
  obtain ⟨names, hb⟩ := ofText_of_bare bare_lettersGroup hbare rfl fits_letters.1
  obtain ⟨names', hc⟩ := ofText_of_bare bare_lettersClosed hclosed rfl fits_letters.2
  rw [Matcher.runs, hb, hc]
  exact h names names'

end Fragment

namespace Matcher

/-- A match of some mode, or one of all matches in a row. -/
def FindsMatch (m : Matcher) (mode : Mode) (text : List Char) (found : Match) : Prop :=
  m.find? mode text = some found ∨ mode = .search ∧ found ∈ m.bare.core.searchAll text

variable {types : Registry} {config : Config} {pattern haystack : String} {m : Matcher} {mode : Mode} {found : Match}

lemma FindsMatch.foundAt (h : make types config pattern = .ok m) (hf : m.FindsMatch mode haystack.toList found) :
    ∃ p, m.FoundAt mode haystack.toList found p := by
  rcases hf with hf | ⟨rfl, hf⟩
  · exact exists_foundAt h hf
  · exact foundAt_of_mem_searchAll h hf

lemma exists_recorded_lookup (h : make types config pattern = .ok m) (hl : m.compiled.Legible) {p : Point}
    (hf : m.FoundAt mode haystack.toList found p) : ∃ branch ∈ m.compiled.branches.toList, ∃ parts : List Taken,
      parts.map Taken.group = Segment.groups branch ∧
        (∀ t ∈ parts, t.Stands haystack.toList (!config.caseSensitive)) ∧ ∀ g ∈ m.groups,
          (m.program mode).group? found g.id = (parts.map fun t => (t.group.order, t.span)).reverse.lookup g.order := by
  obtain ⟨before, branch, behind, parts, hsplit, hparts, hrecorded, -⟩ := exists_recorded h hl hf
  have hgroups : found.stop.groups = (parts.map fun t => (t.group.order, t.span)).reverse := by
    have hgroups : found.stop.groups = _ := hrecorded.groups
    rwa [hf.starts.groups, List.append_nil] at hgroups
  refine ⟨branch, ?_, parts, hparts, hrecorded.stands, fun g hg => ?_⟩
  · rw [hsplit]
    exact List.mem_append_right before List.mem_cons_self
  · rw [group?_program h hl mode hg, Match.group?, hgroups]

lemma exists_stands (h : make types config pattern = .ok m) (hl : m.compiled.Legible) {p : Point}
    (hf : m.FoundAt mode haystack.toList found p) {g : Capture} (hg : g ∈ m.groups) {span : ByteSpan}
    (hspan : (m.program mode).group? found g.id = some span) :
    ∃ t : Taken, t.group = g ∧ t.span = span ∧ t.Stands haystack.toList (!config.caseSensitive) := by
  obtain ⟨branch, hbranch, parts, hparts, hstands, hlookup⟩ := exists_recorded_lookup h hl hf
  rw [hlookup g hg, List.lookup_eq_some_iff] at hspan
  obtain ⟨first, last, hlist, -⟩ := hspan
  have hmem : (g.order, span) ∈ parts.map fun t => (t.group.order, t.span) := by
    rw [← List.mem_reverse, hlist]
    exact List.mem_append_right first List.mem_cons_self
  obtain ⟨t, ht, he⟩ := List.mem_map.mp hmem
  obtain ⟨horder, hspan⟩ := Prod.mk.inj he
  have htg : t.group ∈ m.groups := List.mem_flatMap.mpr ⟨branch, hbranch, hparts ▸ List.mem_map_of_mem ht⟩
  exact ⟨t, List.inj_on_of_nodup_map (sound_of_make h).orders_nodup htg hg horder, hspan, hstands t ht⟩

lemma exists_span (h : make types config pattern = .ok m) (hl : m.compiled.Legible) {p : Point}
    (hf : m.FoundAt mode haystack.toList found p) {g : Capture} (hone : m.compiled.branches = .one [.group g]) :
    ∃ span, (m.program mode).group? found g.id = some span := by
  have hg : g ∈ m.groups := by
    rw [groups, Pattern.Compiled.groups, hone]
    exact List.mem_singleton_self g
  obtain ⟨branch, hbranch, parts, hparts, -, hlookup⟩ := exists_recorded_lookup h hl hf
  rw [hone] at hbranch
  obtain rfl := List.mem_singleton.mp hbranch
  obtain ⟨t, rfl, ht⟩ := List.map_eq_singleton_iff.mp hparts
  rw [hlookup g hg, List.map_singleton, ht]
  exact ⟨t.span, List.lookup_cons_self⟩

lemma exists_make_letters (origin : Nat) : ∃ t m, (Registry.builtin origin).find? "letters" = some t ∧
    t.name = "letters" ∧ t.converter = .identity ∧ make (.builtin origin) {} (Pattern.ofType t.name) = .ok m ∧
      m.bare.core = .capture 0 Fragment.lettersCore := by
  have he : ("letters", Fragment.letters, Converter.identity) ∈ Registry.builtinTypes := by
    simp [Registry.builtinTypes]
  obtain ⟨t, ht⟩ := Registry.exists_builtin origin he
  obtain ⟨hname, hconverter, -⟩ := ht.spec
  have hf := Registry.find?_builtin he ht
  have hname : t.name = "letters" := hname
  have htext : Pattern.groupText t.tree = Fragment.lettersText := by
    rw [Pattern.groupText, Fragment.lettersText, Pattern.groupText, ← Syntax.chars_bare, Syntax.bare,
      Registry.tree_letters hf, ← Syntax.chars_bare (.group _ _ Fragment.lettersTree)]
    rfl
  obtain ⟨m, hm, hcore⟩ := @exists_make (.builtin origin) {} t (hname ▸ hf)
    (fun bare _ => bare.core == .capture 0 Fragment.lettersCore)
    (htext ▸ Fragment.runs_letters _ fun _ _ => beq_self_eq_true _)
  exact ⟨t, m, hf, hname, hconverter, hm, beq_iff_eq.mp hcore⟩

lemma not_missed_letters (h : make types config pattern = .ok m) (hcore : m.bare.core = .capture 0 Fragment.lettersCore)
    {c : Char} (hc : (Fragment.letterSet false).contains c = true) : ¬Missed (m.run .full (String.singleton c)) := by
  rw [full_iff h, hcore, Core.accepts_iff_spells rfl, String.toList_singleton]
  have hmore : ∀ n ∈ (none : Option Nat), [c].length ≤ 1 + n := fun n hn => nomatch hn
  have hall : ∀ d ∈ [c], (Fragment.letterSet false).contains d = true := List.forall_mem_singleton.mpr hc
  change Fragment.lettersCore.Spells [c]
  exact Core.spells_repeated_chars.mpr ⟨Nat.le_refl 1, hmore, hall⟩

/-- What a group of the type `letters` captures is not empty and has letters, marks, connectors other than underscores
and joiners only: no digits. -/
theorem letters_capture_words {origin : Nat} {t : GroupType} (ht : (Registry.builtin origin).find? "letters" = some t)
    (h : make types config pattern = .ok m) (hl : m.compiled.Legible) (hf : m.FindsMatch mode haystack.toList found)
    {g : Capture} (hg : g ∈ m.groups) (hk : g.constraint = .type t) {span : ByteSpan}
    (hspan : (m.program mode).group? found g.id = some span) :
    ∃ raw, Text.sliceBytes span.start span.stop haystack.toList = some raw ∧ raw ≠ [] ∧ ∀ c ∈ raw, IsWordLetter c := by
  obtain ⟨p, hp⟩ := hf.foundAt h
  obtain ⟨part, rfl, rfl, hstands⟩ := exists_stands h hl hp hg hspan
  obtain ⟨s, u, hrest, hleads⟩ := hstands.leads
  have hmeans : (part.group.constraint).core (!config.caseSensitive) =
      .repeated 1 none true (.ofChars (Fragment.letterSet (!config.caseSensitive))) := by
    rw [hk]
    change (Regex.result? (t.tree.meaning _)).getD _ = _
    rw [← Syntax.meaning_bare, Registry.tree_letters ht, Fragment.meaning_lettersTree]
    rfl
  rw [hmeans] at hleads
  obtain ⟨w, hw, hne, hall⟩ := Fragment.spells_letters hleads
  obtain rfl := List.append_cancel_right (hrest.symm.trans hw)
  exact ⟨_, slice_of_stretch hstands.stretch, hne, hall⟩

/-- A letter beyond ASCII. -/
theorem letters_capture_words_accent : ∃ t m found span raw, (Registry.builtin 0).find? "letters" = some t ∧
    make (.builtin 0) {} (Pattern.ofType t.name) = .ok m ∧ m.FindsMatch .full "é".toList found ∧
      (m.program .full).group? found "x" = some span ∧
        Text.sliceBytes span.start span.stop "é".toList = some raw ∧ raw ≠ [] ∧ ∀ c ∈ raw, IsWordLetter c := by
  obtain ⟨t, m, hf, hname, -, hm, hcore⟩ := exists_make_letters 0
  obtain ⟨found, hfound⟩ := Option.isSome_iff_exists.mp
    (not_missed_run.mp (not_missed_letters hm hcore Fragment.letterSet_facts.2.2.1))
  have hone := congrArg Pattern.Compiled.branches (compiled_ofType (hname ▸ hf) hm)
  have hfinds : m.FindsMatch .full "é".toList found := Or.inl hfound
  have hg : (⟨0, some "x", .type t⟩ : Capture) ∈ m.groups := by
    rw [groups, Pattern.Compiled.groups, hone]
    exact List.mem_singleton_self _
  obtain ⟨p, hp⟩ := hfinds.foundAt hm
  obtain ⟨span, hspan⟩ := exists_span hm (legible_builtin hm) hp hone
  obtain ⟨raw, hraw⟩ := letters_capture_words hf hm (legible_builtin hm) hfinds hg rfl hspan
  exact ⟨t, m, found, span, raw, hf, hm, hfinds, hspan, hraw⟩

/-- A combining mark is no letter, and is captured alone. -/
theorem letters_capture_mark : ∃ t m r, (Registry.builtin 0).find? "letters" = some t ∧
    make (.builtin 0) {} (Pattern.ofType t.name) = .ok m ∧ m.run .full "\u0301" = .ok r ∧
      r.named = [("x", .text "\u0301")] ∧ isAlphabetic '\u0301' = false := by
  obtain ⟨t, m, hf, hname, hconverter, hm, hcore⟩ := exists_make_letters 0
  have hfull := not_missed_letters hm hcore Fragment.letterSet_facts.2.2.2
  have hgroup := bare_ofType (hname ▸ hf) hm (legible_builtin hm)
  rw [hcore] at hgroup
  have heager : (groupCore {} t).eager = true := (Core.capture.inj hgroup).2 ▸ Fragment.eager_letters
  obtain ⟨hrun, -⟩ := run_ofType (hname ▸ hf) hm (legible_builtin hm) heager hfull
  rw [taking, hconverter] at hrun
  exact ⟨t, m, _, hf, hm, hrun, rfl, by decide +kernel⟩

end Matcher

end TypedPattern
