import TypedPattern.Proofs.Modes
import TypedPattern.Proofs.Matching.Captures
import TypedPattern.Proofs.Pattern.TypedGroup
import TypedPattern.Proofs.Printing.Captures

/-! Registered fragments keep their language where their text can be told apart again. -/

namespace TypedPattern

open Pattern (Config Segment WrittenGroup)
open Regex (Core Point Program Spot Syntax)

namespace Regex

/-- An expression leads from the start of a text to its end. -/
def Core.Accepts (r : Core) (text : List Char) : Prop :=
  ∃ t, r.Leads ⟨none, text⟩ t ∧ t.rest = []

/-- A text belongs to the language that some text describes. -/
def Language (expression text : List Char) : Prop :=
  ∃ tree core, read expression = .ok tree ∧ tree.meaning false = .ok core ∧ core.Accepts text

lemma language_iff {expression text : List Char} {tree : Syntax} {core : Core} (hr : read expression = .ok tree)
    (hm : tree.meaning false = .ok core) : Language expression text ↔ core.Accepts text := by
  constructor
  · rintro ⟨tree', core', hr', hm', h⟩
    cases hr.symm.trans hr'
    cases hm.symm.trans hm'
    exact h
  · intro h
    exact ⟨tree, core, hr, hm, h⟩

lemma Core.accepts_iff {r : Core} {text : List Char} :
    r.Accepts text ↔ ∃ q ∈ r.ends [] [Point.ofText text], q.rest = [] := by
  have hleads := fun t => Core.exists_mem_ends_iff (r := r) (Point.on_ofText text) rfl t
  constructor
  · rintro ⟨t, ht, hend⟩
    obtain ⟨q, hq, rfl⟩ := (hleads t).mpr ht
    exact ⟨q, hq, hend⟩
  · rintro ⟨q, hq, hend⟩
    exact ⟨q.spot, (hleads q.spot).mp ⟨q, hq, rfl⟩, hend⟩

instance (r : Core) (text : List Char) : Decidable (r.Accepts text) :=
  decidable_of_iff _ Core.accepts_iff.symm

instance (expression text : List Char) : Decidable (Language expression text) :=
  match hr : read expression with
  | .error _ => .isFalse fun ⟨_, _, h, _⟩ => nomatch hr.symm.trans h
  | .ok tree =>
    match hm : tree.meaning false with
    | .error _ => .isFalse fun ⟨_, _, h, h', _⟩ => by
      cases hr.symm.trans h
      cases hm.symm.trans h'
    | .ok core => decidable_of_iff (core.Accepts text) (language_iff hr hm).symm

lemma Core.Alike.accepts {r r' : Core} (h : Core.Alike r r') (text : List Char) : r.Accepts text ↔ r'.Accepts text := by
  constructor
  · rintro ⟨t, ht, hend⟩
    exact ⟨t, (h _ t).mp ht, hend⟩
  · rintro ⟨t, ht, hend⟩
    exact ⟨t, (h _ t).mpr ht, hend⟩

lemma tooDeep?_of_read {text : List Char} {tree : Syntax} (h : read text = .ok tree) : tree.tooDeep? nestLimit = none := by
  unfold read at h
  obtain ⟨⟨t, seen, d⟩, -, h⟩ := bind_eq_ok.mp h
  dsimp only at h
  split at h
  · cases h
  · rename_i hn
    cases h
    exact hn

lemma meaning_ok {caseInsensitive : Bool} {tree : Syntax} {core : Core} (h : tree.meaning caseInsensitive = .ok core) :
    ∃ y, Meaning.expression ⟨.standard caseInsensitive, 0⟩ tree = .ok (core, y) := by
  obtain ⟨⟨r, y⟩, hr, rfl⟩ := map_eq_ok.mp h
  exact ⟨y, hr⟩

lemma read_withoutCaptures {text : List Char} {tree : Syntax} {core : Core} (hr : read text = .ok tree)
    (hm : tree.meaning false = .ok core) (hl : tree.legible = true) : ∃ tree' core',
      read tree.withoutCaptures.chars = .ok tree' ∧ tree'.bare = tree.withoutCaptures.bare ∧
        tree'.meaning false = .ok core' ∧ core.Alike core' := by
  obtain ⟨hw, -, -⟩ := written_of_read hr
  have hw' : Syntax.Written (.level false tree.withoutCaptures.bare) := by
    rw [Syntax.withoutCaptures_bare]
    exact hw.withoutCaptures
  obtain ⟨tree', hb, hread⟩ := read_chars hw' (by rw [Syntax.legible_withoutCaptures, hl])
    (by rw [Syntax.names, Syntax.captures_withoutCaptures]; exact List.nodup_nil)
  have hdeep : tree'.tooDeep? nestLimit = none := by
    rw [← Option.isNone_iff_eq_none, ← Option.not_isSome, ← Syntax.tooDeep?_bare, hb, Syntax.tooDeep?_bare,
      Syntax.tooDeep?_withoutCaptures, tooDeep?_of_read hr]
    rfl
  rw [hdeep] at hread
  obtain ⟨y, hy⟩ := meaning_ok hm
  obtain ⟨core', y', hc, -, halike⟩ := Meaning.expression_withoutCaptures rfl tree hy
  have hmean : tree.withoutCaptures.meaning false = .ok core' := by
    rw [Syntax.meaning, hc]
    rfl
  exact ⟨tree', core', hread, hb, Syntax.meaning_of_bare_eq hb.symm hmean, halike⟩

end Regex

namespace GroupType

lemma readFragment_ok {text : List Char} {tree : Syntax} : readFragment text = .ok tree ↔
    Regex.read text = .ok tree ∧ ∃ core, tree.meaning false = .ok core := by
  constructor
  · intro h
    obtain ⟨tree', hr, h⟩ := Regex.bind_eq_ok.mp h
    obtain ⟨core, hm, h⟩ := Regex.bind_eq_ok.mp h
    cases h
    exact ⟨hr, core, hm⟩
  · rintro ⟨hr, core, hm⟩
    exact Regex.bind_eq_ok.mpr ⟨tree, hr, Regex.bind_eq_ok.mpr ⟨core, hm, rfl⟩⟩

end GroupType

namespace Registry

lemma register_ok {types types' : Registry} {name fragment : String} {converter : Converter} {origin : Nat}
    (h : types.register name fragment converter origin = .ok types') : ∃ whole core t,
      Regex.read fragment.toList = .ok whole ∧ whole.meaning false = .ok core ∧ types'.find? name = some t ∧
        t.name = name ∧ t.tree = whole.withoutCaptures := by
  obtain ⟨t, ht, hf⟩ := make_of_register h
  obtain ⟨hname, -, whole, hread, htree⟩ := GroupType.make_ok ht
  obtain ⟨hr, core, hm⟩ := GroupType.readFragment_ok.mp hread
  exact ⟨whole, core, t, hr, hm, hf, hname, htree⟩

end Registry

namespace Pattern

def ofType (name : String) : String :=
  "[x:" ++ name ++ "]"

lemma compile_ofType {types : Registry} {t : GroupType} (flexible : Bool) (hf : types.find? t.name = some t) :
    compile types flexible (ofType t.name) = .ok ⟨.one [.group ⟨0, some "x", .type t⟩], flexible⟩ := by
  obtain ⟨hne, -, hres⟩ := GroupType.nameFault?_eq_none.mp t.name_ok
  have hx : "x" = "" ∨ isIdentifier "x" = true := Or.inr (by decide)
  have hblank : ∀ c ∈ ([] : List Char), isWhite c = true := fun c hc => absurd hc List.not_mem_nil
  have hread := read_spaced hblank hblank hblank hblank (not_reserved_of_name hx) hres hne
  have htext : spacedGroup [] "x" [] [] t.name [] = ofType t.name := by
    apply String.ext
    simp [spacedGroup, ofType]
  rw [htext] at hread
  exact Regex.bind_eq_ok.mpr ⟨_, hread, Regex.bind_eq_ok.mpr ⟨_, resolve_spaced hf hx, rfl⟩⟩

lemma tree_ofType (t : GroupType) (flexible : Bool) :
    (Compiled.mk (.one [.group ⟨0, some "x", .type t⟩]) flexible).tree = .group nowhere (.named true ['x']) t.tree := by
  change Syntax.group nowhere (.named true (Capture.id ⟨0, some "x", .type t⟩).toList) t.tree = _
  simp [Capture.id]

end Pattern

namespace Matcher

variable {types : Registry} {config : Config} {pattern : String} {m : Matcher}

lemma compile_of_make (h : make types config pattern = .ok m) :
    Pattern.compile types config.flexibleSpaces pattern = .ok m.compiled := by
  unfold make at h
  obtain ⟨compiled, hc, h⟩ := Regex.bind_eq_ok.mp h
  obtain ⟨bare, -, h⟩ := Regex.bind_eq_ok.mp h
  obtain ⟨closed, -, h⟩ := Regex.bind_eq_ok.mp h
  cases h
  exact hc

lemma full_iff (h : make types config pattern = .ok m) (text : String) :
    ¬Missed (m.run .full text) ↔ m.bare.core.Accepts text.toList := by
  obtain ⟨hb, hc⟩ := make_ok h
  have hfind : (m.find? .full text.toList).isSome = true ↔ ∃ t, m.closed.core.Leads ⟨none, text.toList⟩ t :=
    Core.matchAt_isSome_iff (Point.on_ofText _) rfl
  rw [not_missed_run, hfind]
  constructor
  · rintro ⟨t, ht⟩
    exact ⟨t, (Program.leads_enclose hb hc _ t).mp ht⟩
  · rintro ⟨t, ht⟩
    exact ⟨t, (Program.leads_enclose hb hc _ t).mpr ht⟩

lemma meaning_of_legible (h : make types config pattern = .ok m) (hw : Syntax.Written (.level false m.compiled.tree.bare))
    (hl : m.compiled.tree.legible = true) (hn : m.compiled.tree.names.Nodup) :
    m.compiled.tree.meaning (!config.caseSensitive) = .ok m.bare.core := by
  obtain ⟨tree, hread, hmean, -⟩ := Program.ofText_ok (make_ok h).1
  obtain ⟨y, hb, hy⟩ := Regex.read_chars hw hl hn
  have hr : m.regex.toList = m.compiled.tree.chars := String.toList_ofList
  rw [hr, hy] at hread
  split at hread
  · cases hread
  · cases hread
    exact Syntax.meaning_of_bare_eq hb hmean

end Matcher

namespace Registry

variable {types types' : Registry} {name fragment : String} {converter : Converter} {origin : Nat}

/-- A registered fragment keeps its language if it can be told apart when it is written out again, which holds wherever
verbose mode is never on: what is stored describes the same texts, and a group of that type matches them and no others. -/
theorem register_keeps_language (h : types.register name fragment converter origin = .ok types') :
    ∃ whole t, Regex.read fragment.toList = .ok whole ∧ types'.find? name = some t ∧
      (whole.isPlain = true → whole.legible = true) ∧
      (whole.legible = true → ∀ text : String,
        (Regex.Language t.fragment.toList text.toList ↔ Regex.Language fragment.toList text.toList) ∧
        ∀ m, Matcher.make types' {} (Pattern.ofType name) = .ok m →
          (¬Missed (m.run .full text) ↔ Regex.Language fragment.toList text.toList)) := by
  obtain ⟨whole, core, t, hr, hm, hf, rfl, ht⟩ := register_ok h
  obtain ⟨hw, -, hplain⟩ := Regex.written_of_read hr
  refine ⟨whole, t, hr, hf, hplain, fun hl text => ⟨?_, fun m hmake => ?_⟩⟩
  · obtain ⟨tree', core', hr', -, hm', halike⟩ := Regex.read_withoutCaptures hr hm hl
    have hfragment : t.fragment.toList = whole.withoutCaptures.chars := by
      rw [GroupType.fragment, String.toList_ofList, ht]
    rw [hfragment, Regex.language_iff hr' hm', Regex.language_iff hr hm]
    exact (halike.accepts _).symm
  · rw [Matcher.full_iff hmake, Regex.language_iff hr hm]
    have hcompiled := (Matcher.compile_of_make hmake).symm.trans (Pattern.compile_ofType _ hf)
    have htree : m.compiled.tree = .group Pattern.nowhere (.named true ['x']) t.tree := by
      rw [Except.ok.inj hcompiled, Pattern.tree_ofType]
    have hname : (Regex.GroupKind.named true ['x']).bare.Written := ⟨'x', [], rfl, by decide +kernel, by simp⟩
    have hbody : Syntax.Written (.level false t.tree.bare) := by
      rw [ht, Syntax.withoutCaptures_bare]
      exact hw.withoutCaptures
    have hgroup : Syntax.Written (.level false m.compiled.tree.bare) := by
      rw [htree]
      exact .single (.cons (.group hname hbody) (.nil _))
    have hnone : t.tree.captures = [] := by rw [ht, Syntax.captures_withoutCaptures]
    have hlegible : m.compiled.tree.legible = true := by
      rw [htree, Syntax.legible, ht, Syntax.legible_withoutCaptures, hl]
    have hnames : m.compiled.tree.names.Nodup := by
      rw [htree, Syntax.names, Syntax.captures, hnone]
      exact List.nodup_singleton _
    have hmean := Matcher.meaning_of_legible hmake hgroup hlegible hnames
    rw [htree] at hmean
    obtain ⟨y, hy⟩ := Regex.meaning_ok hmean
    obtain ⟨⟨r, z⟩, hbare, hy⟩ := Regex.bind_eq_ok.mp hy
    obtain ⟨y', hy'⟩ := Regex.meaning_ok hm
    have hflags : (⟨.standard false, 1⟩ : Regex.Meaning.Context).flags =
        (⟨.standard false, 0⟩ : Regex.Meaning.Context).flags := rfl
    obtain ⟨r', z', hr', -, halike⟩ := Regex.Meaning.expression_withoutCaptures hflags whole hy'
    have hcore : m.bare.core = .capture 0 r' := by
      rw [ht] at hbare
      cases hbare.symm.trans hr'
      exact (Prod.mk.inj (Except.ok.inj hy)).1.symm
    rw [hcore]
    exact (halike.accepts _).symm

/-- A fragment with a capturing group. -/
theorem register_keeps_language_capture : ∃ types' t,
    empty.register "t" "(a|b)+" .identity 0 = .ok types' ∧ types'.find? "t" = some t ∧ t.fragment = "(?:a|b)+" ∧
      (Regex.Language t.fragment.toList "ab".toList ↔ Regex.Language "(a|b)+".toList "ab".toList) := by
  have hplain : (Regex.result? (Regex.read "(a|b)+".toList)).all (·.isPlain) = true := by decide +kernel
  have hfragment : (Regex.result? (empty.register "t" "(a|b)+" .identity 0)).any
      (fun r => (r.find? "t").any (·.fragment == "(?:a|b)+")) = true := by decide +kernel
  cases hr : empty.register "t" "(a|b)+" .identity 0 with
  | error e =>
    rw [hr] at hfragment
    cases hfragment
  | ok types' =>
    obtain ⟨whole, t, hread, hf, hlegible, hkeeps⟩ := register_keeps_language hr
    rw [hread] at hplain
    rw [hr] at hfragment
    refine ⟨types', t, rfl, hf, ?_, (hkeeps (hlegible hplain) "ab").1⟩
    have hfragment : (types'.find? "t").any (·.fragment == "(?:a|b)+") = true := hfragment
    rw [hf] at hfragment
    exact beq_iff_eq.mp hfragment

/-- Without the blank that keeps it apart from the plus sign, a question mark makes the repetition lazy. -/
theorem register_loses_language_verbose : ∃ types' t m,
    empty.register "t" "(?x)a+ ?" .identity 0 = .ok types' ∧ types'.find? "t" = some t ∧ t.fragment = "(?x)a+?" ∧
      Matcher.make types' {} (Pattern.ofType "t") = .ok m ∧ Regex.Language "(?x)a+ ?".toList [] ∧
        ¬Regex.Language t.fragment.toList [] ∧ Missed (m.run .full "") := by
  have hlanguage : Regex.Language "(?x)a+ ?".toList [] := by decide +kernel
  have hall : (Regex.result? (empty.register "t" "(?x)a+ ?" .identity 0)).any (fun r =>
      (r.find? "t").any (fun t => t.fragment == "(?x)a+?" && !decide (Regex.Language t.fragment.toList [])) &&
        (Regex.result? (Matcher.make r {} (Pattern.ofType "t"))).any fun m => (m.find? .full []).isNone) = true := by
    decide +kernel
  obtain ⟨types', hr, h⟩ := (Option.any_eq_true _ _).mp hall
  rw [Bool.and_eq_true] at h
  obtain ⟨t, ht, hfragment⟩ := (Option.any_eq_true _ _).mp h.1
  obtain ⟨m, hm, hmissed⟩ := (Option.any_eq_true _ _).mp h.2
  rw [Bool.and_eq_true, Bool.not_eq_true', decide_eq_false_iff_not, beq_iff_eq] at hfragment
  refine ⟨types', t, m, Regex.result?_eq_some.mp hr, ht, hfragment.1, Regex.result?_eq_some.mp hm, hlanguage,
    hfragment.2, (m.missed_run_iff .full "").mpr ?_⟩
  exact Option.isNone_iff_eq_none.mp hmissed

end Registry

end TypedPattern
