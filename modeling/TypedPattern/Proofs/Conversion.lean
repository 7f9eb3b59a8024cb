import TypedPattern.Proofs.Builtin
import TypedPattern.Proofs.Converting
import TypedPattern.Proofs.Matching.Spelling
import TypedPattern.Proofs.Spans

/-! The built-in types convert all that their fragments match, but for dates. -/

namespace TypedPattern

open Pattern (Capture Config Segment)
open Regex (Core Match)
open Text (isDigit isHexDigit asciiLower)

lemma Regex.Core.spells_of_accepts {r : Core} {text : List Char} (h : r.Accepts text) : r.Spells text := by
  obtain ⟨t, hleads, hend⟩ := h
  obtain ⟨w, hw, hspells⟩ := hleads.spells
  rw [hend, List.append_nil] at hw
  obtain rfl : text = w := hw
  exact hspells

/-- Without assertions an expression accepts its words. -/
lemma Regex.Core.accepts_iff_spells {r : Core} (hs : r.sightless = true) {text : List Char} :
    r.Accepts text ↔ r.Spells text := by
  refine ⟨spells_of_accepts, fun h => ?_⟩
  obtain ⟨last, hlast⟩ := h.leads hs none []
  rw [List.append_nil] at hlast
  exact ⟨⟨last, []⟩, hlast, rfl⟩

namespace Fragment

def signCore : Core :=
  .repetition 0 (some 1) true (.chars ⟨[⟨43, 43⟩, ⟨45, 45⟩]⟩)

def digitsCore (min : Nat) : Core :=
  .repetition min none true (.chars ⟨[⟨48, 57⟩]⟩)

def wholeNumberCore : Core :=
  .seq signCore (digitsCore 1)

def numberCore : Core :=
  .seq (.seq signCore (.repetition 0 (some 1) true (.seq (digitsCore 0) (.literal ['.'])))) (digitsCore 1)

def hexSet (caseInsensitive : Bool) : CharSet :=
  if caseInsensitive then ⟨[⟨48, 57⟩, ⟨65, 70⟩, ⟨97, 102⟩]⟩ else ⟨[⟨48, 57⟩, ⟨97, 102⟩]⟩

def hexCore (caseInsensitive : Bool) (count : Nat) : Core :=
  .repetition count (some 0) true (.chars (hexSet caseInsensitive))

/-- Digits behind others, with a hyphen between them perhaps. -/
def hyphenCore (caseInsensitive : Bool) (first : Core) (count : Nat) : Core :=
  .seq (.seq first (.repetition 0 (some 1) true (.literal ['-']))) (hexCore caseInsensitive count)

def uuidCore (caseInsensitive : Bool) : Core :=
  [4, 4, 4, 12].foldl (hyphenCore caseInsensitive) (hexCore caseInsensitive 8)

variable {w : List Char}

lemma spells_signCore (h : signCore.Spells w) : w = [] ∨ w = ['+'] ∨ w = ['-'] := by
  rcases h.maybe with rfl | ⟨c, hc, rfl⟩
  · exact Or.inl rfl
  · have hsign := CharSet.forall_contains (f := fun c => c == '+' || c == '-') (by decide) hc
    rw [Bool.or_eq_true, beq_iff_eq, beq_iff_eq] at hsign
    rcases hsign with rfl | rfl
    · exact Or.inr (Or.inl rfl)
    · exact Or.inr (Or.inr rfl)

lemma spells_digitsCore {min : Nat} (h : (digitsCore min).Spells w) : min ≤ w.length ∧ ∀ c ∈ w, isDigit c = true := by
  obtain ⟨hmin, -, hall⟩ := h.repeated_chars
  exact ⟨hmin, fun c hc => CharSet.forall_contains (by decide) (hall c hc)⟩

lemma spells_lastDigits (h : (digitsCore 1).Spells w) : w ≠ [] ∧ ∀ c ∈ w, isDigit c = true := by
  obtain ⟨hmin, hall⟩ := spells_digitsCore h
  exact ⟨List.ne_nil_of_length_pos hmin, hall⟩

lemma spells_wholeNumberCore (h : wholeNumberCore.Spells w) : IsNumeral w := by
  obtain ⟨sign, digits, hsign, hdigits, rfl⟩ := h
  obtain ⟨hne, hall⟩ := spells_lastDigits hdigits
  exact ⟨sign, digits, rfl, spells_signCore hsign, [], digits, rfl, Or.inl rfl, hne, hall⟩

lemma spells_numberCore (h : numberCore.Spells w) : IsNumeral w := by
  obtain ⟨before, digits, ⟨sign, front, hsign, hfront, rfl⟩, hdigits, rfl⟩ := h
  obtain ⟨hne, hall⟩ := spells_lastDigits hdigits
  refine ⟨sign, front ++ digits, List.append_assoc _ _ _, spells_signCore hsign, front, digits, rfl, ?_, hne, hall⟩
  rcases hfront.maybe with rfl | ⟨whole, point, hwhole, rfl, rfl⟩
  · exact Or.inl rfl
  · exact Or.inr ⟨whole, rfl, (spells_digitsCore hwhole).2⟩

lemma spells_hexCore {caseInsensitive : Bool} {count : Nat} (h : (hexCore caseInsensitive count).Spells w) :
    Hyphenated count w := by
  obtain ⟨hmin, hmax, hall⟩ := h.repeated_chars
  have hmax := hmax 0 rfl
  have hhex : ∀ c ∈ w, c != '-' ∧ isHexDigit (asciiLower c) = true := fun c hc => by
    have hc := CharSet.forall_contains (f := fun c => c != '-' && isHexDigit (asciiLower c))
      (by cases caseInsensitive <;> decide) (hall c hc)
    exact (Bool.and_eq_true _ _).mp hc
  refine ⟨?_, fun c hc => Or.inr (hhex c hc).2⟩
  rw [List.filter_eq_self.mpr fun c hc => (hhex c hc).1]
  omega

lemma spells_hyphenCore {caseInsensitive : Bool} {first : Core} {m n : Nat}
    (hfirst : ∀ w, first.Spells w → Hyphenated m w) (h : (hyphenCore caseInsensitive first n).Spells w) :
    Hyphenated (m + n) w := by
  obtain ⟨u, digits, ⟨before, hyphen, hbefore, hhyphen, rfl⟩, hdigits, rfl⟩ := h
  have hnone : Hyphenated 0 hyphen := by
    rcases hhyphen.maybe with rfl | rfl
    · exact ⟨rfl, List.forall_mem_nil _⟩
    · exact ⟨rfl, List.forall_mem_singleton.mpr (Or.inl rfl)⟩
  exact ((hfirst before hbefore).append hnone).append (spells_hexCore hdigits)

lemma spells_uuidCore {caseInsensitive : Bool} (h : (uuidCore caseInsensitive).Spells w) : Hyphenated 32 w := by
  have hall : ∀ (counts : List Nat) (first : Core) (m : Nat), (∀ w, first.Spells w → Hyphenated m w) →
      ∀ w, (counts.foldl (hyphenCore caseInsensitive) first).Spells w → Hyphenated (m + counts.sum) w := by
    intro counts
    induction counts with
    | nil => exact fun first m hfirst => hfirst
    | cons n counts ih =>
      intro first m hfirst w hw
      rw [List.sum_cons, ← Nat.add_assoc]
      exact ih _ (m + n) (fun w => spells_hyphenCore hfirst) w hw
  exact hall [4, 4, 4, 12] (hexCore caseInsensitive 8) 8 (fun w => spells_hexCore) w h

lemma means_wholeNumber : Means wholeNumber fun _ r => r == wholeNumberCore :=
  means_of_spelled ⟨_, rfl⟩ (by decide +kernel)

lemma means_number : Means number fun _ r => r == numberCore :=
  means_of_spelled ⟨_, rfl⟩ (by decide +kernel)

lemma means_uuid : Means uuid fun caseInsensitive r => r == uuidCore caseInsensitive :=
  means_of_spelled ⟨_, rfl⟩ (by decide +kernel)

end Fragment

namespace Registry

open Fragment (Spelled)

/-- A fragment has a meaning, and what it spells is converted. -/
def Sure (fragment : String) (converter : Converter) : Prop :=
  ∃ p, Fragment.Means fragment p ∧ ∀ caseInsensitive core raw, p caseInsensitive core = true →
    core.Spells raw.toList → ∃ v, converter raw = .ok v

/-- An entry that makes a type, and whose converter never fails unless it is one of dates. -/
structure Entered (entry : String × String × Converter) : Prop where
  named : GroupType.nameFault? entry.1 = none
  means : ∃ p, Fragment.Means entry.2.1 p
  sure : entry.1 ≠ "date" → entry.1 ≠ "datetime" → Sure entry.2.1 entry.2.2

variable {name fragment : String} {converter : Converter}

lemma entered_of_sure (hname : GroupType.nameFault? name = none) (h : Sure fragment converter) :
    Entered (name, fragment, converter) := by
  obtain ⟨p, hmeans, hconvert⟩ := h
  exact ⟨hname, ⟨p, hmeans⟩, fun _ _ => ⟨p, hmeans, hconvert⟩⟩

lemma entered_identity (w : Spelled fragment) (hname : GroupType.nameFault? name = none)
    (h : Fragment.means w.chars (fun _ _ => true) = true) : Entered (name, fragment, .identity) :=
  entered_of_sure hname ⟨_, Fragment.means_of_spelled w h, fun _ _ raw _ _ => ⟨.text raw, rfl⟩⟩

lemma entered_known {core : Bool → Core} (hname : GroupType.nameFault? name = none)
    (h : Fragment.Means fragment fun caseInsensitive r => r == core caseInsensitive)
    (hc : ∀ caseInsensitive raw, (core caseInsensitive).Spells raw.toList → ∃ v, converter raw = .ok v) :
    Entered (name, fragment, converter) := by
  refine entered_of_sure hname ⟨_, h, fun caseInsensitive r raw hr hspells => ?_⟩
  obtain rfl := beq_iff_eq.mp hr
  exact hc caseInsensitive raw hspells

lemma entered_date (w : Spelled fragment) (hname : GroupType.nameFault? name = none)
    (h : Fragment.means w.chars (fun _ _ => true) = true) (hdate : name = "date" ∨ name = "datetime") :
    Entered (name, fragment, converter) :=
  ⟨hname, ⟨_, Fragment.means_of_spelled w h⟩, fun hne hne' => (hdate.elim hne hne').elim⟩

lemma entered_builtin : ∀ entry ∈ builtinTypes, Entered entry := by
  simp only [builtinTypes, List.forall_mem_cons, List.not_mem_nil, false_implies, implies_true, and_true]
  refine ⟨?int, ?float, ?decimal, ?uuid, ?date, ?datetime, ?letters, ?identifier, ?opening, ?closing, ?email, ?url,
    ?creditCard, ?ipv4, ?ipv6⟩
  case int =>
    exact entered_known (by decide) Fragment.means_wholeNumber fun _ _ h =>
      Converter.int_ok (Fragment.spells_wholeNumberCore h)
  case float =>
    exact entered_known (by decide) Fragment.means_number fun _ _ h =>
      Converter.float_ok (Fragment.spells_numberCore h)
  case decimal =>
    exact entered_known (by decide) Fragment.means_number fun _ _ h =>
      Converter.decimal_ok (Fragment.spells_numberCore h)
  case uuid =>
    exact entered_known (by decide) Fragment.means_uuid fun _ _ h => Converter.uuid_ok (Fragment.spells_uuidCore h)
  case date => exact entered_date ⟨_, rfl⟩ (by decide) (by decide +kernel) (Or.inl rfl)
  case datetime => exact entered_date Fragment.spelledDatetime (by decide) (by decide +kernel) (Or.inr rfl)
  case letters => exact entered_identity ⟨_, rfl⟩ (by decide) (by decide +kernel)
  case identifier => exact entered_identity ⟨_, rfl⟩ (by decide) (by decide +kernel)
  case opening => exact entered_identity ⟨_, rfl⟩ (by decide) (by decide +kernel)
  case closing => exact entered_identity ⟨_, rfl⟩ (by decide) (by decide +kernel)
  case email => exact entered_identity ⟨_, rfl⟩ (by decide) (by decide +kernel)
  case url => exact entered_identity Fragment.spelledUrl (by decide) (by decide +kernel)
  case creditCard => exact entered_identity Fragment.spelledCreditCard (by decide) (by decide +kernel)
  case ipv4 => exact entered_identity Fragment.spelledIpv4 (by decide) (by decide +kernel)
  case ipv6 => exact entered_identity Fragment.spelledIpv6 (by decide) (by decide +kernel)

lemma Makes.sure {origin : Nat} {entry : String × String × Converter} {t : GroupType} (ht : Makes origin entry t)
    (he : entry ∈ builtinTypes) (hd : t.name ≠ "date") (hd' : t.name ≠ "datetime") (caseInsensitive : Bool) :
    ∃ core, t.tree.meaning caseInsensitive = .ok core ∧
      ∀ raw : String, core.Spells raw.toList → ∃ v, t.converter raw = .ok v := by
  obtain ⟨hname, hconverter, whole, hread, htree⟩ := ht.spec
  obtain ⟨p, ⟨-, whole', hread', -, hmeaning⟩, hconvert⟩ := (entered_builtin entry he).sure (hname ▸ hd) (hname ▸ hd')
  obtain rfl := Except.ok.inj (hread.symm.trans hread')
  obtain ⟨core, hcore, hp⟩ := hmeaning caseInsensitive
  exact ⟨core, htree ▸ hcore, fun raw hspells => hconverter ▸ hconvert caseInsensitive core raw hp hspells⟩

lemma Makes.legible {origin : Nat} {entry : String × String × Converter} {t : GroupType} (ht : Makes origin entry t)
    (he : entry ∈ builtinTypes) : t.tree.legible = true := by
  obtain ⟨-, -, whole, hread, htree⟩ := ht.spec
  obtain ⟨p, -, whole', hread', hlegible, -⟩ := (entered_builtin entry he).means
  obtain rfl := Except.ok.inj (hread.symm.trans hread')
  rw [htree, Regex.Syntax.legible_withoutCaptures, hlegible]

lemma exists_builtin (origin : Nat) {entry : String × String × Converter} (he : entry ∈ builtinTypes) :
    ∃ t, Makes origin entry t := by
  obtain ⟨p, hempty, whole, hread, -⟩ := (entered_builtin entry he).means
  exact exists_makes (entered_builtin entry he).named hempty hread

lemma exists_builtin_meaning (origin : Nat) (he : (name, fragment, converter) ∈ builtinTypes) {core : Bool → Core}
    (hm : Fragment.Means fragment fun caseInsensitive r => r == core caseInsensitive) :
    ∃ t, (builtin origin).find? name = some t ∧ t.converter = converter ∧
      ∀ caseInsensitive, t.tree.meaning caseInsensitive = .ok (core caseInsensitive) := by
  obtain ⟨t, ht⟩ := exists_builtin origin he
  obtain ⟨-, hconverter, whole, hread, htree⟩ := ht.spec
  obtain ⟨-, whole', hread', -, hmeaning⟩ := hm
  obtain rfl := Except.ok.inj (hread.symm.trans hread')
  have hf := find?_builtin he ht
  refine ⟨t, hf, hconverter, fun caseInsensitive => ?_⟩
  obtain ⟨r, hr, heq⟩ := hmeaning caseInsensitive
  rw [htree, hr, beq_iff_eq.mp heq]

lemma builtin_meaning {origin : Nat} {t : GroupType} (he : (name, fragment, converter) ∈ builtinTypes)
    {core : Bool → Core} (hm : Fragment.Means fragment fun caseInsensitive r => r == core caseInsensitive)
    (hf : (builtin origin).find? name = some t) :
    t.converter = converter ∧ ∀ {caseInsensitive r}, t.tree.meaning caseInsensitive = .ok r → r = core caseInsensitive := by
  obtain ⟨u, hu, hconverter, hmeaning⟩ := exists_builtin_meaning origin he hm
  obtain rfl := Option.some.inj (hu.symm.trans hf)
  exact ⟨hconverter, fun hr => Except.ok.inj (hr.symm.trans (hmeaning _))⟩

end Registry

namespace Matcher

variable {origin : Nat} {config : Config} {pattern haystack : String} {m : Matcher}

lemma legible_builtin (h : make (.builtin origin) config pattern = .ok m) : m.compiled.Legible := by
  intro g hg
  cases hk : g.constraint with
  | free => rfl
  | width n => rfl
  | type t =>
    obtain ⟨name, hf⟩ := Pattern.Compiled.find?_type (compile_of_make h) hg hk
    obtain ⟨entry, he, ht⟩ := Registry.exists_entry hf
    exact ht.legible he

lemma converts_builtin (h : make (.builtin origin) config pattern = .ok m) {t : Taken} (hg : t.group ∈ m.groups)
    (hd : ∀ u, t.group.constraint = .type u → u.name ≠ "date" ∧ u.name ≠ "datetime")
    (ht : t.Stands haystack.toList (!config.caseSensitive)) : ∃ v, t.group.convert t.raw = .ok v := by
  unfold Capture.convert
  cases hk : t.group.constraint with
  | free => exact ⟨_, rfl⟩
  | width n => exact ⟨_, rfl⟩
  | type u =>
    obtain ⟨name, hf⟩ := Pattern.Compiled.find?_type (compile_of_make h) hg hk
    obtain ⟨entry, he, hu⟩ := Registry.exists_entry hf
    obtain ⟨hdate, hdatetime⟩ := hd u hk
    obtain ⟨core, hcore, hconvert⟩ := hu.sure he hdate hdatetime (!config.caseSensitive)
    obtain ⟨s, e, hrest, hleads⟩ := ht.leads
    obtain ⟨w, hw, hspells⟩ := hleads.spells
    obtain rfl := List.append_cancel_right (hrest.symm.trans hw)
    have hmeans : (t.group.constraint).core (!config.caseSensitive) = core := by
      rw [hk]
      change (Regex.result? (u.tree.meaning _)).getD _ = core
      rw [hcore]
      rfl
    exact hconvert t.raw (hmeans ▸ hspells)

lemma resultOf_builtin (h : make (.builtin origin) config pattern = .ok m)
    (hd : ∀ g ∈ m.groups, ∀ t, g.constraint = .type t → t.name ≠ "date" ∧ t.name ≠ "datetime") {mode : Mode}
    {found : Match} {p : Regex.Point} (hf : m.FoundAt mode haystack.toList found p) :
    ∃ r, m.resultOf (m.program mode) haystack found = .ok r := by
  obtain ⟨before, branch, behind, parts, hsplit, hparts, hrecorded, ⟨values, -, hok⟩ | ⟨t, cause, hfails, -⟩⟩ :=
    exists_recorded h (legible_builtin h) hf
  · exact ⟨_, hok⟩
  · obtain ⟨first, last, values, rfl, -, herror⟩ := hfails
    have ht : t ∈ first ++ t :: last := List.mem_append_right first List.mem_cons_self
    have hbranch : t.group ∈ Segment.groups branch := hparts ▸ List.mem_map_of_mem ht
    have hg : t.group ∈ m.groups := by
      refine List.mem_flatMap.mpr ⟨branch, ?_, hbranch⟩
      rw [hsplit]
      exact List.mem_append_right before List.mem_cons_self
    obtain ⟨v, hv⟩ := converts_builtin h hg (hd t.group hg) (hrecorded.stands t ht)
    cases herror.symm.trans hv

lemma exists_resultsOf {founds : List Match} (h : ∀ found ∈ founds, ∃ r, m.resultOf m.bare haystack found = .ok r) :
    ∃ l, m.resultsOf haystack founds = .ok l := by
  induction founds with
  | nil => exact ⟨[], rfl⟩
  | cons found founds ih =>
    obtain ⟨hfirst, hrest⟩ := List.forall_mem_cons.mp h
    obtain ⟨r, hr⟩ := hfirst
    obtain ⟨l, hl⟩ := ih hrest
    exact ⟨r :: l, Regex.bind_eq_ok.mpr ⟨r, hr, Regex.bind_eq_ok.mpr ⟨l, hl, rfl⟩⟩⟩

lemma exists_make_builtin_with (config : Config) {entry : String × String × Converter} (he : entry ∈ Registry.builtinTypes)
    (w : Fragment.Spelled entry.2.1) {p : Regex.Program → Regex.Program → Bool}
    (h : ((Regex.result? (GroupType.readFragment w.chars)).any fun whole =>
      runs (!config.caseSensitive) (Pattern.groupText whole.withoutCaptures) p) = true) :
    ∃ t m, (Registry.builtin origin).find? t.name = some t ∧ t.name = entry.1 ∧ t.converter = entry.2.2 ∧
      make (.builtin origin) config (Pattern.ofType t.name) = .ok m ∧ p m.bare m.closed = true := by
  obtain ⟨t, ht⟩ := Registry.exists_builtin origin he
  obtain ⟨hname, hconverter, whole, hread, htree⟩ := ht.spec
  obtain ⟨whole', hread', hruns⟩ := (Option.any_eq_true _ _).mp h
  rw [w.toList_eq] at hread
  obtain rfl := Except.ok.inj (hread.symm.trans (Regex.result?_eq_some.mp hread'))
  have hf : (Registry.builtin origin).find? t.name = some t := hname ▸ Registry.find?_builtin he ht
  obtain ⟨m, hm, hp⟩ := @exists_make _ config _ hf _ (htree ▸ hruns)
  exact ⟨t, m, hf, hname, hconverter, hm, hp⟩

lemma exists_make_builtin {entry : String × String × Converter} (he : entry ∈ Registry.builtinTypes)
    (w : Fragment.Spelled entry.2.1) {p : Regex.Program → Regex.Program → Bool}
    (h : ((Regex.result? (GroupType.readFragment w.chars)).any fun whole =>
      runs false (Pattern.groupText whole.withoutCaptures) p) = true) :
    ∃ t m, (Registry.builtin origin).find? t.name = some t ∧ t.name = entry.1 ∧ t.converter = entry.2.2 ∧
      make (.builtin origin) {} (Pattern.ofType t.name) = .ok m ∧ p m.bare m.closed = true :=
  exists_make_builtin_with {} he w h

/-- Built-in types but for those of dates convert every text that their fragments match, whatever the case, so that no
pattern whose types are among them ever fails to convert what it captured. -/
theorem builtin_types_convert (origin : Nat) :
    (∀ entry ∈ Registry.builtinTypes, entry.1 ≠ "date" → entry.1 ≠ "datetime" →
      ∃ t, (Registry.builtin origin).find? entry.1 = some t ∧ t.converter = entry.2.2 ∧
        ∀ caseInsensitive, ∃ core, t.tree.meaning caseInsensitive = .ok core ∧
          ∀ text : String, core.Accepts text.toList → ∃ v, t.converter text = .ok v) ∧
    ∀ config pattern m, make (.builtin origin) config pattern = .ok m →
      (∀ g ∈ m.groups, ∀ t, g.constraint = .type t → t.name ≠ "date" ∧ t.name ≠ "datetime") →
        ∀ haystack, (∀ mode, ∃ r, m.run mode haystack = .ok r) ∧ ∃ l, m.searchAll haystack = .ok l := by
  constructor
  · intro entry he hd hd'
    obtain ⟨t, ht⟩ := Registry.exists_builtin origin he
    obtain ⟨hname, hconverter, -⟩ := ht.spec
    refine ⟨t, Registry.find?_builtin he ht, hconverter, fun caseInsensitive => ?_⟩
    obtain ⟨core, hcore, hconvert⟩ := ht.sure he (hname ▸ hd) (hname ▸ hd') caseInsensitive
    exact ⟨core, hcore, fun text htext => hconvert text (Core.spells_of_accepts htext)⟩
  · intro config pattern m h hd haystack
    constructor
    · intro mode
      cases hfind : m.find? mode haystack.toList with
      | none => exact ⟨.noMatch, by rw [run, hfind]⟩
      | some found =>
        obtain ⟨p, hp⟩ := exists_foundAt h hfind
        obtain ⟨r, hr⟩ := resultOf_builtin h hd hp
        exact ⟨r, (run_of_find? hfind).trans hr⟩
    · refine exists_resultsOf fun found hfound => ?_
      obtain ⟨p, hp⟩ := foundAt_of_mem_searchAll h hfound
      exact resultOf_builtin h hd hp

/-- A whole number with a sign and zeros in front. -/
theorem builtin_types_convert_zeros :
    (∃ t core v, (Registry.builtin 0).find? "int" = some t ∧ t.tree.meaning false = .ok core ∧
      core.Accepts "+007".toList ∧ t.converter "+007" = .ok v) ∧
    ∃ m r, make (.builtin 0) {} (Pattern.ofType "int") = .ok m ∧ m.run .full "+007" = .ok r := by
  have he : ("int", Fragment.wholeNumber, Converter.int) ∈ Registry.builtinTypes := List.mem_cons_self
  constructor
  · have hall : (Regex.result? (GroupType.readFragment Fragment.wholeNumber.toList)).any (fun whole =>
        (Regex.result? (whole.withoutCaptures.meaning false)).any fun core => decide (core.Accepts "+007".toList)) = true := by
      decide +kernel
    obtain ⟨t, ht, -, hmeaning⟩ := (builtin_types_convert 0).1 _ he (by decide) (by decide)
    obtain ⟨u, hu⟩ := Registry.exists_builtin 0 he
    obtain rfl := Option.some.inj (ht.symm.trans (Registry.find?_builtin he hu))
    obtain ⟨-, -, whole, hread, htree⟩ := hu.spec
    obtain ⟨whole', hread', h⟩ := (Option.any_eq_true _ _).mp hall
    obtain rfl := Except.ok.inj (hread.symm.trans (Regex.result?_eq_some.mp hread'))
    obtain ⟨core, hcore, haccepts⟩ := (Option.any_eq_true _ _).mp h
    obtain ⟨core', hcore', hconvert⟩ := hmeaning false
    obtain rfl := Except.ok.inj ((htree ▸ Regex.result?_eq_some.mp hcore).symm.trans hcore')
    have haccepts := of_decide_eq_true haccepts
    obtain ⟨v, hv⟩ := hconvert "+007" haccepts
    exact ⟨t, core, v, ht, hcore', haccepts, hv⟩
  · obtain ⟨t, m, hf, hname, -, hm, -⟩ := @exists_make_builtin 0 _ he ⟨_, rfl⟩ (fun _ _ => true) (by decide +kernel)
    obtain hname : t.name = "int" := hname
    have hd : ∀ g ∈ m.groups, ∀ u, g.constraint = .type u → u.name ≠ "date" ∧ u.name ≠ "datetime" := by
      intro g hg u hu
      rw [groups, compiled_ofType hf hm] at hg
      obtain rfl := List.mem_singleton.mp hg
      obtain rfl := Pattern.Constraint.type.inj hu
      rw [hname]
      decide
    rw [hname] at hm
    obtain ⟨r, hr⟩ := ((builtin_types_convert 0).2 {} _ m hm hd "+007").1 .full
    exact ⟨m, r, hm, hr⟩

end Matcher

end TypedPattern
