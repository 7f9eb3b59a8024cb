import TypedPattern.Registry.Builtin
import TypedPattern.Proofs.Fragment
import TypedPattern.Proofs.Pattern.RegexText

/-! What the built-in types are, and which of them a pattern may name. -/

namespace TypedPattern

open Pattern (Config)
open Regex (Core)

namespace Fragment

/-- A text with its characters written out, so that they need not be computed. -/
structure Spelled (s : String) where
  chars : List Char
  eq : s = String.ofList chars

namespace Spelled

variable {s t : String}

lemma toList_eq (w : Spelled s) : s.toList = w.chars :=
  (congrArg String.toList w.eq).trans String.toList_ofList

def append (w : Spelled s) (v : Spelled t) : Spelled (s ++ t) :=
  ⟨w.chars ++ v.chars, by rw [String.ofList_append, ← w.eq, ← v.eq]⟩

end Spelled

def spelledDatetime : Spelled datetime :=
  .append (.append (.append ⟨_, rfl⟩ ⟨_, rfl⟩) ⟨_, rfl⟩) ⟨_, rfl⟩

def spelledUrl : Spelled url :=
  .append ⟨_, rfl⟩ ⟨_, rfl⟩

def spelledCreditCard : Spelled creditCard :=
  .append (.append (.append (.append (.append ⟨_, rfl⟩ ⟨_, rfl⟩) ⟨_, rfl⟩) ⟨_, rfl⟩) ⟨_, rfl⟩) ⟨_, rfl⟩

def spelledIpv4 : Spelled ipv4 :=
  .append ⟨_, rfl⟩ ⟨_, rfl⟩

def spelledEmbeddedIpv4 : Spelled embeddedIpv4 :=
  .append ⟨_, rfl⟩ ⟨_, rfl⟩

def spelledIpv6 : Spelled ipv6 :=
  .append (.append (.append (.append (.append (.append (.append (.append (.append (.append (.append (.append (.append
    (.append ⟨_, rfl⟩ ⟨_, rfl⟩) ⟨_, rfl⟩) ⟨_, rfl⟩) ⟨_, rfl⟩) ⟨_, rfl⟩) ⟨_, rfl⟩) ⟨_, rfl⟩) ⟨_, rfl⟩) ⟨_, rfl⟩) ⟨_, rfl⟩)
    spelledEmbeddedIpv4) ⟨_, rfl⟩) spelledEmbeddedIpv4) ⟨_, rfl⟩

/-- A fragment that can be told apart when it is printed, and of whose meanings something holds. -/
def Means (fragment : String) (p : Bool → Core → Bool) : Prop :=
  fragment.isEmpty = false ∧ ∃ whole, GroupType.readFragment fragment.toList = .ok whole ∧ whole.legible = true ∧
    ∀ caseInsensitive, ∃ core, whole.withoutCaptures.meaning caseInsensitive = .ok core ∧ p caseInsensitive core = true

/-- The same, to be computed. -/
def means (cs : List Char) (p : Bool → Core → Bool) : Bool :=
  !cs.isEmpty && (Regex.result? (GroupType.readFragment cs)).any fun whole => whole.legible &&
    [false, true].all fun caseInsensitive => (Regex.result? (whole.withoutCaptures.meaning caseInsensitive)).any (p caseInsensitive)

lemma means_of_spelled {fragment : String} {p : Bool → Core → Bool} (w : Spelled fragment)
    (h : means w.chars p = true) : Means fragment p := by
  rw [means, Bool.and_eq_true, Bool.not_eq_true', List.isEmpty_eq_false_iff] at h
  obtain ⟨hne, h⟩ := h
  obtain ⟨whole, hwhole, h⟩ := (Option.any_eq_true _ _).mp h
  rw [Bool.and_eq_true, List.all_eq_true] at h
  have hempty : fragment.isEmpty = false := by
    rw [w.eq, Bool.eq_false_iff]
    exact fun hempty => hne (String.ofList_eq_empty_iff.mp (String.isEmpty_iff.mp hempty))
  refine ⟨hempty, whole, w.toList_eq ▸ Regex.result?_eq_some.mp hwhole, h.1, fun caseInsensitive => ?_⟩
  obtain ⟨core, hcore, hp⟩ := (Option.any_eq_true _ _).mp (h.2 caseInsensitive (by cases caseInsensitive <;> decide))
  exact ⟨core, Regex.result?_eq_some.mp hcore, hp⟩

end Fragment

namespace Registry

def enter (origin : Nat) (r : Registry) (entry : String × String × Converter) : Registry :=
  match r.register entry.1 entry.2.1 entry.2.2 origin with
  | .ok s => s
  | .error _ => r

lemma builtin_eq (origin : Nat) : builtin origin = builtinTypes.foldl (enter origin) empty :=
  rfl

def Makes (origin : Nat) (entry : String × String × Converter) (t : GroupType) : Prop :=
  GroupType.make entry.1 entry.2.1 entry.2.2 origin = .ok t

variable {origin : Nat} {r : Registry} {entry : String × String × Converter} {t : GroupType}

lemma Makes.spec (h : Makes origin entry t) : t.name = entry.1 ∧ t.converter = entry.2.2 ∧
    ∃ whole, GroupType.readFragment entry.2.1.toList = .ok whole ∧ t.tree = whole.withoutCaptures :=
  GroupType.make_ok h

lemma exists_makes {whole : Regex.Syntax} (hname : GroupType.nameFault? entry.1 = none)
    (hempty : entry.2.1.isEmpty = false) (hread : GroupType.readFragment entry.2.1.toList = .ok whole) :
    ∃ t, Makes origin entry t :=
  GroupType.exists_make hname hempty hread _ _

lemma enter_makes (h : Makes origin entry t) (r : Registry) : enter origin r entry = r.insert t := by
  have h : GroupType.make entry.1 entry.2.1 entry.2.2 origin = .ok t := h
  rw [enter, register, h]

lemma enter_cases (origin : Nat) (r : Registry) (entry : String × String × Converter) :
    enter origin r entry = r ∨ ∃ t, Makes origin entry t ∧ enter origin r entry = r.insert t := by
  cases h : GroupType.make entry.1 entry.2.1 entry.2.2 origin with
  | error e =>
    left
    rw [enter, register, h]
  | ok t => exact Or.inr ⟨t, h, enter_makes h r⟩

lemma find?_enter_ne {name : String} (h : name ≠ entry.1) : (enter origin r entry).find? name = r.find? name := by
  rcases enter_cases origin r entry with hr | ⟨t, ht, hr⟩
  · rw [hr]
  · rw [hr]
    exact find?_insertSorted_ne (ht.spec.1 ▸ h) r.types

lemma find?_foldl_ne {entries : List (String × String × Converter)} {name : String} (h : name ∉ entries.map (·.1))
    (r : Registry) : (entries.foldl (enter origin) r).find? name = r.find? name := by
  induction entries generalizing r with
  | nil => rfl
  | cons entry entries ih =>
    rw [List.map_cons, List.mem_cons, not_or] at h
    rw [List.foldl_cons, ih h.2, find?_enter_ne h.1]

lemma find?_foldl {entries : List (String × String × Converter)} (hnames : (entries.map (·.1)).Nodup)
    (he : entry ∈ entries) (ht : Makes origin entry t) (r : Registry) :
    (entries.foldl (enter origin) r).find? entry.1 = some t := by
  induction entries generalizing r with
  | nil => cases he
  | cons first entries ih =>
    rw [List.map_cons, List.nodup_cons] at hnames
    rw [List.foldl_cons]
    rcases List.mem_cons.mp he with rfl | he
    · rw [find?_foldl_ne hnames.1, enter_makes ht, ← ht.spec.1, find?_insert]
    · exact ih hnames.2 he _

lemma mem_foldl {entries : List (String × String × Converter)} (h : t ∈ (entries.foldl (enter origin) r).types) :
    t ∈ r.types ∨ ∃ entry ∈ entries, Makes origin entry t := by
  induction entries generalizing r with
  | nil => exact Or.inl h
  | cons first entries ih =>
    rw [List.foldl_cons] at h
    rcases ih h with h | ⟨entry, he, ht⟩
    · rcases enter_cases origin r first with hr | ⟨u, hu, hr⟩
      · exact Or.inl (hr ▸ h)
      · rcases mem_insertSorted (hr ▸ h) with rfl | h
        · exact Or.inr ⟨first, List.mem_cons_self, hu⟩
        · exact Or.inl h
    · exact Or.inr ⟨entry, List.mem_cons_of_mem _ he, ht⟩

lemma names_builtinTypes : (builtinTypes.map (·.1)).Nodup := by
  decide

/-- Every built-in type is the one that its entry makes. -/
lemma find?_builtin (he : entry ∈ builtinTypes) (ht : Makes origin entry t) : (builtin origin).find? entry.1 = some t :=
  builtin_eq origin ▸ find?_foldl names_builtinTypes he ht empty

lemma exists_entry {name : String} (h : (builtin origin).find? name = some t) :
    ∃ entry ∈ builtinTypes, Makes origin entry t := by
  rw [builtin_eq] at h
  exact (mem_foldl (mem_of_find? h)).resolve_left List.not_mem_nil

end Registry

namespace Pattern

lemma Compiled.find?_type {types : Registry} {flexible : Bool} {text : String} {c : Compiled}
    (h : compile types flexible text = .ok c) {g : Capture} (hg : g ∈ c.groups) {t : GroupType}
    (ht : g.constraint = .type t) : ∃ name, types.find? name = some t := by
  obtain ⟨written, hwritten⟩ := exists_resolve_of_mem h hg
  obtain ⟨-, -, hresolve⟩ := Group.resolve_ok hwritten
  have hresolve : Constraint.resolve types written.pos written.constraint = .ok (.type t) := ht ▸ hresolve
  unfold Constraint.resolve at hresolve
  split at hresolve
  · cases hresolve
  · rename_i name _
    dsimp only at hresolve
    split_ifs at hresolve
    · cases hresolve
    · obtain ⟨u, hu, htype⟩ := Regex.map_eq_ok.mp hresolve
      cases htype
      unfold Registry.resolve at hu
      split at hu
      · rename_i found
        cases hu
        exact ⟨name, found⟩
      · cases hu

end Pattern

/-- The text of a group `x` around an expression. -/
def Pattern.groupText (body : Regex.Syntax) : List Char :=
  (Regex.Syntax.group nowhere (.named true ['x']) body).chars

/-- Whether the programs of an expression, up to the end of the text and without that, are accepted, and something holds
of them. -/
def Matcher.runs (caseInsensitive : Bool) (regex : List Char) (p : Regex.Program → Regex.Program → Bool) : Bool :=
  (Regex.result? (Regex.Program.ofText caseInsensitive regex)).any fun bare =>
    (Regex.result? (Regex.Program.ofText caseInsensitive (atEnd regex))).any (p bare)

lemma Matcher.exists_make {types : Registry} {config : Config} {t : GroupType} (hf : types.find? t.name = some t)
    {p : Regex.Program → Regex.Program → Bool}
    (hp : runs (!config.caseSensitive) (Pattern.groupText t.tree) p = true) :
    ∃ m, make types config (Pattern.ofType t.name) = .ok m ∧ p m.bare m.closed = true := by
  obtain ⟨bare, hbare, hp⟩ := (Option.any_eq_true _ _).mp hp
  obtain ⟨closed, hclosed, hp⟩ := (Option.any_eq_true _ _).mp hp
  have hregex : (Pattern.Compiled.mk (.one [.group ⟨0, some "x", .type t⟩]) config.flexibleSpaces).regex.toList =
      Pattern.groupText t.tree := by
    rw [Pattern.Compiled.regex, String.toList_ofList, Pattern.tree_ofType]
    rfl
  refine ⟨⟨_, config, _, bare, closed⟩, Regex.bind_eq_ok.mpr ⟨_, Pattern.compile_ofType _ hf, Regex.bind_eq_ok.mpr
    ⟨bare, ?_, Regex.bind_eq_ok.mpr ⟨closed, ?_, rfl⟩⟩⟩, hp⟩
  · rw [hregex, Regex.result?_eq_some.mp hbare]
    rfl
  · rw [hregex, Regex.result?_eq_some.mp hclosed]
    rfl

lemma Matcher.compiled_ofType {types : Registry} {config : Config} {t : GroupType} {m : Matcher}
    (hf : types.find? t.name = some t) (h : make types config (Pattern.ofType t.name) = .ok m) :
    m.compiled = ⟨.one [.group ⟨0, some "x", .type t⟩], config.flexibleSpaces⟩ :=
  Except.ok.inj ((compile_of_make h).symm.trans (Pattern.compile_ofType _ hf))

end TypedPattern
