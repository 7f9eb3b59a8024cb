import TypedPattern.Proofs.Builtin
import TypedPattern.Proofs.Storing
import TypedPattern.Proofs.Pattern.Acceptance
import TypedPattern.Proofs.Text.Encoding

/-! Registries after any number of registrations, some of them accepted and others rejected. -/

namespace TypedPattern

open Regex (Syntax)

namespace Regex

lemma Literal.chars_ne_nil (l : Literal) : l.chars ≠ [] := by
  unfold Literal.chars
  split <;> exact List.cons_ne_nil _ _

lemma AssertionKind.chars_ne_nil (kind : AssertionKind) : kind.chars ≠ [] := by
  cases kind <;> decide

lemma PerlClass.chars_ne_nil (p : PerlClass) : p.chars ≠ [] := by
  unfold PerlClass.chars
  split <;> exact List.cons_ne_nil _ _

lemma RepetitionKind.chars_ne_nil (kind : RepetitionKind) : kind.chars ≠ [] := by
  cases kind <;> exact List.cons_ne_nil _ _

namespace Syntax

lemma Written.chars_ne_nil {v : Bool} {x : Syntax} (h : Written (.item v x)) : x.chars ≠ [] := by
  cases h with
  | escaped => exact Literal.chars_ne_nil _
  | verbatim => exact Literal.chars_ne_nil _
  | assertion _ kind => exact kind.chars_ne_nil
  | perl _ p => exact p.bare.chars_ne_nil
  | repetition => simp [Syntax.chars, RepetitionKind.chars_ne_nil]
  | _ => simp [Syntax.chars, UnicodeClass.chars]

lemma chars_ne_nil_of_level {v : Bool} {x : Syntax} (h : Written (.level v x)) (hx : x.isEmpty = false) :
    x.chars ≠ [] := by
  cases h with
  | @single _ _ xs h =>
    cases h with
    | nil => cases hx
    | @cons _ _ y ys hy =>
      cases ys with
      | nil => exact hy.chars_ne_nil
      | cons z zs => simp [ofItems, Syntax.chars, Syntax.charsOfAll, hy.chars_ne_nil]
  | alternation => simp [Syntax.chars, Syntax.charsBetweenBars]

end Syntax

end Regex

namespace GroupType

variable {name fragment : String} {converter : Converter} {origin : Nat} {t : GroupType}

lemma fragment_ne_empty (h : make name fragment converter origin = .ok t) : t.fragment ≠ "" := by
  obtain ⟨-, -, whole, hread, htree⟩ := make_ok h
  obtain ⟨hr, -⟩ := readFragment_ok.mp hread
  obtain ⟨hw, -, -⟩ := Regex.written_of_read hr
  have hne : fragment.toList ≠ [] := by
    intro hnil
    obtain rfl := String.toList_eq_nil_iff.mp hnil
    unfold make at h
    split at h <;> cases h
  have hempty : t.tree.bare.isEmpty = false := by
    rw [Syntax.isEmpty_bare, htree, Syntax.isEmpty_withoutCaptures]
    exact Regex.read_isEmpty hne hr
  have hlevel : Syntax.Written (.level false t.tree.bare) := by
    rw [htree, Syntax.withoutCaptures_bare]
    exact hw.withoutCaptures
  have hchars := Syntax.chars_ne_nil_of_level hlevel hempty
  rw [Syntax.chars_bare] at hchars
  exact fun hfragment => hchars (String.ofList_eq_empty_iff.mp hfragment)

lemma readFragment_fragment (hl : t.tree.legible = true) :
    ∃ tree, readFragment t.fragment.toList = .ok tree ∧ tree.captures = [] := by
  obtain ⟨text, whole, hread, htree⟩ := t.tree_ok
  obtain ⟨hr, core, hm⟩ := readFragment_ok.mp hread
  obtain ⟨tree, core', hr', hbare, hm', -⟩ :=
    Regex.read_withoutCaptures hr hm (by rwa [htree, Syntax.legible_withoutCaptures] at hl)
  refine ⟨tree, readFragment_ok.mpr ⟨?_, core', hm'⟩, ?_⟩
  · rw [fragment, String.toList_ofList, htree, hr']
  · rw [← Syntax.captures_bare, hbare, Syntax.captures_bare, Syntax.captures_withoutCaptures]

end GroupType

/-- A call for a type to be registered. -/
structure Registration where
  name : String
  fragment : String
  converter : Converter
  origin : Nat

namespace Registration

/-- The type that is added if the call is accepted. -/
def type (c : Registration) : Except TypeFault GroupType :=
  GroupType.make c.name c.fragment c.converter c.origin

def NoneAccepted (calls : List Registration) (name : String) : Prop :=
  ∀ c ∈ calls, c.name = name → ∀ t, c.type ≠ .ok t

/-- The type of the last call for a name that is accepted. -/
def IsLast (calls : List Registration) (name : String) (t : GroupType) : Prop :=
  ∃ before c behind, calls = before ++ c :: behind ∧ c.name = name ∧ c.type = .ok t ∧ NoneAccepted behind name

variable {c : Registration} {calls : List Registration} {name : String} {t : GroupType}

lemma name_of_type (h : c.type = .ok t) : t.name = c.name :=
  (GroupType.make_ok h).1

/-- That no call for a name is accepted can be computed. -/
lemma noneAccepted_of_all (h : (calls.all fun c => c.name != name || (Regex.result? c.type).isNone) = true) :
    NoneAccepted calls name := by
  intro c hc hname t ht
  have h := List.all_eq_true.mp h c hc
  rw [ht, bne_eq_false_iff_eq.mpr hname] at h
  cases h

lemma exists_isLast (calls : List Registration) (name : String) :
    (∃ t, IsLast calls name t) ∨ NoneAccepted calls name := by
  induction calls with
  | nil => exact Or.inr (List.forall_mem_nil _)
  | cons c calls ih =>
    rcases ih with ⟨t, before, d, behind, rfl, hlast⟩ | hnone
    · exact Or.inl ⟨t, c :: before, d, behind, rfl, hlast⟩
    · by_cases h : c.name = name ∧ ∃ t, c.type = .ok t
      · obtain ⟨hname, t, ht⟩ := h
        exact Or.inl ⟨t, [], c, calls, rfl, hname, ht, hnone⟩
      · exact Or.inr (List.forall_mem_cons.mpr ⟨fun hname t ht => h ⟨hname, t, ht⟩, hnone⟩)

end Registration

namespace Registry

open Registration (IsLast NoneAccepted)

/-- The registry behind a call. One that is rejected changes nothing. -/
def call (r : Registry) (c : Registration) : Registry :=
  match r.register c.name c.fragment c.converter c.origin with
  | .ok s => s
  | .error _ => r

def after (start : Registry) (calls : List Registration) : Registry :=
  calls.foldl call start

variable {r start : Registry} {c : Registration} {calls : List Registration} {name : String} {t : GroupType}

lemma call_ok (h : c.type = .ok t) (r : Registry) : r.call c = r.insert t := by
  have h : GroupType.make c.name c.fragment c.converter c.origin = .ok t := h
  rw [call, register, h]

lemma call_error {fault : TypeFault} (h : c.type = .error fault) (r : Registry) : r.call c = r := by
  have h : GroupType.make c.name c.fragment c.converter c.origin = .error fault := h
  rw [call, register, h]

lemma call_cases (r : Registry) (c : Registration) :
    (∃ t, c.type = .ok t ∧ r.call c = r.insert t) ∨ (∀ t, c.type ≠ .ok t) ∧ r.call c = r := by
  cases h : c.type with
  | ok t => exact Or.inl ⟨t, rfl, call_ok h r⟩
  | error fault => exact Or.inr ⟨nofun, call_error h r⟩

/-- Whether a call is accepted is a matter of the call alone. -/
lemma register_ok_iff (r : Registry) (c : Registration) :
    (∃ s, r.register c.name c.fragment c.converter c.origin = .ok s) ↔ ∃ t, c.type = .ok t := by
  constructor
  · rintro ⟨s, hs⟩
    obtain ⟨t, ht, -⟩ := make_of_register hs
    exact ⟨t, ht⟩
  · rintro ⟨t, ht⟩
    obtain ⟨s, hs, -⟩ := register_of_make ht r
    exact ⟨s, hs⟩

lemma find?_call_ne (h : c.name = name → ∀ t, c.type ≠ .ok t) (r : Registry) :
    (r.call c).find? name = r.find? name := by
  rcases call_cases r c with ⟨t, ht, hcall⟩ | ⟨-, hcall⟩
  · have hne : name ≠ t.name := fun hname => h (hname ▸ (Registration.name_of_type ht).symm) t ht
    rw [hcall]
    exact find?_insertSorted_ne hne r.types
  · rw [hcall]

lemma find?_after_none (h : NoneAccepted calls name) (start : Registry) :
    (start.after calls).find? name = start.find? name := by
  induction calls generalizing start with
  | nil => rfl
  | cons c calls ih =>
    obtain ⟨hc, hcalls⟩ := List.forall_mem_cons.mp h
    exact (ih hcalls (start.call c)).trans (find?_call_ne hc start)

lemma find?_after_last (h : IsLast calls name t) (start : Registry) : (start.after calls).find? name = some t := by
  obtain ⟨before, c, behind, rfl, rfl, ht, hnone⟩ := h
  rw [after, List.foldl_append]
  refine (find?_after_none hnone ((start.after before).call c)).trans ?_
  rw [call_ok ht, ← Registration.name_of_type ht]
  exact find?_insert _ t

lemma find?_after_eq_some : (start.after calls).find? name = some t ↔
    IsLast calls name t ∨ NoneAccepted calls name ∧ start.find? name = some t := by
  constructor
  · intro h
    rcases Registration.exists_isLast calls name with ⟨u, hu⟩ | hnone
    · obtain rfl := Option.some.inj ((find?_after_last hu start).symm.trans h)
      exact Or.inl hu
    · exact Or.inr ⟨hnone, (find?_after_none hnone start).symm.trans h⟩
  · rintro (h | ⟨hnone, h⟩)
    · exact find?_after_last h start
    · exact (find?_after_none hnone start).trans h

lemma find?_after_eq_none : (start.after calls).find? name = none ↔
    NoneAccepted calls name ∧ start.find? name = none := by
  constructor
  · intro h
    rcases Registration.exists_isLast calls name with ⟨u, hu⟩ | hnone
    · cases (find?_after_last hu start).symm.trans h
    · exact ⟨hnone, (find?_after_none hnone start).symm.trans h⟩
  · rintro ⟨hnone, h⟩
    exact (find?_after_none hnone start).trans h

lemma resolve_eq_ok : r.resolve name = .ok t ↔ r.find? name = some t := by
  unfold resolve
  cases r.find? name <;> simp

lemma resolve_eq_error {e : Error} :
    r.resolve name = .error e ↔ r.find? name = none ∧ e = .unknownType name r.names := by
  unfold resolve
  cases r.find? name <;> simp [eq_comm]

/-- A registry as calls leave it: in order of its names, each of which stands for what some call has made. -/
structure Sound (r : Registry) : Prop where
  increasing : r.types.Pairwise fun t u => t.name < u.name
  made : ∀ t ∈ r.types, ∃ c : Registration, c.type = .ok t

lemma pairwise_insertSorted {types : List GroupType} (h : types.Pairwise fun t u => t.name < u.name) (t : GroupType) :
    (insertSorted t types).Pairwise fun t u => t.name < u.name := by
  induction types with
  | nil => exact List.pairwise_singleton _ t
  | cons u rest ih =>
    obtain ⟨hu, hrest⟩ := List.pairwise_cons.mp h
    rw [insertSorted]
    split_ifs with hlt heq
    · exact .cons (List.forall_mem_cons.mpr ⟨hlt, fun v hv => String.lt_trans hlt (hu v hv)⟩) h
    · exact .cons (fun v hv => heq ▸ hu v hv) hrest
    · have hgt : u.name < t.name := by
        by_contra hge
        exact heq (String.le_antisymm (String.not_lt.mp hge) (String.not_lt.mp hlt))
      refine .cons (fun v hv => ?_) (ih hrest)
      rcases mem_insertSorted hv with rfl | hv
      · exact hgt
      · exact hu v hv

namespace Sound

lemma call (h : r.Sound) (c : Registration) : (r.call c).Sound := by
  rcases call_cases r c with ⟨t, ht, hcall⟩ | ⟨-, hcall⟩
  · rw [hcall]
    refine ⟨pairwise_insertSorted h.increasing t, fun u hu => ?_⟩
    rcases mem_insertSorted hu with rfl | hu
    · exact ⟨c, ht⟩
    · exact h.made u hu
  · rwa [hcall]

lemma after (h : start.Sound) (calls : List Registration) : (start.after calls).Sound := by
  induction calls generalizing start with
  | nil => exact h
  | cons c calls ih => exact ih (h.call c)

lemma names (h : r.Sound) : r.names.Pairwise fun a b => Text.utf8 a.toList < Text.utf8 b.toList := by
  rw [Registry.names, List.pairwise_map]
  exact h.increasing.imp fun hlt => Text.utf8_lt_utf8 hlt

end Sound

lemma sound_empty : empty.Sound :=
  ⟨.nil, List.forall_mem_nil _⟩

/-- The built-in types are registered like all others. -/
lemma builtin_eq_after (origin : Nat) : builtin origin =
    empty.after (builtinTypes.map fun (name, fragment, converter) => ⟨name, fragment, converter, origin⟩) := by
  rw [after, List.foldl_map]
  rfl

lemma sound_builtin (origin : Nat) : (builtin origin).Sound := by
  rw [builtin_eq_after]
  exact sound_empty.after _

end Registry

/-- What can be said of a type that is held: its name can stand in a group, and its fragment is not empty and has no
capturing groups. If the text of the fragment can be told apart, it is valid and has no capturing groups either. -/
structure GroupType.Held (t : GroupType) : Prop where
  name_ne_empty : t.name ≠ ""
  name_not_width : ∃ c ∈ t.name.toList, Text.isDigit c = false
  name_unreserved : ∀ c ∈ t.name.toList, isWhite c = false ∧ c ≠ '[' ∧ c ≠ ']' ∧ c ≠ ':'
  fragment_ne_empty : t.fragment ≠ ""
  captures : t.tree.captures = []
  legible : t.tree.isPlain = true → t.tree.legible = true
  valid : t.tree.legible = true → ∃ tree, GroupType.readFragment t.fragment.toList = .ok tree ∧ tree.captures = []

lemma Registration.held {c : Registration} {t : GroupType} (h : c.type = .ok t) : t.Held := by
  obtain ⟨hne, hdigits, hreserved⟩ := GroupType.nameFault?_eq_none.mp t.name_ok
  refine ⟨fun hname => hne (hname ▸ rfl), ?_, fun d hd => ?_, GroupType.fragment_ne_empty h, t.tree_captures,
    GroupType.tree_legible, GroupType.readFragment_fragment⟩
  · simpa using hdigits
  · have hd := hreserved d hd
    simp only [GroupType.reserved, Bool.or_eq_false_iff, beq_eq_false_iff_ne] at hd
    exact ⟨hd.1.1.1, hd.1.1.2, hd.1.2, hd.2⟩

namespace Registry

open Registration (IsLast NoneAccepted)

variable {start : Registry}

/-- What a registry answers after any calls, from the start with no types or with the built-in ones. A name stands for
the type of the last call for it that was accepted, or else for what it stood for at the start; if there is neither, the
error lists the names that are held. These are in increasing order of their bytes, and what they stand for is sound. A
call that is rejected might as well not have been made. -/
theorem registrations_answer (hstart : start = empty ∨ ∃ origin, start = builtin origin) (calls : List Registration) :
    (∀ name t, (start.after calls).resolve name = .ok t ↔
      IsLast calls name t ∨ NoneAccepted calls name ∧ start.find? name = some t) ∧
    (∀ name e, (start.after calls).resolve name = .error e ↔
      (NoneAccepted calls name ∧ start.find? name = none) ∧ e = .unknownType name (start.after calls).names) ∧
    (∀ t ∈ (start.after calls).types, t.Held) ∧
    (start.after calls).names.Pairwise (fun a b => Text.utf8 a.toList < Text.utf8 b.toList) ∧
    (start.after calls).names.Nodup ∧ (start.after calls).size = (start.after calls).names.length ∧
    ∀ before c behind e, calls = before ++ c :: behind →
      (start.after before).register c.name c.fragment c.converter c.origin = .error e →
        start.after calls = start.after (before ++ behind) := by
  have hsound : (start.after calls).Sound := by
    rcases hstart with hempty | ⟨origin, hbuiltin⟩
    · exact hempty ▸ sound_empty.after calls
    · exact hbuiltin ▸ (sound_builtin origin).after calls
  refine ⟨fun name t => resolve_eq_ok.trans find?_after_eq_some, fun name e => ?_, fun t ht => ?_, hsound.names,
    hsound.names.imp fun hlt heq => ?_, (List.length_map _).symm, ?_⟩
  · rw [resolve_eq_error, find?_after_eq_none]
  · obtain ⟨c, hc⟩ := hsound.made t ht
    exact Registration.held hc
  · exact List.lt_irrefl _ (heq ▸ hlt)
  · rintro before c behind e rfl herror
    have hcall : (start.after before).call c = start.after before := by rw [call, herror]
    rw [after, after, List.foldl_append, List.foldl_cons, List.foldl_append]
    exact congrArg (fun r => behind.foldl call r) hcall

/-- A name that is taken over, one that would be a width, and a fragment that is none. -/
theorem registrations_answer_mixed : ∃ t,
    let calls : List Registration := [⟨"b", "x", .identity, 0⟩, ⟨"a", "y", .identity, 1⟩, ⟨"7", "z", .identity, 2⟩,
      ⟨"b", "(w)", .identity, 3⟩, ⟨"b", "[", .identity, 4⟩]
    (empty.after calls).resolve "b" = .ok t ∧ t.fragment = "(?:w)" ∧ t.Held ∧
      (empty.after calls).resolve "7" = .error (.unknownType "7" ["a", "b"]) ∧
        empty.after calls = empty.after (calls.take 4) := by
  let calls : List Registration := [⟨"b", "x", .identity, 0⟩, ⟨"a", "y", .identity, 1⟩, ⟨"7", "z", .identity, 2⟩,
    ⟨"b", "(w)", .identity, 3⟩, ⟨"b", "[", .identity, 4⟩]
  have hmade : (Regex.result? (Registration.type ⟨"b", "(w)", .identity, 3⟩)).any (·.fragment == "(?:w)") = true :=
    rfl
  have hlast : NoneAccepted [⟨"b", "[", .identity, 4⟩] "b" := Registration.noneAccepted_of_all rfl
  have hnone : NoneAccepted calls "7" := Registration.noneAccepted_of_all rfl
  have hnames : (empty.after calls).names = ["a", "b"] := rfl
  obtain ⟨hok, herror, hheld, -, -, -, hdrop⟩ := registrations_answer (Or.inl rfl) calls
  obtain ⟨t, ht, hfragment⟩ := Regex.any_result?.mp hmade
  have hresolve := (hok "b" t).mpr (Or.inl ⟨calls.take 3, _, _, rfl, rfl, ht, hlast⟩)
  refine ⟨t, hresolve, beq_iff_eq.mp hfragment, hheld t (mem_of_find? (resolve_eq_ok.mp hresolve)), ?_, ?_⟩
  · exact (herror "7" _).mpr ⟨⟨hnone, rfl⟩, hnames ▸ rfl⟩
  · cases hregister : (empty.after (calls.take 4)).register "b" "[" .identity 4 with
    | error e => exact hdrop (calls.take 4) ⟨"b", "[", .identity, 4⟩ [] e rfl hregister
    | ok s =>
      obtain ⟨u, hu⟩ := (register_ok_iff _ ⟨"b", "[", .identity, 4⟩).mp ⟨s, hregister⟩
      exact absurd hu (hlast _ List.mem_cons_self rfl u)

/-- Without the blank of verbose mode between two hyphens what is held of one fragment is no expression, and what is
held of another has a capturing group. -/
theorem registrations_hold_invalid_verbose : ∃ t u,
    let calls : List Registration := [⟨"t", "(?x)[a- -z-b]", .identity, 0⟩, ⟨"u", "(?x)[+- -A-[c](d)]", .identity, 1⟩]
    (empty.after calls).resolve "t" = .ok t ∧ (∀ tree, GroupType.readFragment t.fragment.toList ≠ .ok tree) ∧
      (empty.after calls).resolve "u" = .ok u ∧
        ∃ tree, GroupType.readFragment u.fragment.toList = .ok tree ∧ tree.captures ≠ [] := by
  let calls : List Registration := [⟨"t", "(?x)[a- -z-b]", .identity, 0⟩, ⟨"u", "(?x)[+- -A-[c](d)]", .identity, 1⟩]
  have hall : ((empty.after calls).find? "t").any (fun t =>
        (Regex.result? (GroupType.readFragment t.fragment.toList)).isNone) = true ∧
      ((empty.after calls).find? "u").any (fun u =>
        (Regex.result? (GroupType.readFragment u.fragment.toList)).any fun tree => !tree.captures.isEmpty) = true := by
    decide +kernel
  obtain ⟨t, ht, hnone⟩ := (Option.any_eq_true _ _).mp hall.1
  obtain ⟨u, hu, hsome⟩ := (Option.any_eq_true _ _).mp hall.2
  obtain ⟨tree, htree, hcaptures⟩ := Regex.any_result?.mp hsome
  refine ⟨t, u, resolve_eq_ok.mpr ht, fun tree htree => ?_, resolve_eq_ok.mpr hu, tree, htree, fun hnil => ?_⟩
  · rw [htree] at hnone
    cases hnone
  · rw [hnil] at hcaptures
    cases hcaptures

end Registry

end TypedPattern
