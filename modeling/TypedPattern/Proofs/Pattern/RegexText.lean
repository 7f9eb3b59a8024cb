import TypedPattern.Matcher
import TypedPattern.Proofs.Pattern.Numbering
import TypedPattern.Proofs.Printing.Captures

/-! The regular expression of a pattern can be read, and its capturing groups are the groups of the pattern. -/

namespace TypedPattern

namespace Regex.Syntax

lemma capturesOfAll_eq_flatMap (xs : List Syntax) : capturesOfAll xs = xs.flatMap captures := by
  induction xs with
  | nil => rfl
  | cons x xs ih => rw [capturesOfAll, ih, List.flatMap_cons]

lemma captures_ofItems (s : Span) (xs : List Syntax) : (ofItems s xs).captures = xs.flatMap captures := by
  rw [← capturesOfAll_eq_flatMap]
  rcases xs with _ | ⟨x, _ | ⟨y, xs⟩⟩
  · rfl
  · exact (List.append_nil _).symm
  · rfl

lemma legibleAll_eq_all (xs : List Syntax) : legibleAll xs = xs.all legible := by
  induction xs with
  | nil => rfl
  | cons x xs ih => rw [legibleAll, ih, List.all_cons]

lemma written_items {xs : List Syntax}
    (h : ∀ x ∈ xs, Written (.item false x.bare) ∧ x.bare.verboseAfter false = false) :
    Written (.items false (xs.map bare) false) := by
  induction xs with
  | nil => exact .nil false
  | cons x xs ih =>
    obtain ⟨hx, hv⟩ := h x List.mem_cons_self
    have hxs := ih fun y hy => h y (List.mem_cons_of_mem x hy)
    refine .cons hx ?_
    rw [hv]
    exact hxs

end Regex.Syntax

open Regex (Syntax)

namespace GroupType

lemma tree_written (t : GroupType) : Syntax.Written (.level false t.tree.bare) := by
  obtain ⟨text, whole, hread, ht⟩ := t.tree_ok
  obtain ⟨tree, hr, hread⟩ := Regex.bind_eq_ok.mp hread
  obtain ⟨core, -, hread⟩ := Regex.bind_eq_ok.mp hread
  cases hread
  rw [ht, Syntax.withoutCaptures_bare]
  exact (Regex.written_of_read hr).1.withoutCaptures

lemma tree_captures (t : GroupType) : t.tree.captures = [] := by
  obtain ⟨text, whole, -, ht⟩ := t.tree_ok
  rw [ht, Syntax.captures_withoutCaptures]

lemma tree_legible {t : GroupType} (h : t.tree.isPlain = true) : t.tree.legible = true := by
  obtain ⟨text, whole, hread, ht⟩ := t.tree_ok
  obtain ⟨tree, hr, hread⟩ := Regex.bind_eq_ok.mp hread
  obtain ⟨core, -, hread⟩ := Regex.bind_eq_ok.mp hread
  cases hread
  rw [ht, Syntax.isPlain_withoutCaptures] at h
  rw [ht, Syntax.legible_withoutCaptures]
  exact (Regex.written_of_read hr).2.2 h

end GroupType

namespace Pattern

lemma written_dotTree : Syntax.Written (.item false dotTree.bare) :=
  .dot false

lemma written_charTree (c : Char) : Syntax.Written (.item false (charTree c).bare) := by
  have hs : Regex.Solid false c := fun hv => absurd hv Bool.false_ne_true
  unfold charTree
  by_cases hm : Regex.isMeta c = true
  · rw [if_pos hm]
    exact .escaped (Or.inl hm)
  · rw [if_neg hm]
    refine .verbatim ⟨rfl, fun hc => hm ?_, hs⟩
    have hsub : Regex.specials.all Regex.isMeta = true := by decide
    exact List.all_eq_true.mp hsub c hc

lemma written_literalTree (flexible : Bool) (c : Char) : Syntax.Written (.item false (literalTree flexible c).bare) := by
  unfold literalTree
  split
  · exact .repetition (written_charTree ' ') rfl trivial
  · exact written_charTree c

lemma Wildcard.tree_written (w : Wildcard) : Syntax.Written (.item false w.tree.bare) := by
  cases w with
  | any => exact .repetition written_dotTree rfl trivial
  | one => exact written_dotTree
  | maybe => exact .repetition written_dotTree rfl trivial

lemma Constraint.tree_written {k : Constraint} (h : k.InRange) : Syntax.Written (.level false k.tree.bare) := by
  cases k with
  | free =>
    have hk : Regex.RepetitionKind.zeroOrMore.Written := trivial
    exact .single (.cons (.repetition written_dotTree rfl hk) (.nil false))
  | width n =>
    have hn : (Regex.RepetitionKind.exactly n).Written := Nat.lt_of_le_of_lt h (by decide : maxWidth < twoTo 32)
    exact .single (.cons (.repetition written_dotTree rfl hn) (.nil false))
  | type t => exact t.tree_written

lemma Constraint.tree_captures (k : Constraint) : k.tree.captures = [] := by
  cases k with
  | free => rfl
  | width n => rfl
  | type t => exact t.tree_captures

lemma isNamePart_of_identifier {c : Char} (h : c = '_' ∨ isAlphanumeric c = true) :
    Regex.Group.isNamePart c = true := by
  rcases h with rfl | h
  · rfl
  · simp [Regex.Group.isNamePart, h]

lemma isName_of_identifier {name : String} (h : isIdentifier name = true) : Regex.Group.IsName name.toList := by
  have hchar := fun c hc => isIdentifier_char h (c := c) hc
  unfold isIdentifier at h
  cases hn : name.toList with
  | nil =>
    rw [hn] at h
    cases h
  | cons c cs =>
    rw [hn] at h hchar
    exact ⟨c, cs, rfl, (Bool.and_eq_true_iff.mp h).1,
      fun d hd => isNamePart_of_identifier (hchar d (List.mem_cons_of_mem c hd))⟩

lemma isAlphanumeric_of_digit {c : Char} (h : Text.isDigit c = true) : isAlphanumeric c = true := by
  have hdigits : Unicode.numeric.ranges.any (fun r => decide (r.lo ≤ 0x30) && decide (0x39 ≤ r.hi)) = true := by
    decide
  obtain ⟨r, hr, hc⟩ := List.any_eq_true.mp hdigits
  simp only [Bool.and_eq_true, decide_eq_true_eq] at hc
  simp only [Text.isDigit, Bool.and_eq_true, decide_eq_true_eq, Char.le_def, UInt32.le_iff_toNat_le] at h
  have hlo : '0'.val.toNat = 0x30 := rfl
  have hhi : '9'.val.toNat = 0x39 := rfl
  rw [isAlphanumeric, Bool.or_eq_true]
  refine Or.inr (List.any_eq_true.mpr ⟨r, hr, ?_⟩)
  simp only [CharRange.contains, Bool.and_eq_true, decide_eq_true_eq]
  change r.lo ≤ c.val.toNat ∧ c.val.toNat ≤ r.hi
  omega

lemma isName_unnamed (n : Nat) : Regex.Group.IsName ("unnamed." ++ toString n).toList := by
  rw [String.toList_append]
  refine ⟨'u', "nnamed.".toList ++ (toString n).toList, rfl, by decide, fun d hd => ?_⟩
  rcases List.mem_append.mp hd with hd | hd
  · have hall : "nnamed.".toList.all Regex.Group.isNamePart = true := by decide
    exact List.all_eq_true.mp hall d hd
  · have htext : (toString n).toList = Text.decimal n := String.toList_ofList
    rw [htext] at hd
    exact isNamePart_of_identifier (Or.inr (isAlphanumeric_of_digit (Text.isDigit_of_mem_decimal hd)))

/-- A group whose name and width can be written. -/
structure Capture.Writable (c : Capture) : Prop where
  name : Regex.Group.IsName c.id.toList
  width : c.constraint.InRange

lemma Compiled.Sound.writable {c : Compiled} (h : c.Sound) {g : Capture} (hg : g ∈ c.groups) : g.Writable := by
  refine ⟨?_, h.widths g hg⟩
  cases hn : g.name with
  | none =>
    rw [Capture.id_of_none hn]
    exact isName_unnamed g.order
  | some name =>
    rw [Capture.id_of_name hn]
    exact isName_of_identifier (h.identifiers g hg name hn)

def Capture.tree (c : Capture) : Syntax :=
  .group nowhere (.named true c.id.toList) c.constraint.tree

lemma Capture.Writable.written {c : Capture} (h : c.Writable) : Syntax.Written (.item false c.tree.bare) :=
  .group h.name (Constraint.tree_written h.width)

variable {flexible : Bool} {segments : List (Segment Capture)}

lemma mem_groups {γ : Type} {segments : List (Segment γ)} {g : γ} :
    g ∈ Segment.groups segments ↔ Segment.group g ∈ segments := by
  constructor
  · intro h
    obtain ⟨s, hs, hg⟩ := List.mem_filterMap.mp h
    cases s <;> cases hg
    exact hs
  · intro h
    exact List.mem_filterMap.mpr ⟨_, h, rfl⟩

lemma forall_trees {P : Syntax → Prop} (hliteral : ∀ c, P (literalTree flexible c)) (hwildcard : ∀ w : Wildcard, P w.tree)
    (hgroup : ∀ c ∈ Segment.groups segments, P c.tree) : ∀ x ∈ segments.flatMap (Segment.trees flexible), P x := by
  intro x hx
  obtain ⟨s, hs, hx⟩ := List.mem_flatMap.mp hx
  cases s with
  | literal text =>
    obtain ⟨c, -, rfl⟩ := List.mem_map.mp hx
    exact hliteral c
  | wildcard w =>
    obtain rfl := List.mem_singleton.mp hx
    exact hwildcard w
  | group c =>
    obtain rfl := List.mem_singleton.mp hx
    exact hgroup c (mem_groups.mpr hs)

lemma literalTree_cases (flexible : Bool) (c : Char) :
    literalTree flexible c = repeatTree .oneOrMore (charTree ' ') ∨ literalTree flexible c = charTree c := by
  unfold literalTree
  split
  · exact Or.inl rfl
  · exact Or.inr rfl

lemma written_branch (h : ∀ c ∈ Segment.groups segments, c.Writable) :
    Syntax.Written (.level false (branchTree flexible segments).bare) := by
  rw [branchTree, Syntax.ofItems_bare]
  refine .single (Syntax.written_items (forall_trees (fun c => ⟨written_literalTree flexible c, ?_⟩)
    (fun w => ⟨w.tree_written, ?_⟩) fun c hc => ⟨(h c hc).written, rfl⟩))
  · rcases literalTree_cases flexible c with hc | hc <;> rw [hc] <;> rfl
  · cases w <;> rfl

lemma legible_branch (h : ∀ c ∈ Segment.groups segments, c.constraint.tree.legible = true) :
    (branchTree flexible segments).legible = true := by
  rw [branchTree, Syntax.legible_ofItems, Syntax.legibleAll_eq_all, List.all_eq_true]
  refine forall_trees (fun c => ?_) (fun w => ?_) fun c hc => ?_
  · rcases literalTree_cases flexible c with hc | hc <;> rw [hc] <;> rfl
  · cases w <;> rfl
  · rw [Capture.tree, Syntax.legible]
    exact h c hc

lemma captures_branch (flexible : Bool) (segments : List (Segment Capture)) :
    (branchTree flexible segments).captures = (Segment.groups segments).map fun c => some c.id.toList := by
  rw [branchTree, Syntax.captures_ofItems]
  induction segments with
  | nil => rfl
  | cons s rest ih =>
    rw [List.flatMap_cons, List.flatMap_append, ih]
    cases s with
    | literal text =>
      have hnone : (text.map (literalTree flexible)).flatMap Syntax.captures = [] := by
        refine List.flatMap_eq_nil_iff.mpr fun x hx => ?_
        obtain ⟨c, -, rfl⟩ := List.mem_map.mp hx
        rcases literalTree_cases flexible c with hc | hc <;> rw [hc] <;> rfl
      rw [Segment.trees, hnone]
      rfl
    | wildcard w => cases w <;> rfl
    | group c =>
      have hbody := c.constraint.tree_captures
      simp only [Segment.trees, List.flatMap_cons, List.flatMap_nil, List.append_nil, Syntax.captures, hbody]
      rfl

namespace Compiled

variable {c : Compiled}

/-- The fragments of the types that a pattern uses can be told apart when they are written out. -/
def Legible (c : Compiled) : Prop :=
  ∀ g ∈ c.groups, g.constraint.tree.legible = true

lemma legible_of_plain (h : ∀ g ∈ c.groups, ∀ t, g.constraint = .type t → t.tree.isPlain = true) : c.Legible := by
  intro g hg
  cases hk : g.constraint with
  | free => rfl
  | width n => rfl
  | type t => exact t.tree_legible (h g hg t hk)

lemma captures_tree (c : Compiled) : c.tree.captures = c.groups.map fun g => some g.id.toList := by
  rw [tree, groups]
  cases c.branches with
  | one only => simp [Branches.tree, captures_branch, Branches.toList]
  | two left right =>
    simp [Branches.tree, enclosed, Syntax.captures, Syntax.capturesOfAll, captures_branch, Branches.toList]

lemma Sound.written_tree (h : c.Sound) : Syntax.Written (.level false c.tree.bare) := by
  have hw : ∀ g ∈ c.branches.toList.flatMap Segment.groups, g.Writable := fun g hg => h.writable hg
  rw [tree]
  cases hb : c.branches with
  | one only =>
    refine written_branch fun g hg => hw g ?_
    simpa [hb, Branches.toList] using hg
  | two left right =>
    have hl : Syntax.Written (.level false (branchTree c.flexibleSpaces left).bare) :=
      written_branch fun g hg => hw g (by simp [hb, Branches.toList, hg])
    have hr : Syntax.Written (.level false (branchTree c.flexibleSpaces right).bare) :=
      written_branch fun g hg => hw g (by simp [hb, Branches.toList, hg])
    have hplain : (Regex.GroupKind.plain []).bare.Written := ⟨List.nodup_nil, (Option.some_ne_none _).symm⟩
    exact .alternation (.next (.cons (.group hplain hl) (.nil false)) (.last (.cons (.group hplain hr) (.nil false))))

lemma Legible.tree (h : c.Legible) : c.tree.legible = true := by
  have hl : ∀ g ∈ c.branches.toList.flatMap Segment.groups, g.constraint.tree.legible = true := h
  rw [Compiled.tree]
  cases hb : c.branches with
  | one only =>
    refine legible_branch fun g hg => hl g ?_
    simpa [hb, Branches.toList] using hg
  | two left right =>
    have hleft : (branchTree c.flexibleSpaces left).legible = true :=
      legible_branch fun g hg => hl g (by simp [hb, Branches.toList, hg])
    have hright : (branchTree c.flexibleSpaces right).legible = true :=
      legible_branch fun g hg => hl g (by simp [hb, Branches.toList, hg])
    simp [Branches.tree, enclosed, Syntax.legible, Syntax.legibleAll, hleft, hright]

lemma names_tree (c : Compiled) : c.tree.names = c.groups.map fun g => g.id.toList := by
  rw [Syntax.names, captures_tree, List.filterMap_map, ← List.filterMap_eq_map]
  rfl

lemma Sound.names_nodup (h : c.Sound) : c.tree.names.Nodup := by
  have hi : (c.groups.map Capture.id).Nodup := h.ids_nodup
  rw [names_tree]
  have hmap := hi.map (f := String.toList) fun _ _ => String.toList_injective
  rwa [List.map_map] at hmap

lemma read_regex (h : c.Sound) (hl : c.Legible) : ∃ tree, tree.bare = c.tree.bare ∧
    (Regex.read c.regex.toList = .ok tree ∨
      (c.tree.tooDeep? Regex.nestLimit).isSome = true ∧
        ∃ span, Regex.read c.regex.toList = .error ⟨.nestLimitExceeded, span, none⟩) := by
  obtain ⟨tree, hb, hread⟩ := Regex.read_chars h.written_tree hl.tree h.names_nodup
  refine ⟨tree, hb, ?_⟩
  rw [regex, String.toList_ofList, hread, ← Syntax.tooDeep?_bare, ← hb, Syntax.tooDeep?_bare]
  cases tree.tooDeep? Regex.nestLimit with
  | none => exact Or.inl rfl
  | some span => exact Or.inr ⟨rfl, span, rfl⟩

end Compiled

/-- The groups of a pattern that compiles, by their places, are the capturing groups of its regular expression, and
there are no others, wherever the fragments in it can be told apart when they are written out. -/
theorem groups_are_captures {types : Registry} {flexible : Bool} {text : String} {c : Compiled}
    (h : compile types flexible text = .ok c) :
    c.groups.map (·.order) = List.range c.groups.length ∧
      (c.groups.map Capture.id).Nodup ∧
      (∀ g ∈ c.groups, g.name = none → g.id = "unnamed." ++ toString g.order) ∧
      (∀ g ∈ c.groups, ∀ name, g.name = some name → g.id = name ∧ isIdentifier name = true) ∧
      (∀ name, isIdentifier name = true → ∀ n : Nat, name ≠ "unnamed." ++ toString n) ∧
      ((∀ g ∈ c.groups, ∀ t, g.constraint = .type t → t.tree.isPlain = true) → c.Legible) ∧
      (c.Legible → c.tree.tooDeep? Regex.nestLimit = none → ∃ tree, Regex.read c.regex.toList = .ok tree ∧
        tree.captures = c.groups.map fun g => some g.id.toList) := by
  have hs := sound_of_compile h
  refine ⟨hs.orders, hs.ids_nodup, fun g _ hn => Capture.id_of_none hn, fun g hg name hn => ?_,
    fun name hi => isIdentifier_ne_unnamed hi, Compiled.legible_of_plain, fun hl hd => ?_⟩
  · exact ⟨Capture.id_of_name hn, hs.identifiers g hg name hn⟩
  · obtain ⟨tree, hb, hread | ⟨hdeep, -⟩⟩ := Compiled.read_regex hs hl
    · refine ⟨tree, hread, ?_⟩
      rw [← Syntax.captures_bare, hb, Syntax.captures_bare, Compiled.captures_tree]
    · rw [hd] at hdeep
      cases hdeep

/-- Two branches, with a capturing group in the fragment of a type. -/
theorem groups_are_captures_fragment : ∃ types c tree,
    Registry.empty.register "t" "(a|b)+" .identity 0 = .ok types ∧ compile types false "[x:t][]|[:2]" = .ok c ∧
      Regex.read c.regex.toList = .ok tree ∧
        tree.captures = ["x", "unnamed.1", "unnamed.2"].map fun id => some id.toList := by
  have hall : (Regex.result? (Registry.empty.register "t" "(a|b)+" .identity 0)).any (fun types =>
      (Regex.result? (compile types false "[x:t][]|[:2]")).any fun c =>
        c.groups.map Capture.id == ["x", "unnamed.1", "unnamed.2"] &&
          (c.groups.all (fun g => g.constraint.tree.legible) && (c.tree.tooDeep? Regex.nestLimit).isNone)) = true := by
    decide +kernel
  obtain ⟨types, hr, h⟩ := (Option.any_eq_true _ _).mp hall
  obtain ⟨c, hc, h⟩ := (Option.any_eq_true _ _).mp h
  have hc := Regex.result?_eq_some.mp hc
  simp only [Bool.and_eq_true, beq_iff_eq, List.all_eq_true, Option.isNone_iff_eq_none] at h
  obtain ⟨hids, hlegible, hdeep⟩ := h
  obtain ⟨-, -, -, -, -, -, hcaptures⟩ := groups_are_captures hc
  obtain ⟨tree, hread, ht⟩ := hcaptures hlegible hdeep
  refine ⟨types, c, tree, Regex.result?_eq_some.mp hr, hc, hread, ?_⟩
  rw [ht, ← hids, List.map_map]
  rfl

/-- Without the blank of verbose mode between two hyphens the class is no class any more. -/
theorem groups_are_captures_verbose : ∃ types c,
    Registry.empty.register "t" "(?x)[a- -z-b]" .identity 0 = .ok types ∧ compile types false "[x:t]" = .ok c ∧
      c.regex = "(?P<x>(?x)[a--z-b])" ∧ ¬∃ tree, Regex.read c.regex.toList = .ok tree := by
  have hall : (Regex.result? (Registry.empty.register "t" "(?x)[a- -z-b]" .identity 0)).any (fun types =>
      (Regex.result? (compile types false "[x:t]")).any fun c =>
        c.regex == "(?P<x>(?x)[a--z-b])" && (Regex.result? (Regex.read c.regex.toList)).isNone) = true := by
    decide +kernel
  obtain ⟨types, hr, h⟩ := (Option.any_eq_true _ _).mp hall
  obtain ⟨c, hc, h⟩ := (Option.any_eq_true _ _).mp h
  rw [Bool.and_eq_true, beq_iff_eq] at h
  refine ⟨types, c, Regex.result?_eq_some.mp hr, Regex.result?_eq_some.mp hc, h.1, ?_⟩
  rintro ⟨tree, hread⟩
  rw [hread] at h
  exact Bool.false_ne_true h.2

end Pattern

end TypedPattern
