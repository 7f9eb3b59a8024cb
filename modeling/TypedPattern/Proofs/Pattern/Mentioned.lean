import TypedPattern.Proofs.Pattern.Acceptance
import TypedPattern.Proofs.Printing.Level

/-! A pattern depends on no types but those that it mentions. -/

namespace TypedPattern

open List (Forall₂)
open Regex (Syntax)

/-- Two types that a pattern cannot tell apart. -/
structure GroupType.Alike (t u : GroupType) : Prop where
  name : t.name = u.name
  fragment : t.fragment = u.fragment
  converter : t.converter = u.converter

lemma GroupType.Alike.refl (t : GroupType) : t.Alike t :=
  ⟨rfl, rfl, rfl⟩

/-- Two registries have types of some name that are alike, or both have none. -/
def Registry.AgreesOn (types others : Registry) (name : String) : Prop :=
  Option.Rel GroupType.Alike (types.find? name) (others.find? name)

/-- The error without the types that are known. -/
def Error.withoutKnown : Error → Error
  | unknownType name _ => unknownType name []
  | e => e

/-- Two outcomes that are both results, which are related, or both errors, which differ in the known types at most. -/
inductive SameOutcome {α β : Type} (R : α → β → Prop) : Except Error α → Except Error β → Prop
  | ok {a : α} {b : β} (h : R a b) : SameOutcome R (.ok a) (.ok b)
  | error {e e' : Error} (h : e.withoutKnown = e'.withoutKnown) : SameOutcome R (.error e) (.error e')

namespace SameOutcome

variable {α β γ δ : Type} {R : α → β → Prop} {S : γ → δ → Prop} {x : Except Error α} {y : Except Error β}

lemma bind {f : α → Except Error γ} {g : β → Except Error δ} (h : SameOutcome R x y)
    (hfg : ∀ a b, R a b → SameOutcome S (f a) (g b)) : SameOutcome S (x >>= f) (y >>= g) := by
  cases h with
  | ok hab => exact hfg _ _ hab
  | error he => exact .error he

lemma map {f : α → γ} {g : β → δ} (h : SameOutcome R x y) (hfg : ∀ a b, R a b → S (f a) (g b)) :
    SameOutcome S (x.map f) (y.map g) := by
  cases h with
  | ok hab => exact .ok (hfg _ _ hab)
  | error he => exact .error he

lemma of_ok {a : α} {b : β} (h : SameOutcome R (.ok a) (.ok b)) : R a b := by
  cases h with
  | ok hab => exact hab

end SameOutcome

namespace Registry

variable {types others types' : Registry} {name fragment : String} {converter : Converter} {origin : Nat}

lemma AgreesOn.resolve (h : types.AgreesOn others name) :
    SameOutcome GroupType.Alike (types.resolve name) (others.resolve name) := by
  unfold AgreesOn at h
  unfold Registry.resolve
  cases ht : types.find? name <;> cases hu : others.find? name <;> rw [ht, hu] at h <;> cases h
  · exact .error rfl
  · rename_i t u htu
    exact .ok htu

lemma find?_of_register {other : String} (h : types.register name fragment converter origin = .ok types')
    (hne : other ≠ name) : types'.find? other = types.find? other := by
  unfold register at h
  split at h
  · rename_i t ht
    cases h
    obtain ⟨rfl, -⟩ := GroupType.make_ok ht
    exact find?_insertSorted_ne hne types.types
  · cases h

lemma agreesOn_of_register {other : String} (h : types.register name fragment converter origin = .ok types')
    (hne : other ≠ name) : types'.AgreesOn types other := by
  unfold AgreesOn
  rw [find?_of_register h hne]
  cases types.find? other with
  | none => exact .none
  | some t => exact .some (.refl t)

end Registry

namespace Pattern

inductive Constraint.Alike : Constraint → Constraint → Prop
  | free : Alike .free .free
  | width (n : Nat) : Alike (.width n) (.width n)
  | type {t u : GroupType} (h : t.Alike u) : Alike (.type t) (.type u)

structure Group.Alike (g h : Group) : Prop where
  name : g.name = h.name
  constraint : g.constraint.Alike h.constraint

structure Capture.Alike (c d : Capture) : Prop where
  order : c.order = d.order
  name : c.name = d.name
  constraint : c.constraint.Alike d.constraint

/-- The same segment, with related groups. -/
inductive Segment.Related {γ δ : Type} (R : γ → δ → Prop) : Segment γ → Segment δ → Prop
  | literal (text : List Char) : Related R (.literal text) (.literal text)
  | wildcard (w : Wildcard) : Related R (.wildcard w) (.wildcard w)
  | group {g : γ} {h : δ} (hg : R g h) : Related R (.group g) (.group h)

/-- As many branches, with related segments. -/
inductive Branches.Related {α β : Type} (R : α → β → Prop) : Branches α → Branches β → Prop
  | one {x : α} {y : β} (h : R x y) : Related R (.one x) (.one y)
  | two {left right : α} {left' right' : β} (hl : R left left') (hr : R right right') :
    Related R (.two left right) (.two left' right')

section Resolve

variable {types others : Registry} {γ δ ε : Type}

/-- The constraint of a group, if it is the name of a type. -/
def WrittenGroup.typeName? (g : WrittenGroup) : Option String :=
  g.constraint.filter fun text => !text.toList.all Text.isDigit

lemma Constraint.resolve_same {pos : Nat} {text : Option String}
    (h : ∀ name ∈ text, name.toList.all Text.isDigit = false → types.AgreesOn others name) :
    SameOutcome Constraint.Alike (Constraint.resolve types pos text) (Constraint.resolve others pos text) := by
  cases text with
  | none => exact .ok .free
  | some name =>
    unfold Constraint.resolve
    dsimp only
    split_ifs with hdigits hwidth
    · exact .ok (.width _)
    · exact .error rfl
    · exact (h name rfl (Bool.eq_false_iff.mpr hdigits)).resolve.map fun t u htu => .type htu

lemma Group.resolve_same {g : WrittenGroup} (h : ∀ name ∈ g.typeName?, types.AgreesOn others name) :
    SameOutcome Group.Alike (Group.resolve types g) (Group.resolve others g) := by
  unfold Group.resolve
  split
  · exact .error rfl
  · refine (Constraint.resolve_same fun name hname hdigits => h name ?_).map fun k l hkl => ⟨rfl, hkl⟩
    exact Option.mem_filter_iff.mpr ⟨hname, by rw [hdigits]; rfl⟩

lemma Segment.mapAllM_same {R : δ → ε → Prop} {f : γ → Except Error δ} {g : γ → Except Error ε}
    {segments : List (Segment γ)} (h : ∀ x ∈ Segment.groups segments, SameOutcome R (f x) (g x)) :
    SameOutcome (Forall₂ (Segment.Related R)) (Segment.mapAllM f segments) (Segment.mapAllM g segments) := by
  induction segments with
  | nil => exact .ok .nil
  | cons s rest ih =>
    obtain ⟨hs, hrest⟩ : SameOutcome (Segment.Related R) (s.mapM f) (s.mapM g) ∧
        ∀ x ∈ Segment.groups rest, SameOutcome R (f x) (g x) := by
      cases s with
      | literal text => exact ⟨.ok (.literal text), h⟩
      | wildcard w => exact ⟨.ok (.wildcard w), h⟩
      | group x =>
        obtain ⟨hx, hrest⟩ := List.forall_mem_cons.mp h
        exact ⟨hx.map fun _ _ hg => .group hg, hrest⟩
    exact hs.bind fun t u htu => (ih hrest).bind fun ts us htus => .ok (.cons htu htus)

lemma Written.resolve_same {w : Written} (h : ∀ g ∈ w.groups, ∀ name ∈ g.typeName?, types.AgreesOn others name) :
    SameOutcome (Branches.Related (Forall₂ (Segment.Related Group.Alike))) (Written.resolve types w)
      (Written.resolve others w) := by
  have hbranch : ∀ segments ∈ w.toList, SameOutcome (Forall₂ (Segment.Related Group.Alike))
      (Segment.mapAllM (Group.resolve types) segments) (Segment.mapAllM (Group.resolve others) segments) :=
    fun segments hs => Segment.mapAllM_same fun g hg =>
      Group.resolve_same (h g (List.mem_flatMap.mpr ⟨segments, hs, hg⟩))
  cases w with
  | one only => exact (hbranch only (by simp [Branches.toList])).map fun _ _ hb => .one hb
  | two left right =>
    exact (hbranch left (by simp [Branches.toList])).bind fun _ _ hl =>
      (hbranch right (by simp [Branches.toList])).bind fun _ _ hr => .ok (.two hl hr)

end Resolve

section Compile

variable {ss : List (Segment Group)} {ts : List (Segment Group)} {as bs : List (Segment Capture)}

lemma groups_related {γ δ : Type} {R : γ → δ → Prop} {ss : List (Segment γ)} {ts : List (Segment δ)}
    (h : Forall₂ (Segment.Related R) ss ts) : Forall₂ R (Segment.groups ss) (Segment.groups ts) := by
  induction h with
  | nil => exact .nil
  | cons hs _ ih =>
    cases hs with
    | literal text => exact ih
    | wildcard w => exact ih
    | group hg => exact .cons hg ih

lemma number_related (h : Forall₂ (Segment.Related Group.Alike) ss ts) (n : Nat) :
    Forall₂ (Segment.Related Capture.Alike) (number n ss) (number n ts) := by
  induction h generalizing n with
  | nil => exact .nil
  | cons hs _ ih =>
    cases hs with
    | literal text => exact .cons (.literal text) (ih n)
    | wildcard w => exact .cons (.wildcard w) (ih n)
    | group hg => exact .cons (.group ⟨rfl, hg.name, hg.constraint⟩) (ih (n + 1))

lemma Resolved.number_related {r s : Resolved} (h : Branches.Related (Forall₂ (Segment.Related Group.Alike)) r s) :
    Branches.Related (Forall₂ (Segment.Related Capture.Alike)) r.number s.number := by
  cases h with
  | one h => exact .one (Pattern.number_related h 0)
  | two hl hr =>
    refine .two (Pattern.number_related hl 0) ?_
    rw [(groups_related hl).length_eq]
    exact Pattern.number_related hr _

/-- What is known of a group of a compiled pattern: its place, its names and its converter. -/
def Capture.entry (c : Capture) : Nat × String × Option String × Converter :=
  (c.order, c.id, c.name, c.convert)

lemma Capture.Alike.entry {c d : Capture} (h : c.Alike d) : c.entry = d.entry := by
  obtain ⟨order, name, k⟩ := c
  obtain ⟨order', name', l⟩ := d
  obtain ⟨rfl, rfl, hk⟩ := h
  cases hk with
  | free => rfl
  | width n => rfl
  | type htu => simp [Capture.entry, Capture.id, Capture.convert, htu.converter]

lemma Constraint.Alike.chars {k l : Constraint} (h : k.Alike l) : k.tree.chars = l.tree.chars := by
  cases h with
  | free => rfl
  | width n => rfl
  | type htu => exact String.ofList_injective htu.fragment

lemma Segment.Related.chars {s t : Segment Capture} (h : Segment.Related Capture.Alike s t) (flexible : Bool) :
    Syntax.charsOfAll (s.trees flexible) = Syntax.charsOfAll (t.trees flexible) := by
  cases h with
  | literal text => rfl
  | wildcard w => rfl
  | @group c d h =>
    have hid : c.id = d.id := congrArg (·.2.1) h.entry
    simp only [Segment.trees, Syntax.charsOfAll, Syntax.chars, hid, h.constraint.chars]

lemma chars_branchTree (flexible : Bool) (as : List (Segment Capture)) :
    (branchTree flexible as).chars = as.flatMap fun s => Syntax.charsOfAll (s.trees flexible) := by
  have happend : ∀ xs ys : List Syntax, Syntax.charsOfAll (xs ++ ys) = Syntax.charsOfAll xs ++ Syntax.charsOfAll ys := by
    intro xs ys
    induction xs with
    | nil => rfl
    | cons x xs ih => rw [List.cons_append, Syntax.charsOfAll, Syntax.charsOfAll, ih, List.append_assoc]
  rw [branchTree, Syntax.chars_ofItems]
  induction as with
  | nil => rfl
  | cons s as ih => rw [List.flatMap_cons, happend, ih, List.flatMap_cons]

lemma branchTree_related (h : Forall₂ (Segment.Related Capture.Alike) as bs) (flexible : Bool) :
    (branchTree flexible as).chars = (branchTree flexible bs).chars := by
  rw [chars_branchTree, chars_branchTree]
  induction h with
  | nil => rfl
  | cons hs _ ih => rw [List.flatMap_cons, List.flatMap_cons, hs.chars, ih]

/-- Two compiled patterns with the same regular expression and the same groups. -/
structure Compiled.Alike (c d : Compiled) : Prop where
  regex : c.regex = d.regex
  groups : c.groups.map Capture.entry = d.groups.map Capture.entry

lemma Compiled.alike_of_related {b c : Branches (List (Segment Capture))}
    (h : Branches.Related (Forall₂ (Segment.Related Capture.Alike)) b c) (flexible : Bool) :
    (Compiled.mk b flexible).Alike ⟨c, flexible⟩ := by
  have hentries : ∀ {as bs : List (Segment Capture)}, Forall₂ (Segment.Related Capture.Alike) as bs →
      (Segment.groups as).map Capture.entry = (Segment.groups bs).map Capture.entry := by
    intro as bs hab
    rw [← List.forall₂_eq_eq_eq, List.forall₂_map_left_iff, List.forall₂_map_right_iff]
    exact (groups_related hab).imp fun _ _ hc => hc.entry
  refine ⟨congrArg String.ofList ?_, ?_⟩
  · cases h with
    | one h => exact branchTree_related h flexible
    | two hl hr =>
      simp only [Compiled.tree, Branches.tree, enclosed, Syntax.chars, Syntax.charsBetweenBars, branchTree_related hl,
        branchTree_related hr]
  · cases h with
    | one h => simpa [Compiled.groups, Branches.toList] using hentries h
    | two hl hr => simp [Compiled.groups, Branches.toList, hentries hl, hentries hr]

lemma Resolved.compile_same {r s : Resolved} (h : Branches.Related (Forall₂ (Segment.Related Group.Alike)) r s)
    (flexible : Bool) : SameOutcome Compiled.Alike (r.compile flexible) (s.compile flexible) := by
  have hc := Compiled.alike_of_related (Resolved.number_related h) flexible
  have hnames : (Compiled.groups ⟨r.number, flexible⟩).filterMap (·.name) =
      (Compiled.groups ⟨s.number, flexible⟩).filterMap (·.name) := by
    have hmap := congrArg (List.filterMap (·.2.2.1)) hc.groups
    rwa [List.filterMap_map, List.filterMap_map] at hmap
  unfold Resolved.compile
  dsimp only
  rw [hnames]
  split
  · exact .error rfl
  · exact .ok hc

end Compile

/-- The names of types that a pattern mentions: the constraints of its groups that are no widths. -/
def typeNames (text : String) : List String :=
  match read text with
  | .ok w => w.groups.filterMap WrittenGroup.typeName?
  | .error _ => []

/-- A pattern sees the types that it mentions and no others: where two registries agree on those, it compiles to the
same regular expression and the same groups, or fails with the same error but for the types that are known. So no
registration changes what becomes of a pattern that does not mention its name. -/
theorem compile_sees_mentioned_types (flexible : Bool) (text : String) :
    (∀ types others : Registry, (∀ name ∈ typeNames text, types.AgreesOn others name) →
        SameOutcome Compiled.Alike (compile types flexible text) (compile others flexible text)) ∧
      ∀ (types types' : Registry) (name fragment : String) (converter : Converter) (origin : Nat),
        types.register name fragment converter origin = .ok types' → name ∉ typeNames text →
          SameOutcome Compiled.Alike (compile types' flexible text) (compile types flexible text) := by
  have hsame : ∀ types others : Registry, (∀ name ∈ typeNames text, types.AgreesOn others name) →
      SameOutcome Compiled.Alike (compile types flexible text) (compile others flexible text) := by
    intro types others h
    unfold compile typeNames at *
    cases hread : read text with
    | error e => exact .error rfl
    | ok w =>
      rw [hread] at h
      have hresolve := Written.resolve_same fun g hg name hname => h name (List.mem_filterMap.mpr ⟨g, hg, hname⟩)
      exact hresolve.bind fun r s hrs => Resolved.compile_same hrs flexible
  refine ⟨hsame, fun types types' name fragment converter origin hregister hname => hsame types' types ?_⟩
  exact fun other hother => Registry.agreesOn_of_register hregister fun he => hname (he ▸ hother)

/-- Fragments that are read differently but stored as one text, and a type that the pattern does not mention. -/
theorem compile_sees_mentioned_types_capture : ∃ types types' others c d e,
    Registry.empty.register "t" "(a)" .identity 0 = .ok types ∧ types.register "u" "b" .identity 1 = .ok types' ∧
      Registry.empty.register "t" "(?:a)" .identity 2 = .ok others ∧ compile types' false "[x: t ][:4]" = .ok c ∧
        compile others false "[x: t ][:4]" = .ok d ∧ compile types false "[x: t ][:4]" = .ok e ∧ c.Alike d ∧
          c.Alike e := by
  have hall : (Regex.result? (Registry.empty.register "t" "(a)" .identity 0)).any (fun types =>
      (types.find? "t").any (·.fragment == "(?:a)") &&
        (Regex.result? (compile types false "[x: t ][:4]")).isSome &&
          (Regex.result? (types.register "u" "b" .identity 1)).any fun types' =>
            (Regex.result? (compile types' false "[x: t ][:4]")).isSome) = true := rfl
  have hothers : (Regex.result? (Registry.empty.register "t" "(?:a)" .identity 2)).any (fun others =>
      (others.find? "t").any (·.fragment == "(?:a)") &&
        (Regex.result? (compile others false "[x: t ][:4]")).isSome) = true := rfl
  obtain ⟨types, hr, h⟩ := Regex.any_result?.mp hall
  obtain ⟨others, hr', h'⟩ := Regex.any_result?.mp hothers
  simp only [Bool.and_eq_true, Option.isSome_iff_exists, Regex.result?_eq_some] at h h'
  obtain ⟨⟨hfragment, e, he⟩, hregister⟩ := h
  obtain ⟨hfragment', d, hd⟩ := h'
  obtain ⟨types', hr'', hcompile⟩ := Regex.any_result?.mp hregister
  obtain ⟨c, hc⟩ := Option.isSome_iff_exists.mp hcompile
  have hc := Regex.result?_eq_some.mp hc
  obtain ⟨t, hmake, ht⟩ := Registry.make_of_register hr
  obtain ⟨u, hmake', hu⟩ := Registry.make_of_register hr'
  have halike : t.Alike u := by
    rw [ht, Option.any_some, beq_iff_eq] at hfragment
    rw [hu, Option.any_some, beq_iff_eq] at hfragment'
    obtain ⟨hname, hconverter, -⟩ := GroupType.make_ok hmake
    obtain ⟨hname', hconverter', -⟩ := GroupType.make_ok hmake'
    exact ⟨hname.trans hname'.symm, hfragment.trans hfragment'.symm, hconverter.trans hconverter'.symm⟩
  have hagrees : types'.AgreesOn others "t" := by
    rw [Registry.AgreesOn, Registry.find?_of_register hr'' (by decide), ht, hu]
    exact .some halike
  have hnames : typeNames "[x: t ][:4]" = ["t"] := rfl
  have hsame := (compile_sees_mentioned_types false "[x: t ][:4]").1 types' others (by simpa [hnames] using hagrees)
  have hsame' := (compile_sees_mentioned_types false "[x: t ][:4]").2 types types' _ _ _ _ hr'' (by simp [hnames])
  rw [hc, hd] at hsame
  rw [hc, he] at hsame'
  exact ⟨types, types', others, c, d, e, hr, hr'', hr', hc, hd, he, hsame.of_ok, hsame'.of_ok⟩

end Pattern

end TypedPattern
