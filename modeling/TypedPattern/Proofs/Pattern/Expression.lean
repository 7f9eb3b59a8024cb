import TypedPattern.Proofs.Fragment
import TypedPattern.Proofs.Matching.Groups
import TypedPattern.Proofs.Pattern.RegexText

/-! What the regular expression of a pattern matches: one part for each segment, and for each character of a literal. -/

namespace TypedPattern

open Regex (Core Syntax)
open Regex.Meaning (expression expressions)

namespace Regex.Core

lemma concat_single {r : Core} (h : r.parts = [r]) : concat [r] = r := by
  have hp : prepend r [] = [r] := by cases r <;> rfl
  rw [concat, List.flatMap_singleton, h, List.foldr_cons, List.foldr_nil, hp]
  rfl

lemma repeated_cases (body : Core) :
    repeated 1 none true body = body ∨ repeated 1 none true body = repetition 1 none true body := by
  unfold repeated
  by_cases hb : body.maxLength = some 0
  · exact Or.inl (by simp [hb])
  · exact Or.inr (by simp [hb])

end Regex.Core

namespace Regex.Meaning

lemma expressions_append {x y : Context} {ss ts : List Syntax} {rs : List Core} :
    expressions x (ss ++ ts) = .ok (rs, y) ↔ ∃ as bs z, expressions x ss = .ok (as, z) ∧
      expressions z ts = .ok (bs, y) ∧ rs = as ++ bs := by
  induction ss generalizing x rs with
  | nil =>
    constructor
    · intro h
      exact ⟨[], rs, x, rfl, h, rfl⟩
    · rintro ⟨as, bs, z, h, h', rfl⟩
      cases h
      exact h'
  | cons s ss ih =>
    constructor
    · intro h
      obtain ⟨⟨r, z⟩, hr, h⟩ := bind_eq_ok.mp h
      obtain ⟨⟨qs, w⟩, hqs, h⟩ := bind_eq_ok.mp h
      cases h
      obtain ⟨as, bs, z', has, hbs, rfl⟩ := ih.mp hqs
      exact ⟨r :: as, bs, z', bind_eq_ok.mpr ⟨_, hr, bind_eq_ok.mpr ⟨_, has, rfl⟩⟩, hbs, rfl⟩
    · rintro ⟨as, bs, z', has, hbs, rfl⟩
      obtain ⟨⟨r, z⟩, hr, h⟩ := bind_eq_ok.mp has
      obtain ⟨⟨qs, w⟩, hqs, h⟩ := bind_eq_ok.mp h
      cases h
      exact bind_eq_ok.mpr ⟨_, hr, bind_eq_ok.mpr ⟨_, ih.mpr ⟨qs, bs, _, hqs, hbs, rfl⟩, rfl⟩⟩

lemma expressions_single {x y : Context} {s : Syntax} {rs : List Core} :
    expressions x [s] = .ok (rs, y) ↔ ∃ r, expression x s = .ok (r, y) ∧ rs = [r] := by
  constructor
  · intro h
    obtain ⟨⟨r, z⟩, hr, h⟩ := bind_eq_ok.mp h
    cases h
    exact ⟨r, hr, rfl⟩
  · rintro ⟨r, hr, rfl⟩
    exact bind_eq_ok.mpr ⟨_, hr, rfl⟩

lemma expression_ofItems {x y : Context} {s : Span} {ss : List Syntax} {r : Core}
    (hparts : ∀ rs z, expressions x ss = .ok (rs, z) → ∀ r ∈ rs, r.parts = [r]) :
    expression x (.ofItems s ss) = .ok (r, y) ↔ ∃ rs, expressions x ss = .ok (rs, y) ∧ r = .concat rs := by
  rcases ss with _ | ⟨t, _ | ⟨u, ss⟩⟩
  · constructor
    · intro h
      cases h
      exact ⟨[], rfl, rfl⟩
    · rintro ⟨rs, h, rfl⟩
      cases h
      rfl
  · rw [Syntax.ofItems]
    constructor
    · intro h
      have hs := expressions_single.mpr ⟨r, h, rfl⟩
      exact ⟨[r], hs, (Core.concat_single (hparts _ _ hs r List.mem_cons_self)).symm⟩
    · rintro ⟨rs, h, rfl⟩
      obtain ⟨q, hq, rfl⟩ := expressions_single.mp h
      rw [Core.concat_single (hparts _ _ h q List.mem_cons_self)]
      exact hq
  · constructor
    · intro h
      obtain ⟨⟨rs, z⟩, hrs, h⟩ := bind_eq_ok.mp h
      cases h
      exact ⟨rs, hrs, rfl⟩
    · rintro ⟨rs, h, rfl⟩
      exact bind_eq_ok.mpr ⟨_, h, rfl⟩

end Regex.Meaning

namespace Pattern

def dotCore : Core :=
  .chars ⟨[⟨0, 0x09⟩, ⟨0x0B, 0x10FFFF⟩]⟩

def charCore (caseInsensitive : Bool) (c : Char) : Core :=
  if caseInsensitive then .ofChars (Regex.Meaning.fold (.standard true) (.singleton c)) else .literal [c]

def literalCore (caseInsensitive flexible : Bool) (c : Char) : Core :=
  if c = ' ' ∧ flexible then .repeated 1 none true (charCore caseInsensitive ' ') else charCore caseInsensitive c

def Wildcard.core : Wildcard → Core
  | any => .repetition 0 none true dotCore
  | one => dotCore
  | maybe => .repetition 0 (some 1) true dotCore

/-- What a group captures; nothing where its type means nothing. -/
def Constraint.core (caseInsensitive : Bool) (k : Constraint) : Core :=
  (Regex.result? (k.tree.meaning caseInsensitive)).getD .never

def Capture.core (caseInsensitive : Bool) (c : Capture) : Core :=
  .capture c.order (c.constraint.core caseInsensitive)

def Segment.cores (caseInsensitive flexible : Bool) : Segment Capture → List Core
  | literal text => text.map (literalCore caseInsensitive flexible)
  | wildcard w => [w.core]
  | group c => [c.core caseInsensitive]

def branchCore (caseInsensitive flexible : Bool) (segments : List (Segment Capture)) : Core :=
  .concat (segments.flatMap (Segment.cores caseInsensitive flexible))

def Branches.core (caseInsensitive flexible : Bool) : Branches (List (Segment Capture)) → Core
  | one only => branchCore caseInsensitive flexible only
  | two left right => .alternate [branchCore caseInsensitive flexible left, branchCore caseInsensitive flexible right]

lemma foldr_prepend_literal {text : List Char} (h : text ≠ []) {xs : List Core}
    (hxs : ∀ cs, xs.head? ≠ some (.literal cs)) :
    ((text.map fun c => Core.literal [c]).foldr Core.prepend xs) = .literal text :: xs := by
  induction text with
  | nil => exact absurd rfl h
  | cons c text ih =>
    rw [List.map_cons, List.foldr_cons]
    by_cases ht : text = []
    · subst ht
      cases xs with
      | nil => rfl
      | cons x xs =>
        have hx := fun cs => hxs cs
        cases x with
        | literal cs => exact absurd rfl (hx cs)
        | _ => rfl
    · rw [ih ht]
      rfl

lemma cores_literal (text : List Char) :
    Segment.cores false false (.literal text) = text.map fun c => Core.literal [c] :=
  List.map_congr_left fun _ _ => if_neg fun hc => Bool.false_ne_true hc.2

/-- The types of all groups mean something. -/
def Meant (caseInsensitive : Bool) (segments : List (Segment Capture)) : Prop :=
  ∀ c ∈ Segment.groups segments, ∃ r, c.constraint.tree.meaning caseInsensitive = .ok r

lemma Constraint.core_eq {caseInsensitive : Bool} {k : Constraint} {r : Core}
    (h : k.tree.meaning caseInsensitive = .ok r) : k.core caseInsensitive = r := by
  rw [Constraint.core, h]
  rfl

variable {caseInsensitive flexible : Bool}

lemma expression_charTree (n : Nat) (c : Char) : expression ⟨.standard caseInsensitive, n⟩ (charTree c) =
    .ok (charCore caseInsensitive c, ⟨.standard caseInsensitive, n⟩) := by
  cases caseInsensitive <;> rfl

lemma expression_literalTree (n : Nat) (c : Char) : expression ⟨.standard caseInsensitive, n⟩ (literalTree flexible c) =
    .ok (literalCore caseInsensitive flexible c, ⟨.standard caseInsensitive, n⟩) := by
  unfold literalTree literalCore
  split
  · exact Regex.bind_eq_ok.mpr ⟨_, expression_charTree n ' ', rfl⟩
  · exact expression_charTree n c

lemma expression_wildcard (n : Nat) (w : Wildcard) : expression ⟨.standard caseInsensitive, n⟩ w.tree =
    .ok (w.core, ⟨.standard caseInsensitive, n⟩) := by
  cases w <;> rfl

lemma expression_group {n : Nat} {c : Capture} {r : Core} {y : Regex.Meaning.Context} :
    expression ⟨.standard caseInsensitive, n⟩ c.tree = .ok (r, y) ↔
      (∃ q, c.constraint.tree.meaning caseInsensitive = .ok q) ∧
        r = .capture n (c.constraint.core caseInsensitive) ∧ y = ⟨.standard caseInsensitive, n + 1⟩ := by
  constructor
  · intro h
    obtain ⟨⟨q, z⟩, hq, h⟩ := Regex.bind_eq_ok.mp h
    cases h
    obtain ⟨hn, -, hzero⟩ := Regex.Meaning.expression_next _ c.constraint.tree_captures hq
    have hmean : c.constraint.tree.meaning caseInsensitive = .ok q := Regex.map_eq_ok.mpr ⟨_, hzero 0, rfl⟩
    rw [Constraint.core_eq hmean]
    exact ⟨⟨q, hmean⟩, rfl, congrArg (Regex.Meaning.Context.mk _) hn⟩
  · rintro ⟨⟨q, hq⟩, rfl, rfl⟩
    rw [Constraint.core_eq hq]
    obtain ⟨⟨q', z⟩, hz, rfl⟩ := Regex.map_eq_ok.mp hq
    obtain ⟨-, -, hnext⟩ := Regex.Meaning.expression_next _ c.constraint.tree_captures hz
    exact Regex.bind_eq_ok.mpr ⟨_, hnext (n + 1), rfl⟩

lemma expressions_literal (n : Nat) (text : List Char) :
    expressions ⟨.standard caseInsensitive, n⟩ (text.map (literalTree flexible)) =
      .ok (text.map (literalCore caseInsensitive flexible), ⟨.standard caseInsensitive, n⟩) := by
  induction text with
  | nil => rfl
  | cons c text ih =>
    exact Regex.bind_eq_ok.mpr ⟨_, expression_literalTree n c, Regex.bind_eq_ok.mpr ⟨_, ih, rfl⟩⟩

lemma expressions_segment {s : Segment Capture} {n : Nat}
    (ho : (Segment.groups [s]).map (·.order) = List.range' n (Segment.groups [s]).length)
    {rs : List Core} {y : Regex.Meaning.Context} :
    expressions ⟨.standard caseInsensitive, n⟩ (s.trees flexible) = .ok (rs, y) ↔
      Meant caseInsensitive [s] ∧ rs = s.cores caseInsensitive flexible ∧
        y = ⟨.standard caseInsensitive, n + (Segment.groups [s]).length⟩ := by
  have hplain : ∀ {cores : List Core}, Segment.groups [s] = [] →
      expressions ⟨.standard caseInsensitive, n⟩ (s.trees flexible) = .ok (cores, ⟨.standard caseInsensitive, n⟩) →
      (expressions ⟨.standard caseInsensitive, n⟩ (s.trees flexible) = .ok (rs, y) ↔
        Meant caseInsensitive [s] ∧ rs = cores ∧ y = ⟨.standard caseInsensitive, n + (Segment.groups [s]).length⟩) := by
    intro cores hgroups hs
    rw [hs, Meant, hgroups]
    simp [eq_comm]
  cases s with
  | literal text => exact hplain rfl (expressions_literal n text)
  | wildcard w => exact hplain rfl (Regex.Meaning.expressions_single.mpr ⟨_, expression_wildcard n w, rfl⟩)
  | group c =>
    have hc : c.order = n := (List.cons.inj ho).1
    have hmeant : Meant caseInsensitive [.group c] ↔ ∃ q, c.constraint.tree.meaning caseInsensitive = .ok q :=
      List.forall_mem_singleton
    rw [hmeant, Segment.cores, Capture.core, hc]
    constructor
    · intro h
      obtain ⟨r, hr, rfl⟩ := Regex.Meaning.expressions_single.mp h
      obtain ⟨hq, rfl, rfl⟩ := expression_group.mp hr
      exact ⟨hq, rfl, rfl⟩
    · rintro ⟨hq, rfl, rfl⟩
      exact Regex.Meaning.expressions_single.mpr ⟨_, expression_group.mpr ⟨hq, rfl, rfl⟩, rfl⟩

lemma expressions_branch {segments : List (Segment Capture)} {n : Nat}
    (ho : (Segment.groups segments).map (·.order) = List.range' n (Segment.groups segments).length)
    {rs : List Core} {y : Regex.Meaning.Context} :
    expressions ⟨.standard caseInsensitive, n⟩ (segments.flatMap (Segment.trees flexible)) = .ok (rs, y) ↔
      Meant caseInsensitive segments ∧ rs = segments.flatMap (Segment.cores caseInsensitive flexible) ∧
        y = ⟨.standard caseInsensitive, n + (Segment.groups segments).length⟩ := by
  induction segments generalizing n rs y with
  | nil =>
    constructor
    · intro h
      cases h
      exact ⟨fun c hc => (nomatch hc), rfl, rfl⟩
    · rintro ⟨-, rfl, rfl⟩
      rfl
  | cons s rest ih =>
    have hgroups : Segment.groups (s :: rest) = Segment.groups [s] ++ Segment.groups rest :=
      @List.filterMap_append _ _ [s] rest _
    have hmeant : Meant caseInsensitive (s :: rest) ↔ Meant caseInsensitive [s] ∧ Meant caseInsensitive rest := by
      rw [Meant, hgroups, List.forall_mem_append]
      rfl
    rw [hgroups, List.map_append, List.length_append, ← List.range'_append_1] at ho
    obtain ⟨hfirst, hrest⟩ := List.append_inj ho (by simp)
    rw [List.flatMap_cons, List.flatMap_cons, Regex.Meaning.expressions_append, hmeant, hgroups, List.length_append,
      ← Nat.add_assoc]
    constructor
    · rintro ⟨as, bs, z, has, hbs, rfl⟩
      obtain ⟨hs, rfl, rfl⟩ := (expressions_segment hfirst).mp has
      obtain ⟨hm, rfl, rfl⟩ := (ih hrest).mp hbs
      exact ⟨⟨hs, hm⟩, rfl, rfl⟩
    · rintro ⟨⟨hs, hm⟩, rfl, rfl⟩
      exact ⟨_, _, _, (expressions_segment hfirst).mpr ⟨hs, rfl, rfl⟩, (ih hrest).mpr ⟨hm, rfl, rfl⟩, rfl⟩

lemma charCore_cases (caseInsensitive : Bool) (c : Char) :
    (∃ cs, charCore caseInsensitive c = .literal cs) ∨ ∃ s, charCore caseInsensitive c = .chars s := by
  unfold charCore Core.ofChars
  cases caseInsensitive with
  | false => exact Or.inl ⟨_, rfl⟩
  | true =>
    rw [if_pos rfl]
    split
    · exact Or.inl ⟨_, rfl⟩
    · exact Or.inr ⟨_, rfl⟩

lemma literalCore_cases (caseInsensitive flexible : Bool) (c : Char) :
    (∃ cs, literalCore caseInsensitive flexible c = .literal cs) ∨
      (∃ s, literalCore caseInsensitive flexible c = .chars s) ∨
        ∃ body, literalCore caseInsensitive flexible c = .repetition 1 none true body := by
  have hchar := charCore_cases caseInsensitive
  unfold literalCore
  split
  · rcases Core.repeated_cases (charCore caseInsensitive ' ') with h | h
    · rw [h]
      exact (hchar ' ').imp_right Or.inl
    · exact Or.inr (Or.inr ⟨_, h⟩)
  · exact (hchar c).imp_right Or.inl

lemma structural_literalCore {P : Core → Prop} (h : Core.Structural P) (c : Char) :
    P (literalCore caseInsensitive flexible c) := by
  have hchar : ∀ c, P (charCore caseInsensitive c) := by
    intro c
    cases caseInsensitive with
    | false => exact h.literal [c]
    | true => exact h.ofChars _
  unfold literalCore
  split
  · exact h.repeated 1 none true (hchar ' ')
  · exact hchar c

lemma structural_wildcard {P : Core → Prop} (h : Core.Structural P) (w : Wildcard) : P w.core := by
  cases w with
  | any => exact h.repetition 0 none true dotCore (h.chars _)
  | one => exact h.chars _
  | maybe => exact h.repetition 0 (some 1) true dotCore (h.chars _)

lemma forall_cores {P : Core → Prop} {segments : List (Segment Capture)}
    (hchar : ∀ c, P (literalCore caseInsensitive flexible c)) (hwildcard : ∀ w : Wildcard, P w.core)
    (hgroup : ∀ g ∈ Segment.groups segments, P (g.core caseInsensitive)) :
    ∀ r ∈ segments.flatMap (Segment.cores caseInsensitive flexible), P r := by
  intro r hr
  obtain ⟨s, hs, hr⟩ := List.mem_flatMap.mp hr
  cases s with
  | literal text =>
    obtain ⟨c, -, rfl⟩ := List.mem_map.mp hr
    exact hchar c
  | wildcard w => exact List.mem_singleton.mp hr ▸ hwildcard w
  | group g => exact List.mem_singleton.mp hr ▸ hgroup g (mem_groups.mpr hs)

lemma parts_cores {segments : List (Segment Capture)} :
    ∀ r ∈ segments.flatMap (Segment.cores caseInsensitive flexible), r.parts = [r] := by
  refine forall_cores (fun c => ?_) (fun w => ?_) fun g _ => rfl
  · rcases literalCore_cases caseInsensitive flexible c with ⟨cs, h⟩ | ⟨s, h⟩ | ⟨body, h⟩ <;> rw [h] <;> rfl
  · cases w <;> rfl

lemma expression_branch {segments : List (Segment Capture)} {n : Nat}
    (ho : (Segment.groups segments).map (·.order) = List.range' n (Segment.groups segments).length)
    {r : Core} {y : Regex.Meaning.Context} :
    expression ⟨.standard caseInsensitive, n⟩ (branchTree flexible segments) = .ok (r, y) ↔
      Meant caseInsensitive segments ∧ r = branchCore caseInsensitive flexible segments ∧
        y = ⟨.standard caseInsensitive, n + (Segment.groups segments).length⟩ := by
  rw [branchTree, Regex.Meaning.expression_ofItems fun rs z h => by
    obtain ⟨-, rfl, -⟩ := (expressions_branch ho).mp h
    exact parts_cores]
  constructor
  · rintro ⟨rs, h, rfl⟩
    obtain ⟨hm, rfl, hy⟩ := (expressions_branch ho).mp h
    exact ⟨hm, rfl, hy⟩
  · rintro ⟨hm, rfl, hy⟩
    exact ⟨_, (expressions_branch ho).mpr ⟨hm, rfl, hy⟩, rfl⟩

/-- The groups of the branches are numbered one branch after the other. -/
def Branches.Ordered : Branches (List (Segment Capture)) → Prop
  | one only => (Segment.groups only).map (·.order) = List.range' 0 (Segment.groups only).length
  | two left right =>
    (Segment.groups left).map (·.order) = List.range' 0 (Segment.groups left).length ∧
      (Segment.groups right).map (·.order) = List.range' (Segment.groups left).length (Segment.groups right).length

lemma Branches.Ordered.apart {left right : List (Segment Capture)} (h : (Branches.two left right).Ordered) :
    ∀ c ∈ Segment.groups left, ∀ d ∈ Segment.groups right, c.order ≠ d.order := by
  intro c hc d hd he
  have hc' : c.order ∈ (Segment.groups left).map (·.order) := List.mem_map_of_mem hc
  have hd' : d.order ∈ (Segment.groups right).map (·.order) := List.mem_map_of_mem hd
  rw [h.1, List.mem_range'_1] at hc'
  rw [h.2, List.mem_range'_1] at hd'
  omega

lemma Compiled.Sound.ordered {c : Compiled} (h : c.Sound) : c.branches.Ordered := by
  have ho : (c.branches.toList.flatMap Segment.groups).map (·.order) =
      List.range (c.branches.toList.flatMap Segment.groups).length := h.orders
  cases hb : c.branches with
  | one only =>
    simp only [hb, Branches.toList, List.flatMap_cons, List.flatMap_nil, List.append_nil] at ho
    exact ho.trans (List.range_eq_range' ..)
  | two left right =>
    simp only [hb, Branches.toList, List.flatMap_cons, List.flatMap_nil, List.append_nil, List.map_append,
      List.length_append, List.range_eq_range', ← List.range'_append_1, Nat.zero_add] at ho
    exact List.append_inj ho (by simp)

lemma expression_enclosed {n : Nat} {t : Syntax} {r : Core} {y : Regex.Meaning.Context} :
    expression ⟨.standard caseInsensitive, n⟩ (enclosed t) = .ok (r, y) ↔
      ∃ z, expression ⟨.standard caseInsensitive, n⟩ t = .ok (r, z) ∧ y = ⟨.standard caseInsensitive, z.next⟩ := by
  constructor
  · intro h
    obtain ⟨⟨q, z⟩, hq, h⟩ := Regex.bind_eq_ok.mp h
    cases h
    exact ⟨z, hq, rfl⟩
  · rintro ⟨z, hq, rfl⟩
    exact Regex.bind_eq_ok.mpr ⟨_, hq, rfl⟩

/-- What a pattern means, if the types of its groups mean something. -/
lemma meaning_tree {b : Branches (List (Segment Capture))} (ho : b.Ordered) {r : Core} :
    (b.tree flexible).meaning caseInsensitive = .ok r ↔
      (∀ segments ∈ b.toList, Meant caseInsensitive segments) ∧ r = b.core caseInsensitive flexible := by
  cases b with
  | one only =>
    have hone := fun y => @expression_branch caseInsensitive flexible only 0 ho r y
    simp only [Branches.toList, List.forall_mem_singleton]
    constructor
    · intro h
      obtain ⟨⟨q, y⟩, hq, rfl⟩ := Regex.map_eq_ok.mp h
      obtain ⟨hm, hr, -⟩ := (hone y).mp hq
      exact ⟨hm, hr⟩
    · rintro ⟨hm, hr⟩
      exact Regex.map_eq_ok.mpr ⟨_, (hone _).mpr ⟨hm, hr, rfl⟩, rfl⟩
  | two left right =>
    obtain ⟨hleft, hright⟩ := ho
    rw [← Nat.zero_add (Segment.groups left).length] at hright
    simp only [Branches.toList, List.forall_mem_cons, List.not_mem_nil, false_implies, implies_true, and_true]
    constructor
    · intro h
      obtain ⟨⟨q, y⟩, hq, rfl⟩ := Regex.map_eq_ok.mp h
      obtain ⟨⟨rs, z⟩, hrs, hq⟩ := Regex.bind_eq_ok.mp hq
      cases hq
      obtain ⟨as, bs, w, has, hbs, rfl⟩ := (@Regex.Meaning.expressions_append _ _ [_] _ _).mp hrs
      obtain ⟨a, ha, rfl⟩ := Regex.Meaning.expressions_single.mp has
      obtain ⟨b, hb, rfl⟩ := Regex.Meaning.expressions_single.mp hbs
      obtain ⟨za, hleft', rfl⟩ := expression_enclosed.mp ha
      obtain ⟨hma, rfl, rfl⟩ := (expression_branch hleft).mp hleft'
      obtain ⟨zb, hright', -⟩ := expression_enclosed.mp hb
      obtain ⟨hmb, rfl, -⟩ := (expression_branch hright).mp hright'
      exact ⟨⟨hma, hmb⟩, rfl⟩
    · rintro ⟨⟨hma, hmb⟩, rfl⟩
      have ha := expression_enclosed.mpr ⟨_, (@expression_branch _ flexible _ _ hleft _ _).mpr ⟨hma, rfl, rfl⟩, rfl⟩
      have hb := expression_enclosed.mpr ⟨_, (@expression_branch _ flexible _ _ hright _ _).mpr ⟨hmb, rfl, rfl⟩, rfl⟩
      have hrs := (@Regex.Meaning.expressions_append _ _ [_] _ _).mpr ⟨_, _, _,
        Regex.Meaning.expressions_single.mpr ⟨_, ha, rfl⟩, Regex.Meaning.expressions_single.mpr ⟨_, hb, rfl⟩, rfl⟩
      exact Regex.map_eq_ok.mpr ⟨_, Regex.bind_eq_ok.mpr ⟨_, hrs, rfl⟩, rfl⟩

end Pattern

namespace Matcher

variable {types : Registry} {config : Pattern.Config} {pattern : String} {m : Matcher}

lemma sound_of_make (h : make types config pattern = .ok m) : m.compiled.Sound :=
  Pattern.sound_of_compile (compile_of_make h)

lemma flexible_of_make (h : make types config pattern = .ok m) : m.compiled.flexibleSpaces = config.flexibleSpaces := by
  obtain ⟨raw, resolved, -, -, hc, -⟩ := Pattern.compile_ok (compile_of_make h)
  rw [hc]

/-- The expression and the group names of a matcher whose fragments can be told apart. -/
theorem bare_of_make (h : make types config pattern = .ok m) (hl : m.compiled.Legible) :
    m.bare.core = m.compiled.branches.core (!config.caseSensitive) config.flexibleSpaces ∧
      (∀ segments ∈ m.compiled.branches.toList, Pattern.Meant (!config.caseSensitive) segments) ∧
        m.bare.names = m.groups.map fun g => some g.id.toList := by
  have hs := sound_of_make h
  have hmean := meaning_of_legible h hs.written_tree hl.tree hs.names_nodup
  rw [Pattern.Compiled.tree, flexible_of_make h, Pattern.meaning_tree hs.ordered] at hmean
  refine ⟨hmean.2, hmean.1, ?_⟩
  obtain ⟨tree, hread, -, hnames⟩ := Regex.Program.ofText_ok (make_ok h).1
  obtain ⟨tree', hb, hread' | ⟨-, span, hread'⟩⟩ := Pattern.Compiled.read_regex hs hl
  · cases hread.symm.trans hread'
    rw [hnames, ← Syntax.captures_bare, hb, Syntax.captures_bare, Pattern.Compiled.captures_tree]
    rfl
  · cases hread.symm.trans hread'

end Matcher

end TypedPattern
