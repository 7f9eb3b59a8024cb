import TypedPattern.Proofs.Pattern.Inverse
import TypedPattern.Proofs.Pattern.Ways

/-! Patterns without types as they are written, and what they are resolved to. -/

namespace TypedPattern.Pattern

open List (Forall₂)

/-- The groups of a pattern have a width or no constraint. -/
def Written.Untyped (w : Written) : Prop :=
  ∀ b ∈ w.toList, ∀ g ∈ Segment.groups b, ∀ text ∈ g.constraint, text.toList.all Text.isDigit = true

/-- A segment and what it was resolved to, where it has no type. -/
inductive Resolves : Segment WrittenGroup → Segment Capture → Prop
  | literal (text : List Char) : Resolves (.literal text) (.literal text)
  | wildcard (w : Wildcard) : Resolves (.wildcard w) (.wildcard w)
  | group {g : WrittenGroup} {c : Capture} (name : c.name = g.name) (lengths : c.allows = g.allows)
    (untyped : ∀ t, c.constraint ≠ .type t) : Resolves (.group g) (.group c)

variable {types : Registry} {g : WrittenGroup} {ws ws' : List (Segment WrittenGroup)} {cs cs' : List (Segment Capture)}
  {pieces : List (List Char)}

lemma Group.resolve_untyped (hg : ∀ text ∈ g.constraint, text.toList.all Text.isDigit = true) {h : Group}
    (hr : Group.resolve types g = .ok h) (n : Nat) : Resolves (.group g) (.group ⟨n, h.name, h.constraint⟩) := by
  obtain ⟨hname, -, hc⟩ := Group.resolve_ok hr
  cases hk : g.constraint with
  | none =>
    rw [hk] at hc
    have hfree : Constraint.free = h.constraint := Except.ok.inj hc
    refine .group hname (funext fun k => ?_) fun t ht => ?_
    · rw [WrittenGroup.allows, hk, Capture.allows, ← hfree]
      rfl
    · cases hfree.trans ht
  | some text =>
    have hdigits := hg text hk
    rw [hk, Constraint.resolve, if_pos hdigits] at hc
    split at hc
    · have hwidth : Constraint.width (Text.decimalValue text.toList) = h.constraint := Except.ok.inj hc
      refine .group hname (funext fun k => ?_) fun t ht => ?_
      · rw [WrittenGroup.allows, hk, Capture.allows, ← hwidth]
        rfl
      · cases hwidth.trans ht
    · cases hc

lemma resolves_number (hw : ∀ g ∈ Segment.groups ws, ∀ text ∈ g.constraint, text.toList.all Text.isDigit = true)
    {segments : List (Segment Group)} (h : Segment.mapAllM (Group.resolve types) ws = .ok segments) (n : Nat) :
    Forall₂ Resolves ws (number n segments) := by
  rw [Segment.mapAllM_eq_ok] at h
  induction h generalizing n with
  | nil => exact .nil
  | @cons s t ws segments hs hrest ih =>
    cases s with
    | literal text =>
      obtain rfl := Except.ok.inj hs
      exact .cons (.literal text) (ih hw n)
    | wildcard w =>
      obtain rfl := Except.ok.inj hs
      exact .cons (.wildcard w) (ih hw n)
    | group g =>
      obtain ⟨d, hd, rfl⟩ := Regex.map_eq_ok.mp hs
      have hg := List.forall_mem_cons.mp hw
      exact .cons (Group.resolve_untyped hg.1 hd n) (ih hg.2 (n + 1))

lemma resolves_compile {text : String} {flexible : Bool} {c : Compiled} (h : compile types flexible text = .ok c)
    {w : Written} (hw : read text = .ok w) (hu : w.Untyped) : Forall₂ (Forall₂ Resolves) w.toList c.branches.toList := by
  obtain ⟨raw, resolved, hraw, hres, rfl, -⟩ := compile_ok h
  obtain rfl := Except.ok.inj (hw.symm.trans hraw)
  cases w with
  | one only =>
    obtain ⟨b, hb, rfl⟩ := Regex.map_eq_ok.mp hres
    exact .cons (resolves_number (hu only List.mem_cons_self) hb 0) .nil
  | two left right =>
    obtain ⟨l, hl, hres⟩ := Regex.bind_eq_ok.mp hres
    obtain ⟨r, hr, hres⟩ := Regex.bind_eq_ok.mp hres
    cases hres
    have hleft := hu left List.mem_cons_self
    have hright := hu right (List.mem_cons_of_mem _ (List.mem_singleton_self right))
    exact .cons (resolves_number hleft hl 0) (.cons (resolves_number hright hr _) .nil)

lemma takes_resolves {s : Segment WrittenGroup} {t : Segment Capture} (h : Resolves s t) :
    s.Takes WrittenGroup.allows = t.Takes Capture.allows := by
  cases h with
  | literal text => rfl
  | wildcard w => rfl
  | @group g c _ hlengths _ =>
    funext piece
    rw [Segment.Takes, Segment.Takes, hlengths]

lemma forall₂_takes (h : Forall₂ Resolves ws cs) :
    Forall₂ (Segment.Takes WrittenGroup.allows) ws pieces ↔ Forall₂ (Segment.Takes Capture.allows) cs pieces := by
  induction h generalizing pieces with
  | nil => rw [List.forall₂_nil_left_iff, List.forall₂_nil_left_iff]
  | cons hs _ ih => rw [List.forall₂_cons_left_iff, List.forall₂_cons_left_iff, takes_resolves hs]; simp only [ih]

lemma alike_resolves (h : Forall₂ Resolves ws cs) (h' : Forall₂ Resolves ws' cs') : alike ws ws' = alike cs cs' := by
  induction h generalizing ws' cs' with
  | nil => cases h' <;> rfl
  | cons hs hrest ih =>
    cases h' with
    | nil => cases hs <;> rfl
    | cons hs' hrest' => cases hs <;> cases hs' <;> first | rfl | rw [alike, alike, ih hrest']

lemma common_resolves {w : Written} {c : Branches (List (Segment Capture))}
    (h : Forall₂ (Forall₂ Resolves) w.toList c.toList) :
    w.common = c.common := by
  cases w with
  | one only =>
    cases c with
    | one only' => rfl
    | two left' right' => cases h with | cons _ hrest => cases hrest
  | two left right =>
    cases c with
    | one only' => cases h with | cons _ hrest => cases hrest
    | two left' right' =>
      cases h with
      | cons hleft hrest =>
        cases hrest with
        | cons hright _ =>
          rw [Branches.common, Branches.common, hleft.length_eq, hright.length_eq, alike_resolves hleft hright]

lemma untyped_resolves (h : Forall₂ Resolves ws cs) : Untyped cs := by
  induction h with
  | nil => exact fun c hc => absurd hc List.not_mem_nil
  | cons hs _ ih =>
    intro c hc
    rcases List.mem_cons.mp hc with rfl | hc
    · cases hs with
      | group _ _ huntyped => exact huntyped
    · exact ih c hc

lemma spaced_resolves (h : Forall₂ Resolves ws cs) (hw : SoundBranch ws) : Spaced cs := by
  induction h with
  | nil => exact ⟨fun text ht => absurd ht List.not_mem_nil, .nil⟩
  | @cons s t ws cs hs hrest ih =>
    obtain ⟨hsound, hchain⟩ := hw
    obtain ⟨hhead, htail⟩ := List.isChain_cons.mp hchain
    obtain ⟨hne, hchain⟩ := ih ⟨fun u hu => hsound u (List.mem_cons_of_mem s hu), htail⟩
    have hliteral : ∀ {s t}, Resolves s t → t.IsLiteral → s.IsLiteral := by
      intro s t hs ht
      cases hs <;> exact ht
    refine ⟨fun text ht => ?_, List.isChain_cons.mpr ⟨fun u hu hboth => ?_, hchain⟩⟩
    · rcases List.mem_cons.mp ht with rfl | ht
      · cases hs
        exact hsound _ List.mem_cons_self
      · exact hne text ht
    · cases hrest with
      | nil => cases hu
      | cons hv _ =>
        obtain rfl := Option.some.inj hu
        exact hhead _ rfl ⟨hliteral hs hboth.1, hliteral hv hboth.2⟩

lemma getElem?_resolves {bs : List (List (Segment WrittenGroup))} {cbs : List (List (Segment Capture))}
    (h : Forall₂ (Forall₂ Resolves) bs cbs) (i : Nat) : bs[i]? = none ∧ cbs[i]? = none ∨
      ∃ ws cs, bs[i]? = some ws ∧ cbs[i]? = some cs ∧ Forall₂ Resolves ws cs := by
  induction h generalizing i with
  | nil => exact Or.inl ⟨rfl, rfl⟩
  | @cons ws cs bs cbs hb _ ih =>
    cases i with
    | zero => exact Or.inr ⟨ws, cs, rfl, rfl, hb⟩
    | succ i => exact ih i

/-- The values that the groups of a branch capture in its pieces, with the names of the groups. -/
def texts (segments : List (Segment WrittenGroup)) (pieces : List (List Char)) : List (Option String × Value) :=
  (segments.zip pieces).filterMap fun x => x.1.group?.map fun g => (g.name, .text (String.ofList x.2))

/-- The values of groups without names in branches that were not taken. -/
def absent (branches : List (List (Segment WrittenGroup))) : List Value :=
  ((branches.flatMap Segment.groups).filter (·.name.isNone)).map fun _ => .null

lemma names_resolves (h : Forall₂ Resolves ws cs) :
    (Segment.groups ws).map (·.name) = (Segment.groups cs).map (·.name) := by
  induction h with
  | nil => rfl
  | cons hs _ ih =>
    cases hs with
    | literal text => exact ih
    | wildcard w => exact ih
    | group hname _ _ => exact congrArg₂ List.cons hname.symm ih

end TypedPattern.Pattern
