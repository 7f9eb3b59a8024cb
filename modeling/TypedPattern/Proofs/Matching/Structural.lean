import TypedPattern.Proofs.Matching.Choice
import TypedPattern.Proofs.Reading.Bare

/-! Properties of an expression that it has exactly if all of its sides do. -/

namespace TypedPattern.Regex

namespace Core

/-- A property that a sequence has exactly if both of its sides do. -/
structure Sequential (P : Core → Prop) : Prop where
  empty : P empty
  literal : ∀ cs, P (literal cs)
  seq : ∀ a b, P (seq a b) ↔ P a ∧ P b

namespace Sequential

variable {P : Core → Prop} (h : Sequential P) {xs : List Core} {r : Core}

include h

lemma parts (hr : P r) : ∀ x ∈ r.parts, P x := by
  induction r with
  | empty => exact fun x hx => absurd hx List.not_mem_nil
  | seq a b iha ihb =>
    obtain ⟨ha, hb⟩ := (h.seq a b).mp hr
    intro x hx
    rcases List.mem_append.mp hx with hx | hx
    · exact iha ha x hx
    · exact ihb hb x hx
  | _ => exact fun x hx => List.mem_singleton.mp hx ▸ hr

lemma prepend (hr : P r) (hxs : ∀ x ∈ xs, P x) : ∀ x ∈ prepend r xs, P x := by
  unfold Core.prepend
  split
  · exact List.forall_mem_cons.mpr ⟨h.literal _, fun y hy => hxs y (List.mem_cons_of_mem _ hy)⟩
  · exact List.forall_mem_cons.mpr ⟨hr, hxs⟩

lemma ofParts (hxs : ∀ x ∈ xs, P x) : P (ofParts xs) := by
  have hfold : ∀ (ys : List Core) (y : Core), P y → (∀ z ∈ ys, P z) → P (ys.foldl Core.seq y) := by
    intro ys
    induction ys with
    | nil => exact fun y hy _ => hy
    | cons z zs ih =>
      exact fun y hy hz => ih _ ((h.seq y z).mpr ⟨hy, hz z List.mem_cons_self⟩) fun w hw =>
        hz w (List.mem_cons_of_mem z hw)
  cases xs with
  | nil => exact h.empty
  | cons x xs => exact hfold xs x (hxs x List.mem_cons_self) fun y hy => hxs y (List.mem_cons_of_mem x hy)

lemma concat (hxs : ∀ x ∈ xs, P x) : P (concat xs) := by
  have hparts : ∀ y ∈ xs.flatMap Core.parts, P y := fun y hy => by
    obtain ⟨x, hx, hy⟩ := List.mem_flatMap.mp hy
    exact h.parts (hxs x hx) y hy
  have hjoin : ∀ ys : List Core, (∀ y ∈ ys, P y) → ∀ y ∈ ys.foldr Core.prepend [], P y := by
    intro ys
    induction ys with
    | nil => exact fun _ y hy => absurd hy List.not_mem_nil
    | cons z zs ih =>
      exact fun hz => h.prepend (hz z List.mem_cons_self) (ih fun w hw => hz w (List.mem_cons_of_mem z hw))
  exact h.ofParts (hjoin _ hparts)

end Sequential

/-- A property that a sequence or an alternation has exactly if both of its sides do. -/
structure Structural (P : Core → Prop) : Prop where
  empty : P empty
  literal : ∀ cs, P (literal cs)
  chars : ∀ s, P (chars s)
  seq : ∀ a b, P (seq a b) ↔ P a ∧ P b
  alt : ∀ a b, P (alt a b) ↔ P a ∧ P b
  repetition : ∀ min more greedy body, P body → P (repetition min more greedy body)

namespace Structural

variable {P : Core → Prop} (h : Structural P) {xs : List Core} {r : Core}

lemma sequential (h : Structural P) : Sequential P :=
  ⟨h.empty, h.literal, h.seq⟩

include h

lemma concat (hxs : ∀ x ∈ xs, P x) : P (concat xs) :=
  h.sequential.concat hxs

lemma branches (hr : P r) : ∀ x ∈ r.branches, P x := by
  induction r with
  | alt a b iha ihb =>
    obtain ⟨ha, hb⟩ := (h.alt a b).mp hr
    intro x hx
    rcases List.mem_append.mp hx with hx | hx
    · exact iha ha x hx
    · exact ihb hb x hx
  | _ => exact fun x hx => List.mem_singleton.mp hx ▸ hr

lemma flatMap_branches (hxs : ∀ x ∈ xs, P x) : ∀ x ∈ xs.flatMap Core.branches, P x := by
  intro x hx
  obtain ⟨y, hy, hx⟩ := List.mem_flatMap.mp hx
  exact h.branches (hxs y hy) x hx

lemma ofChars (s : CharSet) : P (ofChars s) := by
  unfold Core.ofChars
  split
  · exact h.literal _
  · exact h.chars s

lemma ofBranches (hxs : ∀ x ∈ xs, P x) : P (ofBranches xs) := by
  induction xs with
  | nil => exact h.chars _
  | cons x xs ih =>
    have hx := hxs x List.mem_cons_self
    cases xs with
    | nil => exact hx
    | cons y ys => exact (h.alt x _).mpr ⟨hx, ih fun z hz => hxs z (List.mem_cons_of_mem x hz)⟩

lemma choose (hxs : ∀ x ∈ xs, P x) : P (choose xs) := by
  unfold Core.choose
  split
  · exact h.chars _
  · exact hxs _ List.mem_cons_self
  · split
    · exact h.ofChars _
    · exact h.ofBranches hxs

lemma factor {front rests : List Core} (hf : factor? xs = some (front, rests)) (hxs : ∀ x ∈ xs, P x) :
    P (Core.concat (front ++ [Core.choose (rests.flatMap Core.branches)])) := by
  unfold factor? at hf
  dsimp only at hf
  split_ifs at hf with h1 h2
  cases hf
  have hbegins : ∀ x ∈ xs, sharedByAll (xs.map Core.parts) <+: x.parts := fun x hx =>
    sharedByAll_begins x.parts (List.mem_map_of_mem hx)
  have hne : xs ≠ [] := by
    rintro rfl
    exact h2 rfl
  obtain ⟨x, hx⟩ := List.exists_mem_of_ne_nil xs hne
  refine h.sequential.concat (List.forall_mem_append.mpr ⟨fun y hy => ?_, List.forall_mem_singleton.mpr ?_⟩)
  · exact h.sequential.parts (hxs x hx) y ((hbegins x hx).subset hy)
  · refine h.choose (h.flatMap_branches fun r hr => ?_)
    obtain ⟨ps, hps, rfl⟩ := List.mem_map.mp hr
    obtain ⟨x, hx, rfl⟩ := List.mem_map.mp hps
    exact h.sequential.concat fun y hy => h.sequential.parts (hxs x hx) y (List.mem_of_mem_drop hy)

lemma alternate (hxs : ∀ x ∈ xs, P x) : P (alternate xs) := by
  have hbranches := h.flatMap_branches hxs
  unfold Core.alternate
  split
  · exact h.chars _
  · rename_i x hx
    exact hbranches x (hx ▸ List.mem_cons_self)
  · split
    · exact h.ofChars _
    · split
      · rename_i front rests hf
        exact h.factor hf hbranches
      · exact h.ofBranches hbranches

lemma repeated (min : Nat) (more : Option Nat) (greedy : Bool) (hr : P r) : P (repeated min more greedy r) := by
  unfold Core.repeated
  split
  rename_i min more _
  split_ifs
  · exact h.empty
  · exact hr
  · exact h.repetition _ _ _ _ hr

lemma of_literal {f : Flags} {l : Literal} (hl : Meaning.literal f l = .ok r) : P r := by
  obtain ⟨c, -, hl⟩ := bind_eq_ok.mp hl
  split_ifs at hl
  · cases hl
    exact h.literal [c]
  · cases hl
  · cases hl
    exact h.ofChars _

lemma of_dot {f : Flags} {span : Span} (hd : Meaning.dot f span = .ok r) : P r := by
  unfold Meaning.dot at hd
  split_ifs at hd <;> cases hd <;> exact h.chars _

end Structural

end Core

end TypedPattern.Regex
