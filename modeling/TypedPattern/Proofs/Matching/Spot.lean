import TypedPattern.Regex.Matching
import TypedPattern.Proofs.Text.Bytes

/-! Where a point stands in a text, apart from how it was reached. -/

namespace TypedPattern.Regex

open Text (byteLength)

structure Spot where
  prev : Option Char
  rest : List Char
  deriving DecidableEq

namespace Point

def spot (p : Point) : Spot :=
  ⟨p.prev, p.rest⟩

/-- The point is one of a text. -/
def On (text : List Char) (p : Point) : Prop :=
  ∃ before, text = before ++ p.rest ∧ p.pos = byteLength before ∧ p.prev = before.getLast?

@[simp] lemma spot_fresh (pos : Nat) (prev : Option Char) (rest : List Char) :
    (fresh pos prev rest).spot = ⟨prev, rest⟩ := rfl

@[simp] lemma spot_mark (p : Point) (choice : Path) : (p.mark choice).spot = p.spot := rfl

@[simp] lemma pos_mark (p : Point) (choice : Path) : (p.mark choice).pos = p.pos := rfl

@[simp] lemma trail_mark (p : Point) (choice : Path) : (p.mark choice).trail = choice :: p.trail := rfl

@[simp] lemma spot_begin (p : Point) (index : Nat) : (p.begin index).spot = p.spot := rfl

@[simp] lemma trail_begin (p : Point) (index : Nat) : (p.begin index).trail = p.trail := rfl

@[simp] lemma spot_finish (p : Point) : p.finish.spot = p.spot := by
  unfold finish
  split <;> rfl

@[simp] lemma trail_finish (p : Point) : p.finish.trail = p.trail := by
  unfold finish
  split <;> rfl

@[simp] lemma pos_finish (p : Point) : p.finish.pos = p.pos := by
  unfold finish
  split <;> rfl

variable {text : List Char} {p q : Point}

lemma On.of_spot (h : p.On text) (hp : q.pos = p.pos) (hs : q.spot = p.spot) : q.On text := by
  obtain ⟨before, h1, h2, h3⟩ := h
  obtain ⟨hprev, hrest⟩ := Spot.mk.inj hs
  exact ⟨before, hrest ▸ h1, hp.trans h2, hprev.trans h3⟩

lemma On.mark (h : p.On text) (choice : Path) : (p.mark choice).On text :=
  h.of_spot rfl rfl

lemma On.begin (h : p.On text) (index : Nat) : (p.begin index).On text :=
  h.of_spot rfl rfl

lemma On.finish (h : p.On text) : p.finish.On text :=
  h.of_spot p.pos_finish p.spot_finish

lemma On.single (h : p.On text) : ∀ q ∈ [p], q.On text :=
  List.forall_mem_singleton.mpr h

lemma on_ofText (text : List Char) : (ofText text).On text :=
  ⟨[], rfl, rfl, rfl⟩

lemma On.spot_eq (hp : p.On text) (hq : q.On text) (h : p.pos = q.pos) : p.spot = q.spot := by
  obtain ⟨a, ha, hpa, hpp⟩ := hp
  obtain ⟨b, hb, hqb, hqp⟩ := hq
  have hab : byteLength a = byteLength b := by omega
  have hpr : p.rest = q.rest := by
    have h1 : Text.dropBytes (byteLength a) text = some p.rest := ha ▸ Text.dropBytes_append a p.rest
    have h2 : Text.dropBytes (byteLength b) text = some q.rest := hb ▸ Text.dropBytes_append b q.rest
    rw [hab, h2] at h1
    exact (Option.some.inj h1).symm
  have hab' : a = b := by
    rw [hb, hpr] at ha
    exact (List.append_cancel_right ha).symm
  rw [spot, spot, hpr, hpp, hqp, hab']

lemma On.pos_eq (hp : p.On text) (hq : q.On text) (h : p.rest = q.rest) : p.pos = q.pos := by
  obtain ⟨a, ha, hpa, -⟩ := hp
  obtain ⟨b, hb, hqb, -⟩ := hq
  have hab : a = b := by
    rw [hb, h] at ha
    exact (List.append_cancel_right ha).symm
  rw [hpa, hqb, hab]

lemma next?_eq_some {accepts : Char → Bool} :
    p.next? accepts = some q ↔
      ∃ c rest, p.rest = c :: rest ∧ accepts c = true ∧ q = ⟨p.pos + c.utf8Size, some c, rest, [], p.opened, p.groups⟩ := by
  unfold next?
  cases h : p.rest with
  | nil => simp
  | cons c rest =>
    by_cases ha : accepts c = true
    · simp only [ha, if_true, Option.some.injEq, List.cons.injEq]
      constructor
      · rintro rfl
        exact ⟨c, rest, ⟨rfl, rfl⟩, ha, rfl⟩
      · rintro ⟨c', rest', ⟨rfl, rfl⟩, -, rfl⟩
        rfl
    · simp only [ha]
      constructor
      · intro hn
        cases hn
      · rintro ⟨c', rest', hc, ha', -⟩
        obtain ⟨rfl, rfl⟩ := List.cons.inj hc
        exact absurd ha' ha

lemma On.next? (hp : p.On text) {accepts : Char → Bool} (h : p.next? accepts = some q) : q.On text := by
  obtain ⟨c, rest, hr, -, rfl⟩ := next?_eq_some.mp h
  obtain ⟨before, ht, hpos, -⟩ := hp
  exact ⟨before ++ [c], by simp [ht, hr], by simp [hpos, Text.byteLength], by simp⟩

lemma On.literal? {cs : List Char} (hp : p.On text) (h : p.literal? cs = some q) : q.On text := by
  induction cs generalizing p with
  | nil =>
    cases h
    exact hp
  | cons c cs ih =>
    obtain ⟨m, hm, hq⟩ := Option.bind_eq_some_iff.mp h
    exact ih (hp.next? hm) hq

lemma on_fresh {before rest : List Char} : (fresh (byteLength before) before.getLast? rest).On (before ++ rest) :=
  ⟨before, rfl, rfl, rfl⟩

lemma mem_onwards_go {before : List Char} {rest : List Char} :
    q ∈ onwards.go (byteLength before) before.getLast? rest ↔
      ∃ passed behind, rest = passed ++ behind ∧
        q = fresh (byteLength (before ++ passed)) (before ++ passed).getLast? behind := by
  induction rest generalizing before with
  | nil =>
    simp only [onwards.go, List.mem_singleton]
    constructor
    · rintro rfl
      exact ⟨[], [], rfl, by simp⟩
    · rintro ⟨passed, behind, h, rfl⟩
      obtain ⟨rfl, rfl⟩ := List.append_eq_nil_iff.mp h.symm
      simp
  | cons c rest ih =>
    have hb : byteLength before + c.utf8Size = byteLength (before ++ [c]) := by simp [Text.byteLength]
    have hl : some c = (before ++ [c]).getLast? := by simp
    rw [onwards.go, List.mem_cons, hb, hl, ih]
    constructor
    · rintro (rfl | ⟨passed, behind, rfl, rfl⟩)
      · exact ⟨[], c :: rest, rfl, by simp⟩
      · exact ⟨c :: passed, behind, rfl, by simp⟩
    · rintro ⟨passed, behind, h, rfl⟩
      rcases passed with _ | ⟨d, passed⟩
      · obtain rfl : behind = c :: rest := h.symm
        exact Or.inl (by simp)
      · obtain ⟨rfl, rfl⟩ := List.cons.inj h
        exact Or.inr ⟨passed, behind, rfl, by simp⟩

/-- The points of a text are its cuts in two. -/
lemma mem_onwards_ofText :
    q ∈ (ofText text).onwards ↔
      ∃ before rest, text = before ++ rest ∧ q = fresh (byteLength before) before.getLast? rest := by
  have h := @mem_onwards_go q [] text
  simp only [List.nil_append] at h
  exact h

end Point

section Distinct

variable {ps : List Point} {p : Point}

lemma mem_of_mem_distinct_go {seen : Nat} (h : p ∈ distinct.go seen ps) : p ∈ ps := by
  induction ps generalizing seen with
  | nil => simp [distinct.go] at h
  | cons q rest ih =>
    rw [distinct.go] at h
    split at h
    · exact List.mem_cons_of_mem _ (ih h)
    · rcases List.mem_cons.mp h with rfl | h
      · exact List.mem_cons_self
      · exact List.mem_cons_of_mem _ (ih h)

lemma mem_of_mem_distinct (h : p ∈ distinct ps) : p ∈ ps :=
  mem_of_mem_distinct_go h

lemma testBit_or_shift (m i j : Nat) : (m ||| 1 <<< i).testBit j = (m.testBit j || decide (i = j)) := by
  rw [Nat.testBit_or, Nat.one_shiftLeft, Nat.testBit_two_pow]

lemma exists_mem_distinct_go (seen : Nat) (h : p ∈ ps) :
    seen.testBit p.pos = true ∨ ∃ q ∈ distinct.go seen ps, q.pos = p.pos := by
  induction ps generalizing seen with
  | nil => cases h
  | cons q rest ih =>
    rw [distinct.go]
    by_cases hq : seen.testBit q.pos = true
    · rw [if_pos hq]
      rcases List.mem_cons.mp h with rfl | h
      · exact Or.inl hq
      · exact ih seen h
    · rw [if_neg hq]
      rcases List.mem_cons.mp h with rfl | h
      · exact Or.inr ⟨_, List.mem_cons_self, rfl⟩
      · rcases ih (seen ||| 1 <<< q.pos) h with hs | ⟨q', hq', hpos⟩
        · rw [testBit_or_shift, Bool.or_eq_true, decide_eq_true_eq] at hs
          rcases hs with hs | hs
          · exact Or.inl hs
          · exact Or.inr ⟨q, List.mem_cons_self, hs⟩
        · exact Or.inr ⟨q', List.mem_cons_of_mem _ hq', hpos⟩

lemma exists_mem_distinct (h : p ∈ ps) : ∃ q ∈ distinct ps, q.pos = p.pos := by
  rcases exists_mem_distinct_go 0 h with h | h
  · simp at h
  · exact h

end Distinct

end TypedPattern.Regex
