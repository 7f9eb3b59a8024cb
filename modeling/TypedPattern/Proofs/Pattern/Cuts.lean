import TypedPattern.Proofs.Matching.Repeating
import TypedPattern.Proofs.Pattern.Rendering
import TypedPattern.Pattern.Resolved

/-! Texts decomposed into pieces, one for each segment of a branch, and the order in which that is tried. -/

namespace TypedPattern.Pattern

open List (Forall₂)

/-- The lengths of what a wildcard takes. -/
def Wildcard.allows : Wildcard → Nat → Bool
  | any, _ => true
  | one, n => n == 1
  | maybe, n => decide (n ≤ 1)

/-- The lengths of what a group takes that has a width or no constraint. -/
def WrittenGroup.allows (g : WrittenGroup) (n : Nat) : Bool :=
  g.constraint.all fun text => n == Text.decimalValue text.toList

def Constraint.allows : Constraint → Nat → Bool
  | free, _ => true
  | width k, n => n == k
  | type _, _ => false

/-- A piece is behind another one if it is shorter, and so are pieces where the first difference is such. -/
def Longer : List (List Char) → List (List Char) → Prop :=
  List.Lex fun a b => b.length < a.length

section

variable {γ : Type} (allows : γ → Nat → Bool)

/-- What a segment takes. -/
def Segment.Takes : Segment γ → List Char → Prop
  | literal text, piece => piece = text
  | wildcard w, piece => '\n' ∉ piece ∧ w.allows piece.length = true
  | group g, piece => '\n' ∉ piece ∧ allows g piece.length = true

/-- The pieces that a segment takes from the front of a text, the longest one first. -/
def Segment.pieces : Segment γ → List Char → List (List Char)
  | literal text, cs => if text <+: cs then [text] else []
  | wildcard w, cs => Regex.pieces (· != '\n') w.allows cs
  | group g, cs => Regex.pieces (· != '\n') (allows g) cs

/-- The ways to cut pieces off a text, one for each segment. -/
def cuts : List (Segment γ) → List Char → List (List (List Char))
  | [], _ => [[]]
  | s :: rest, cs =>
    (s.pieces allows cs).flatMap fun piece => (cuts rest (cs.drop piece.length)).map (piece :: ·)

variable {allows}

lemma mem_pieces_line {lengths : Nat → Bool} {cs piece : List Char} :
    piece ∈ Regex.pieces (· != '\n') lengths cs ↔ piece <+: cs ∧ '\n' ∉ piece ∧ lengths piece.length = true := by
  have hline : piece.all (· != '\n') = true ↔ '\n' ∉ piece := by
    rw [List.all_eq_true]
    exact ⟨fun h hn => absurd (h _ hn) (by decide), fun h c hc => bne_iff_ne.mpr fun he => h (he ▸ hc)⟩
  rw [Regex.mem_pieces, hline]

lemma Segment.mem_pieces {s : Segment γ} {cs piece : List Char} :
    piece ∈ s.pieces allows cs ↔ piece <+: cs ∧ s.Takes allows piece := by
  cases s with
  | literal text =>
    rw [Segment.pieces, Segment.Takes]
    split
    · rename_i h
      rw [List.mem_singleton]
      exact ⟨fun he => ⟨he ▸ h, he⟩, fun he => he.2⟩
    · rename_i h
      refine iff_of_false List.not_mem_nil ?_
      rintro ⟨hpre, rfl⟩
      exact h hpre
  | wildcard w => exact mem_pieces_line
  | group g => exact mem_pieces_line

lemma Segment.pairwise_pieces (s : Segment γ) (cs : List Char) :
    (s.pieces allows cs).Pairwise fun a b => b.length < a.length := by
  cases s with
  | literal text =>
    rw [Segment.pieces]
    split
    · exact List.pairwise_singleton _ _
    · exact .nil
  | wildcard w => exact Regex.pairwise_pieces cs
  | group g => exact Regex.pairwise_pieces cs

lemma append_prefix {a b cs : List Char} : a ++ b <+: cs ↔ a <+: cs ∧ b <+: cs.drop a.length := by
  constructor
  · rintro ⟨rest, rfl⟩
    refine ⟨⟨b ++ rest, (List.append_assoc a b rest).symm⟩, ?_⟩
    rw [List.append_assoc, List.drop_left]
    exact List.prefix_append b rest
  · rintro ⟨⟨rest, rfl⟩, h⟩
    rw [List.drop_left] at h
    exact (List.prefix_append_right_inj a).mpr h

lemma mem_cuts {segments : List (Segment γ)} {cs : List Char} {pieces : List (List Char)} :
    pieces ∈ cuts allows segments cs ↔ Forall₂ (Segment.Takes allows) segments pieces ∧ pieces.flatten <+: cs := by
  induction segments generalizing cs pieces with
  | nil =>
    rw [cuts, List.mem_singleton, List.forall₂_nil_left_iff]
    exact ⟨fun h => ⟨h, h ▸ List.nil_prefix⟩, fun h => h.1⟩
  | cons s rest ih =>
    simp only [cuts, List.mem_flatMap, List.mem_map, Segment.mem_pieces, ih]
    constructor
    · rintro ⟨piece, ⟨hpre, htakes⟩, more, ⟨hall, hmore⟩, rfl⟩
      exact ⟨.cons htakes hall, append_prefix.mpr ⟨hpre, hmore⟩⟩
    · rintro ⟨h, hflat⟩
      cases h with
      | @cons _ piece _ more htakes hall =>
        obtain ⟨hpre, hmore⟩ := append_prefix.mp hflat
        exact ⟨piece, ⟨hpre, htakes⟩, more, ⟨hall, hmore⟩, rfl⟩

lemma pairwise_cuts (segments : List (Segment γ)) (cs : List Char) : (cuts allows segments cs).Pairwise Longer := by
  induction segments generalizing cs with
  | nil => exact List.pairwise_singleton _ _
  | cons s rest ih =>
    rw [cuts, List.pairwise_flatMap]
    refine ⟨fun piece _ => List.pairwise_map.mpr ((ih _).imp .cons), (s.pairwise_pieces cs).imp ?_⟩
    intro a b hab x hx y hy
    obtain ⟨x, -, rfl⟩ := List.mem_map.mp hx
    obtain ⟨y, -, rfl⟩ := List.mem_map.mp hy
    exact .rel hab

lemma cuts_append (a b : List (Segment γ)) (cs : List Char) : cuts allows (a ++ b) cs =
    (cuts allows a cs).flatMap fun front => (cuts allows b (cs.drop front.flatten.length)).map (front ++ ·) := by
  induction a generalizing cs with
  | nil =>
    rw [List.nil_append, cuts, List.flatMap_singleton]
    exact (List.map_id _).symm
  | cons s a ih =>
    rw [List.cons_append, cuts, cuts, List.flatMap_assoc]
    refine List.flatMap_congr fun piece _ => ?_
    rw [ih, List.map_flatMap, List.flatMap_map]
    refine List.flatMap_congr fun front _ => ?_
    rw [List.map_map, List.flatten_cons, List.length_append, List.drop_drop]
    rfl

lemma length_of_mem_cuts {segments : List (Segment γ)} {cs : List Char} {pieces : List (List Char)}
    (h : pieces ∈ cuts allows segments cs) : pieces.length = segments.length :=
  (mem_cuts.mp h).1.length_eq.symm

end

section

variable {γ : Type}

/-- How many literals and wildcards two branches have in common before they differ. -/
def alike : List (Segment γ) → List (Segment γ) → Nat
  | .literal a :: left, .literal b :: right => if a = b then alike left right + 1 else 0
  | .wildcard v :: left, .wildcard w :: right => if v = w then alike left right + 1 else 0
  | _, _ => 0

/-- The segments that are tried for both branches at once. -/
def Branches.common : Branches (List (Segment γ)) → Nat
  | one _ => 0
  | two left right => if 2 ≤ left.length ∧ 2 ≤ right.length then alike left right else 0

/-- The order in which decompositions are tried, each with the place of its branch: by the pieces of what the branches
have in common, then by the branch, then by the other pieces. -/
def Precedes (common : Nat) (a b : Nat × List (List Char)) : Prop :=
  Longer (a.2.take common) (b.2.take common) ∨
    a.2.take common = b.2.take common ∧ (a.1 < b.1 ∨ a.1 = b.1 ∧ Longer (a.2.drop common) (b.2.drop common))

section

variable {k i j : Nat} {front front' a b : List (List Char)}

lemma Precedes.of_front (h : Longer front front') (hk : front.length = k) (hk' : front'.length = k) :
    Precedes k (i, front ++ a) (j, front' ++ b) :=
  Or.inl ((List.take_left' hk).symm ▸ (List.take_left' hk').symm ▸ h)

lemma Precedes.of_branch (h : i < j) (hk : front.length = k) : Precedes k (i, front ++ a) (j, front ++ b) :=
  Or.inr ⟨(List.take_left' hk).trans (List.take_left' hk).symm, Or.inl h⟩

lemma Precedes.of_rest (h : Longer a b) (hk : front.length = k) : Precedes k (i, front ++ a) (i, front ++ b) := by
  refine Or.inr ⟨(List.take_left' hk).trans (List.take_left' hk).symm, Or.inr ⟨rfl, ?_⟩⟩
  rw [List.drop_left' hk, List.drop_left' hk]
  exact h

end

lemma take_alike (left right : List (Segment γ)) :
    left.take (alike left right) = right.take (alike left right) ∧ alike left right ≤ left.length := by
  fun_induction alike left right with
  | case1 left a right ih => exact ⟨congrArg (_ :: ·) ih.1, Nat.succ_le_succ ih.2⟩
  | case2 => exact ⟨rfl, Nat.zero_le _⟩
  | case3 left v right ih => exact ⟨congrArg (_ :: ·) ih.1, Nat.succ_le_succ ih.2⟩
  | case4 => exact ⟨rfl, Nat.zero_le _⟩
  | case5 => exact ⟨rfl, Nat.zero_le _⟩

lemma take_common (left right : List (Segment γ)) :
    left.take (Branches.two left right).common = right.take (Branches.two left right).common ∧
      (Branches.two left right).common ≤ left.length := by
  rw [Branches.common]
  split
  · exact take_alike left right
  · exact ⟨rfl, Nat.zero_le _⟩

variable (allows : γ → Nat → Bool)

/-- The ways to cut pieces off a text, one for each segment of a branch, in the order in which they are tried. -/
def Branches.cuts : Branches (List (Segment γ)) → List Char → List (Nat × List (List Char))
  | one only, cs => (Pattern.cuts allows only cs).map (Prod.mk 0)
  | two left right, cs =>
    (Pattern.cuts allows (left.take (two left right).common) cs).flatMap fun front =>
      (Pattern.cuts allows (left.drop (two left right).common) (cs.drop front.flatten.length)).map (fun rest =>
        (0, front ++ rest)) ++
      (Pattern.cuts allows (right.drop (two left right).common) (cs.drop front.flatten.length)).map fun rest =>
        (1, front ++ rest)

variable {allows}

lemma Branches.mem_cuts_two {left right : List (Segment γ)} {cs : List Char} {i : Nat} {pieces : List (List Char)} :
    (i, pieces) ∈ (two left right).cuts allows cs ↔
      (i = 0 ∧ pieces ∈ Pattern.cuts allows left cs) ∨ (i = 1 ∧ pieces ∈ Pattern.cuts allows right cs) := by
  have hleft : pieces ∈ Pattern.cuts allows left cs ↔ pieces ∈ Pattern.cuts allows
      (left.take (two left right).common ++ left.drop (two left right).common) cs := by
    rw [List.take_append_drop]
  have hright : pieces ∈ Pattern.cuts allows right cs ↔ pieces ∈ Pattern.cuts allows
      (left.take (two left right).common ++ right.drop (two left right).common) cs := by
    rw [(take_common left right).1, List.take_append_drop]
  rw [hleft, hright, cuts_append, cuts_append, cuts]
  simp only [List.mem_flatMap, List.mem_append, List.mem_map, Prod.mk.injEq]
  constructor
  · rintro ⟨front, hf, ⟨rest, hr, rfl, rfl⟩ | ⟨rest, hr, rfl, rfl⟩⟩
    · exact Or.inl ⟨rfl, front, hf, rest, hr, rfl⟩
    · exact Or.inr ⟨rfl, front, hf, rest, hr, rfl⟩
  · rintro (⟨rfl, front, hf, rest, hr, rfl⟩ | ⟨rfl, front, hf, rest, hr, rfl⟩)
    · exact ⟨front, hf, Or.inl ⟨rest, hr, rfl, rfl⟩⟩
    · exact ⟨front, hf, Or.inr ⟨rest, hr, rfl, rfl⟩⟩

lemma Branches.mem_cuts {b : Branches (List (Segment γ))} {cs : List Char} {i : Nat} {pieces : List (List Char)} :
    (i, pieces) ∈ b.cuts allows cs ↔ ∃ segments, b.toList[i]? = some segments ∧ pieces ∈ Pattern.cuts allows segments cs := by
  cases b with
  | one only =>
    rw [cuts, List.mem_map]
    constructor
    · rintro ⟨pieces, hp, he⟩
      cases he
      exact ⟨only, rfl, hp⟩
    · rintro ⟨segments, hs, hp⟩
      obtain rfl : i = 0 := by
        have hi := (List.getElem?_eq_some_iff.mp hs).1
        exact Nat.lt_one_iff.mp hi
      cases hs
      exact ⟨pieces, hp, rfl⟩
  | two left right =>
    rw [mem_cuts_two]
    constructor
    · rintro (⟨rfl, hp⟩ | ⟨rfl, hp⟩)
      · exact ⟨left, rfl, hp⟩
      · exact ⟨right, rfl, hp⟩
    · rintro ⟨segments, hs, hp⟩
      have hi : i < 2 := (List.getElem?_eq_some_iff.mp hs).1
      obtain rfl | rfl : i = 0 ∨ i = 1 := by omega
      · cases hs
        exact Or.inl ⟨rfl, hp⟩
      · cases hs
        exact Or.inr ⟨rfl, hp⟩

lemma Branches.pairwise_cuts (b : Branches (List (Segment γ))) (cs : List Char) :
    (b.cuts allows cs).Pairwise (Precedes b.common) := by
  cases b with
  | one only =>
    refine List.pairwise_map.mpr ((Pattern.pairwise_cuts only cs).imp fun h => ?_)
    exact Or.inr ⟨rfl, Or.inr ⟨rfl, h⟩⟩
  | two left right =>
    set k := (two left right).common with hk
    have hlength : ∀ front ∈ Pattern.cuts allows (left.take k) cs, front.length = k := by
      intro front hf
      rw [length_of_mem_cuts hf, List.length_take, Nat.min_eq_left (take_common left right).2]
    rw [cuts, ← hk, List.pairwise_flatMap]
    constructor
    · -- behind one front: the rests of the left branch, then those of the right one
      intro front hf
      refine List.pairwise_append.mpr ⟨?_, ?_, ?_⟩
      · exact List.pairwise_map.mpr ((Pattern.pairwise_cuts _ _).imp fun h => .of_rest h (hlength front hf))
      · exact List.pairwise_map.mpr ((Pattern.pairwise_cuts _ _).imp fun h => .of_rest h (hlength front hf))
      · intro x hx y hy
        obtain ⟨a, -, rfl⟩ := List.mem_map.mp hx
        obtain ⟨b, -, rfl⟩ := List.mem_map.mp hy
        exact .of_branch Nat.zero_lt_one (hlength front hf)
    · -- behind different fronts, whatever the branches are
      refine (Pattern.pairwise_cuts _ _).imp_of_mem fun {front front'} hf hf' h x hx y hy => ?_
      have hbehind : ∀ (f : List (List Char)) (xs ys : List (List (List Char))),
          ∀ z ∈ xs.map (fun rest => (0, f ++ rest)) ++ ys.map (fun rest => (1, f ++ rest)), ∃ rest, z = (z.1, f ++ rest) := by
        intro f xs ys z hz
        rcases List.mem_append.mp hz with hz | hz
        · obtain ⟨rest, -, rfl⟩ := List.mem_map.mp hz
          exact ⟨rest, rfl⟩
        · obtain ⟨rest, -, rfl⟩ := List.mem_map.mp hz
          exact ⟨rest, rfl⟩
      obtain ⟨a, ha⟩ := hbehind _ _ _ x hx
      obtain ⟨b, hb⟩ := hbehind _ _ _ y hy
      rw [ha, hb]
      exact .of_front h (hlength front hf) (hlength front' hf')

end

end TypedPattern.Pattern
