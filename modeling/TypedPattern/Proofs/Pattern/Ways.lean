import TypedPattern.Proofs.Found
import TypedPattern.Proofs.Pattern.Cuts

/-! The expression of a pattern runs through the ways to cut a text, in their order. -/

namespace TypedPattern

open Pattern (Capture Constraint Segment Wildcard)
open Regex (Agree Core Point)
open Text (byteLength)

namespace Regex.Core

lemma parts_foldl_seq (x : Core) (xs : List Core) : (xs.foldl seq x).parts = x.parts ++ xs.flatMap parts := by
  induction xs generalizing x with
  | nil => exact (List.append_nil _).symm
  | cons y ys ih => rw [List.foldl_cons, ih, parts, List.flatMap_cons, List.append_assoc]

lemma flatMap_parts {xs : List Core} (h : ∀ x ∈ xs, x.parts = [x]) : xs.flatMap parts = xs := by
  rw [List.flatMap_congr h]
  exact List.map_eq_flatMap.symm.trans (List.map_id xs)

lemma parts_ofParts {xs : List Core} (h : ∀ x ∈ xs, x.parts = [x]) : (ofParts xs).parts = xs := by
  cases xs with
  | nil => rfl
  | cons x xs =>
    rw [ofParts, parts_foldl_seq, ← List.flatMap_cons]
    exact flatMap_parts h

end Regex.Core

namespace Pattern

def Segment.part : Segment Capture → Core
  | literal text => .literal text
  | wildcard w => w.core
  | group c => c.core false

/-- No literal is empty or next to another one. -/
def Spaced (segments : List (Segment Capture)) : Prop :=
  (∀ text, .literal text ∈ segments → text ≠ []) ∧ segments.IsChain fun s t => ¬(s.IsLiteral ∧ t.IsLiteral)

lemma prepend_part {s : Segment Capture} (hs : ¬s.IsLiteral) (xs : List Core) :
    Core.prepend s.part xs = s.part :: xs := by
  cases s with
  | literal text => exact absurd trivial hs
  | wildcard w => cases w <;> rfl
  | group c => rfl

lemma cores_of_not_literal {s : Segment Capture} (hs : ¬s.IsLiteral) : s.cores false false = [s.part] := by
  cases s with
  | literal text => exact absurd trivial hs
  | wildcard w => rfl
  | group c => rfl

lemma parts_part (s : Segment Capture) : s.part.parts = [s.part] := by
  cases s with
  | literal text => rfl
  | wildcard w => cases w <;> rfl
  | group c => rfl

lemma parts_branchCore {segments : List (Segment Capture)} (h : Spaced segments) :
    (branchCore false false segments).parts = segments.map Segment.part := by
  have hjoin : (segments.flatMap (Segment.cores false false)).foldr Core.prepend [] = segments.map Segment.part := by
    induction segments with
    | nil => rfl
    | cons s rest ih =>
      obtain ⟨hne, hchain⟩ := h
      obtain ⟨hhead, htail⟩ := List.isChain_cons.mp hchain
      have hrest := ih ⟨fun text ht => hne text (List.mem_cons_of_mem s ht), htail⟩
      rw [List.flatMap_cons, List.foldr_append, hrest, List.map_cons]
      by_cases hs : s.IsLiteral
      · cases s with
        | literal text =>
          rw [cores_literal]
          refine foldr_prepend_literal (hne text List.mem_cons_self) fun cs hcs => ?_
          rw [List.head?_map, Option.map_eq_some_iff] at hcs
          obtain ⟨t, ht, he⟩ := hcs
          have hnot := hhead t ht
          cases t with
          | literal other => exact hnot ⟨trivial, trivial⟩
          | wildcard w => cases w <;> cases he
          | group c => cases he
        | wildcard w => cases hs
        | group c => cases hs
      · rw [cores_of_not_literal hs]
        exact prepend_part hs _
  rw [branchCore, Core.concat, Core.flatMap_parts parts_cores, hjoin]
  refine Core.parts_ofParts fun x hx => ?_
  obtain ⟨s, -, rfl⟩ := List.mem_map.mp hx
  exact parts_part s

lemma core_injective {v w : Wildcard} (h : v.core = w.core) : v = w := by
  cases v <;> cases w <;> first | rfl | cases h

lemma shared_parts {left right : List (Segment Capture)}
    (h : ∀ c ∈ Segment.groups left, ∀ d ∈ Segment.groups right, c.order ≠ d.order) :
    Core.shared (left.map Segment.part) (right.map Segment.part) = (left.take (alike left right)).map Segment.part := by
  fun_induction alike left right with
  | case1 left a right ih =>
    rw [List.map_cons, List.map_cons, Core.shared, if_pos rfl, ih h, List.take_succ_cons, List.map_cons]
  | case2 a left b right hab =>
    exact if_neg fun he => hab (Core.literal.inj he)
  | case3 left v right ih =>
    rw [List.map_cons, List.map_cons, Core.shared, if_pos rfl, ih h, List.take_succ_cons, List.map_cons]
  | case4 v left w right hvw =>
    exact if_neg fun he => hvw (core_injective he)
  | case5 left right hliteral hwildcard =>
    cases left with
    | nil => rfl
    | cons s left =>
      cases right with
      | nil => rfl
      | cons t right =>
        refine if_neg fun he => ?_
        cases s with
        | literal a =>
          cases t with
          | literal b => exact hliteral a left b right rfl rfl
          | wildcard w => cases w <;> cases he
          | group d => cases he
        | wildcard v =>
          cases t with
          | literal b => cases v <;> cases he
          | wildcard w => exact hwildcard v left w right rfl rfl
          | group d => cases v <;> cases he
        | group c =>
          cases t with
          | literal b => cases he
          | wildcard w => cases w <;> cases he
          | group d => exact h c List.mem_cons_self d List.mem_cons_self (Core.capture.inj he).1

lemma lifted_parts {left right : List (Segment Capture)}
    (h : ∀ c ∈ Segment.groups left, ∀ d ∈ Segment.groups right, c.order ≠ d.order) :
    Core.lifted (left.map Segment.part) (right.map Segment.part) =
      (left.take (Branches.two left right).common).map Segment.part := by
  rw [Core.lifted, List.length_map, List.length_map, Branches.common]
  split
  · exact shared_parts h
  · rfl

/-- The point behind a piece of a segment. -/
def Segment.after : Segment Capture → Point → List Char → Point
  | literal _, p, piece => p.advance piece
  | wildcard _, p, piece => p.advance piece
  | group c, p, piece =>
    { p.advance piece with groups := (c.order, ⟨p.pos, p.pos + byteLength piece⟩) :: p.groups }

/-- The point behind the pieces of a branch. -/
def behind : List (Segment Capture) → List (List Char) → Point → Point
  | s :: rest, piece :: pieces, p => behind rest pieces (s.after p piece)
  | _, _, p => p.clear

/-- The lengths of what a group without a type takes. -/
def Capture.allows (c : Capture) : Nat → Bool :=
  c.constraint.allows

def ways (segments : List (Segment Capture)) (p : Point) : List Point :=
  (cuts Capture.allows segments p.rest).map fun pieces => behind segments pieces p

/-- No group has a type. -/
def Untyped (segments : List (Segment Capture)) : Prop :=
  ∀ c, .group c ∈ segments → ∀ t, c.constraint ≠ .type t

variable {text : List Char} {p q : Point} {ps : List Point} {s : Segment Capture} {piece : List Char}
  {segments : List (Segment Capture)}

@[simp] lemma pos_after (s : Segment Capture) (p : Point) (piece : List Char) :
    (s.after p piece).pos = p.pos + byteLength piece := by
  cases s <;> rfl

@[simp] lemma rest_after (s : Segment Capture) (p : Point) (piece : List Char) :
    (s.after p piece).rest = p.rest.drop piece.length := by
  cases s <;> rfl

lemma after_on (hp : p.On text) (h : piece <+: p.rest) : (s.after p piece).On text := by
  have hon := hp.advance h
  cases s with
  | literal _ => exact hon
  | wildcard _ => exact hon
  | group _ => exact hon.of_spot rfl rfl

lemma pos_behind (h : p.pos = q.pos) (segments : List (Segment Capture)) (pieces : List (List Char)) :
    (behind segments pieces p).pos = (behind segments pieces q).pos := by
  induction segments generalizing p q pieces with
  | nil => exact h
  | cons s rest ih =>
    cases pieces with
    | nil => exact h
    | cons piece pieces => exact ih (by rw [pos_after, pos_after, h]) pieces

lemma ways_cons (s : Segment Capture) (rest : List (Segment Capture)) (p : Point) :
    ways (s :: rest) p = ((s.pieces Capture.allows p.rest).map (s.after p)).flatMap (ways rest) := by
  rw [ways, cuts, List.map_flatMap, List.flatMap_map]
  refine List.flatMap_congr fun piece _ => ?_
  rw [List.map_map, ways, rest_after]
  rfl

lemma exists_mem_ways (hp : p.On text) (hq : q.On text) (h : p.pos = q.pos) {x : Point} (hx : x ∈ ways segments p) :
    ∃ y ∈ ways segments q, y.pos = x.pos := by
  obtain ⟨pieces, hpieces, rfl⟩ := List.mem_map.mp hx
  have hrest : p.rest = q.rest := congrArg Regex.Spot.rest (hp.spot_eq hq h)
  exact ⟨_, List.mem_map_of_mem (hrest ▸ hpieces), pos_behind h.symm segments pieces⟩

lemma exists_mem_ways_append {more : List (Segment Capture)} (hp : p.On text) (hq : q.On text) (h : p.pos = q.pos)
    {x : Point} (hx : x ∈ ways segments p ++ ways more p) : ∃ y ∈ ways segments q ++ ways more q, y.pos = x.pos := by
  rcases List.mem_append.mp hx with hx | hx
  · obtain ⟨y, hy, hyx⟩ := exists_mem_ways hp hq h hx
    exact ⟨y, List.mem_append_left _ hy, hyx⟩
  · obtain ⟨y, hy, hyx⟩ := exists_mem_ways hp hq h hx
    exact ⟨y, List.mem_append_right _ hy, hyx⟩

lemma dotCore_eq : ∃ s : CharSet, dotCore = .chars s ∧ s.isEmpty = false ∧ s.contains = (· != '\n') := by
  refine ⟨⟨[⟨0, 0x09⟩, ⟨0x0B, 0x10FFFF⟩]⟩, rfl, rfl, funext fun c => ?_⟩
  have hmax : c.toNat ≤ 0x10FFFF := by
    have hvalid := c.valid
    have hnat : c.toNat = c.val.toNat := rfl
    rcases hvalid with h | ⟨-, h⟩ <;> omega
  have hline : c = '\n' ↔ c.toNat = 10 := ⟨fun h => h ▸ rfl, fun h => Char.toNat_inj.mp h⟩
  rw [Bool.eq_iff_iff, bne_iff_ne, ne_eq, hline]
  simp only [CharSet.contains, CharSet.containsCode, CharRange.contains, List.any_cons, List.any_nil, Bool.or_false, Bool.or_eq_true,
    Bool.and_eq_true, decide_eq_true_eq]
  omega

lemma core_free : Constraint.core false .free = .repetition 0 none true dotCore :=
  rfl

lemma core_width (n : Nat) : Constraint.core false (.width n) = .repeated n (some 0) true dotCore :=
  rfl

/-- Points behind pieces of characters within a line. -/
abbrev walkLine (lengths : Nat → Bool) : Point → List Point :=
  Regex.walk (· != '\n') lengths

lemma agree_wildcard (w : Wildcard) (hps : ∀ p ∈ ps, p.On text) :
    Agree (w.core.run ps) (ps.flatMap (walkLine w.allows)) := by
  obtain ⟨dot, hdot, hempty, hline⟩ := dotCore_eq
  cases w with
  | any =>
    rw [Wildcard.core, hdot, walkLine, ← hline]
    exact Core.agree_any hempty hps
  | one =>
    rw [Wildcard.core, hdot, walkLine, ← hline, Core.run_chars_walk]
    exact .refl _
  | maybe =>
    rw [Wildcard.core, hdot, walkLine, ← hline]
    exact Core.agree_maybe hps

lemma agree_constraint {k : Constraint} (hk : ∀ t, k ≠ .type t) (hps : ∀ p ∈ ps, p.On text) :
    Agree ((k.core false).run ps) (ps.flatMap (walkLine k.allows)) := by
  obtain ⟨dot, hdot, hempty, hline⟩ := dotCore_eq
  cases k with
  | free =>
    rw [core_free, hdot, walkLine, ← hline]
    exact Core.agree_any hempty hps
  | width n =>
    rw [core_width, hdot, walkLine, ← hline]
    exact Core.agree_width hempty n ps
  | type t => exact absurd rfl (hk t)

lemma agree_part (hs : ∀ c, s = .group c → ∀ t, c.constraint ≠ .type t) (hps : ∀ p ∈ ps, p.On text) :
    Agree (s.part.run ps) (ps.flatMap fun p => (s.pieces Capture.allows p.rest).map (s.after p)) := by
  cases s with
  | literal cs =>
    rw [Segment.part, Core.run_literal, List.filterMap_map, List.filterMap_eq_flatMap_toList]
    refine Agree.flatMap fun p _ => ?_
    have hone : (p.clear.literal? cs).toList = (Core.literal cs).run [p] := by
      rw [Core.run_literal, List.map_singleton, List.filterMap_eq_flatMap_toList, List.flatMap_singleton]
    rw [Function.comp_apply, hone, Core.run_literal_single, Segment.pieces]
    split <;> exact .refl _
  | wildcard w => exact agree_wildcard w hps
  | group c =>
    have hbegun : ∀ p ∈ ps.map (·.begin c.order), p.On text := by
      intro p hp
      obtain ⟨o, ho, rfl⟩ := List.mem_map.mp hp
      exact (hps o ho).begin c.order
    have h := (agree_constraint (hs c rfl) hbegun).map Point.pos_finish
    rw [Segment.part, Capture.core, Core.run_capture]
    refine h.trans ?_
    rw [List.flatMap_map, List.map_flatMap]
    refine Agree.flatMap fun p _ => ?_
    rw [walkLine, Regex.walk, List.map_map]
    exact .refl _

/-- A branch leads to the ways to cut a text, in their order. -/
theorem agree_ways (h : Untyped segments) (hps : ∀ p ∈ ps, p.On text) :
    Agree (Core.runAll (segments.map Segment.part) ps) (ps.flatMap (ways segments)) := by
  induction segments generalizing ps with
  | nil =>
    rw [List.map_nil, Core.runAll, List.map_eq_flatMap]
    exact .refl _
  | cons s rest ih =>
    have hs : ∀ c, s = .group c → ∀ t, c.constraint ≠ .type t := by
      rintro c rfl
      exact h c List.mem_cons_self
    have hrest : Untyped rest := fun c hc => h c (List.mem_cons_of_mem s hc)
    have hpart := @agree_part text ps s hs hps
    have hon := @Core.on_run text ps s.part hps
    have hon' : ∀ q ∈ ps.flatMap (fun p => (s.pieces Capture.allows p.rest).map (s.after p)), q.On text := by
      intro q hq
      obtain ⟨p, hp, hq⟩ := List.mem_flatMap.mp hq
      obtain ⟨piece, hpiece, rfl⟩ := List.mem_map.mp hq
      exact after_on (hps p hp) (Segment.mem_pieces.mp hpiece).1
    -- a position that is reached twice adds nothing the second time
    have hsame : ∀ {qs : List Point}, (∀ q ∈ qs, q.On text) → ∀ p ∈ qs, ∀ q ∈ qs, p.pos = q.pos →
        ∀ x ∈ ways rest p, ∃ y ∈ ways rest q, y.pos = x.pos := fun hqs p hp q hq hpos x hx =>
      exists_mem_ways (hqs p hp) (hqs q hq) hpos hx
    rw [List.map_cons, Core.runAll]
    refine (ih hrest hon).trans ((hpart.bind (hsame hon) (hsame hon')).trans ?_)
    rw [List.flatMap_assoc]
    exact Agree.flatMap fun p _ => by
      rw [ways_cons]
      exact .refl _

lemma on_ways (hp : p.On text) : ∀ q ∈ ways segments p, q.On text := by
  induction segments generalizing p with
  | nil =>
    intro q hq
    obtain rfl := List.mem_singleton.mp hq
    exact hp.of_spot rfl rfl
  | cons s rest ih =>
    intro q hq
    rw [ways_cons] at hq
    obtain ⟨o, ho, hq⟩ := List.mem_flatMap.mp hq
    obtain ⟨piece, hpiece, rfl⟩ := List.mem_map.mp ho
    exact ih (after_on hp (Segment.mem_pieces.mp hpiece).1) q hq

lemma behind_clear (segments : List (Segment Capture)) (pieces : List (List Char)) (p : Point) :
    behind segments pieces p.clear = behind segments pieces p := by
  cases segments with
  | nil => rfl
  | cons s rest =>
    cases pieces with
    | nil => rfl
    | cons piece pieces => cases s <;> rfl

lemma behind_append {a b : List (Segment Capture)} {front rest : List (List Char)} (h : front.length = a.length)
    (p : Point) : behind (a ++ b) (front ++ rest) p = behind b rest (behind a front p) := by
  induction a generalizing front p with
  | nil =>
    obtain rfl := List.length_eq_zero_iff.mp h
    exact (behind_clear b rest p).symm
  | cons s a ih =>
    cases front with
    | nil => cases h
    | cons piece front => exact ih (Nat.succ.inj h) _

lemma rest_behind {pieces : List (List Char)} (h : pieces.length = segments.length) (p : Point) :
    (behind segments pieces p).rest = p.rest.drop pieces.flatten.length := by
  induction segments generalizing pieces p with
  | nil =>
    obtain rfl := List.length_eq_zero_iff.mp h
    rfl
  | cons s rest ih =>
    cases pieces with
    | nil => cases h
    | cons piece pieces =>
      rw [behind, ih (Nat.succ.inj h), rest_after, List.drop_drop, List.flatten_cons, List.length_append]

/-- The point behind the pieces of one of several branches. -/
def Branches.behind (b : Branches (List (Segment Capture))) (cut : Nat × List (List Char)) (p : Point) : Point :=
  Pattern.behind ((b.toList[cut.1]?).getD []) cut.2 p

lemma Branches.behind_eq {b : Branches (List (Segment Capture))} {i : Nat} (h : b.toList[i]? = some segments)
    (pieces : List (List Char)) (p : Point) : b.behind (i, pieces) p = Pattern.behind segments pieces p := by
  rw [behind, h]
  rfl

lemma ways_two (left right : List (Segment Capture)) (p : Point) :
    ((Branches.two left right).cuts Capture.allows p.rest).map (fun cut => (Branches.two left right).behind cut p) =
      (ways (left.take (Branches.two left right).common) p).flatMap fun q =>
        ways (left.drop (Branches.two left right).common) q ++ ways (right.drop (Branches.two left right).common) q := by
  obtain ⟨hsame, -⟩ := take_common left right
  rw [Branches.cuts, List.map_flatMap, ways, List.flatMap_map]
  set k := (Branches.two left right).common
  refine List.flatMap_congr fun front hf => ?_
  have hlength := length_of_mem_cuts hf
  have hleft : ∀ rest, Pattern.behind left (front ++ rest) p =
      Pattern.behind (left.drop k) rest (Pattern.behind (left.take k) front p) := by
    intro rest
    rw [← behind_append hlength, List.take_append_drop]
  have hright : ∀ rest, Pattern.behind right (front ++ rest) p =
      Pattern.behind (right.drop k) rest (Pattern.behind (left.take k) front p) := by
    intro rest
    rw [← behind_append hlength, hsame, List.take_append_drop]
  rw [List.map_append, List.map_map, List.map_map, ways, ways, rest_behind hlength]
  exact congrArg₂ (· ++ ·) (List.map_congr_left fun rest _ => hleft rest) (List.map_congr_left fun rest _ => hright rest)

/-- A pattern without types leads to the ways to cut a text, in the order in which they are tried. -/
theorem agree_core {b : Branches (List (Segment Capture))} (hu : ∀ segments ∈ b.toList, Untyped segments)
    (hs : ∀ segments ∈ b.toList, Spaced segments) (ho : b.Ordered) (hp : p.On text) :
    Agree ((b.core false false).run [p]) ((b.cuts Capture.allows p.rest).map fun cut => b.behind cut p) := by
  cases b with
  | one only =>
    rw [Branches.toList, List.forall_mem_singleton] at hu hs
    have h := agree_ways hu hp.single
    rw [List.flatMap_singleton, ← parts_branchCore hs, Core.runAll_parts] at h
    refine h.trans ?_
    rw [Branches.cuts, List.map_map]
    exact .refl _
  | two left right =>
    rw [Branches.toList, List.forall_mem_cons, List.forall_mem_singleton] at hu hs
    have hagree := Core.agree_alternate (@branches_branchCore false false left) (@branches_branchCore false false right) p
    rw [parts_branchCore hs.1, parts_branchCore hs.2, lifted_parts ho.apart, List.length_map, List.length_take,
      Nat.min_eq_left (take_common left right).2, ← List.map_drop, ← List.map_drop] at hagree
    rw [Branches.core, ways_two]
    set k := (Branches.two left right).common
    have hfront : Untyped (left.take k) := fun c hc => hu.1 c (List.mem_of_mem_take hc)
    have hleft : Untyped (left.drop k) := fun c hc => hu.1 c (List.mem_of_mem_drop hc)
    have hright : Untyped (right.drop k) := fun c hc => hu.2 c (List.mem_of_mem_drop hc)
    have hboth : ∀ {qs : List Point}, (∀ q ∈ qs, q.On text) → ∀ q ∈ qs, ∀ r ∈ qs, q.pos = r.pos →
        ∀ x ∈ ways (left.drop k) q ++ ways (right.drop k) q,
          ∃ y ∈ ways (left.drop k) r ++ ways (right.drop k) r, y.pos = x.pos :=
      fun hqs q hq r hr hpos _ hx => exists_mem_ways_append (hqs q hq) (hqs r hr) hpos hx
    -- the ways through the front, and behind each of them those of the left branch before those of the right one
    have hways := agree_ways hfront hp.single
    rw [List.flatMap_singleton] at hways
    refine hagree.trans ((Agree.flatMap fun q hq => ?_).trans (hways.bind (hboth (Core.on_runAll hp.single)) (hboth (on_ways hp))))
    have hon := (Core.on_runAll hp.single q hq).single
    have hl := agree_ways hleft hon
    have hr := agree_ways hright hon
    rw [List.flatMap_singleton] at hl hr
    exact hl.append hr

end Pattern

end TypedPattern
