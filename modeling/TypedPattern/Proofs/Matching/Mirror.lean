import TypedPattern.Proofs.Matching.Spot
import Mathlib.Data.List.Forall2

/-! A part runs alike wherever it stands in an expression and from whatever number on its groups are counted. -/

namespace TypedPattern.Regex

open List (Forall₂)

namespace Core

/-- The expression with its groups counted from a later number on. -/
def shift (k : Nat) : Core → Core
  | empty => empty
  | literal cs => literal cs
  | chars s => chars s
  | look l => look l
  | repetition min more greedy body => repetition min more greedy (body.shift k)
  | capture index body => capture (index + k) (body.shift k)
  | seq a b => seq (a.shift k) (b.shift k)
  | alt a b => alt (a.shift k) (b.shift k)

lemma minLength_shift (k : Nat) (r : Core) : (r.shift k).minLength = r.minLength := by
  induction r with
  | repetition min more greedy body ih => rw [shift, minLength, minLength, ih]
  | capture index body ih => exact ih
  | seq a b iha ihb => rw [shift, minLength, minLength, iha, ihb]
  | alt a b iha ihb => rw [shift, minLength, minLength, iha, ihb]
  | _ => rfl

lemma nullable_shift (k : Nat) (r : Core) : (r.shift k).nullable = r.nullable := by
  rw [nullable, nullable, minLength_shift]

lemma shift_zero (r : Core) : r.shift 0 = r := by
  induction r with
  | repetition min more greedy body ih => rw [shift, ih]
  | capture index body ih => rw [shift, ih, Nat.add_zero]
  | seq a b iha ihb => rw [shift, iha, ihb]
  | alt a b iha ihb => rw [shift, iha, ihb]
  | _ => rfl

end Core

/-- A group by a later number. -/
def renumber {α : Type} (k : Nat) (g : Nat × α) : Nat × α :=
  (g.1 + k, g.2)

namespace Point

def shift (k : Nat) (p : Point) : Point :=
  { p with opened := p.opened.map (renumber k), groups := p.groups.map (renumber k) }

/-- The point without the choices that led there. -/
def clear (p : Point) : Point :=
  { p with trail := [] }

/-- Two points are at the same place with the same groups, but for their numbers, and of the choices below `base` on
the trail of the one those on the trail of the other are made. -/
structure Mirrors (base : Path) (k : Nat) (p q : Point) : Prop where
  pos : q.pos = p.pos
  prev : q.prev = p.prev
  rest : q.rest = p.rest
  opened : q.opened = p.opened.map (renumber k)
  groups : q.groups = p.groups.map (renumber k)
  trail : ∀ d, d ++ base ∈ p.trail ↔ d ∈ q.trail

end Point

open Point (Mirrors)

section

variable {base : Path} {k : Nat} {p q : Point} {ps qs : List Point}

namespace Point.Mirrors

lemma mark (h : Mirrors base k p q) (x : Path) : Mirrors base k (p.mark (x ++ base)) (q.mark x) := by
  refine ⟨h.pos, h.prev, h.rest, h.opened, h.groups, fun d => ?_⟩
  simp only [trail_mark, List.mem_cons, List.append_cancel_right_eq, h.trail d]

lemma begin (h : Mirrors base k p q) (index : Nat) : Mirrors base k (p.begin index) (q.begin (index + k)) := by
  refine ⟨h.pos, h.prev, h.rest, ?_, h.groups, h.trail⟩
  simp [Point.begin, h.opened, h.pos, renumber]

lemma finish (h : Mirrors base k p q) : Mirrors base k p.finish q.finish := by
  have ho := h.opened
  rcases hp : p.opened with _ | ⟨⟨index, start⟩, rest⟩
  · rw [hp] at ho
    have hpf : p.finish = p := by rw [Point.finish, hp]
    have hqf : q.finish = q := by rw [Point.finish, ho]; rfl
    rw [hpf, hqf]
    exact h
  · rw [hp] at ho
    have hpf : p.finish = { p with opened := rest, groups := (index, ⟨start, p.pos⟩) :: p.groups } := by
      rw [Point.finish, hp]
    have hqf : q.finish =
        { q with opened := rest.map (renumber k), groups := (index + k, ⟨start, q.pos⟩) :: q.groups } := by
      rw [Point.finish, ho]
      rfl
    rw [hpf, hqf]
    exact ⟨h.pos, h.prev, h.rest, rfl, by simp [h.groups, h.pos, renumber], h.trail⟩

lemma next? (h : Mirrors base k p q) (accepts : Char → Bool) :
    Option.Rel (Mirrors base k) (p.next? accepts) (q.next? accepts) := by
  unfold Point.next?
  rw [h.rest]
  rcases p.rest with _ | ⟨c, rest⟩
  · exact .none
  · dsimp only
    split
    · exact .some ⟨by simp [h.pos], rfl, rfl, h.opened, h.groups, fun d => by simp⟩
    · exact .none

lemma literal? (h : Mirrors base k p q) (cs : List Char) :
    Option.Rel (Mirrors base k) (p.literal? cs) (q.literal? cs) := by
  induction cs generalizing p q with
  | nil => exact .some h
  | cons c cs ih =>
    have hn := h.next? (· == c)
    rw [Point.literal?, Point.literal?]
    cases hp : p.next? (· == c) <;> cases hq : q.next? (· == c) <;> rw [hp, hq] at hn <;> cases hn
    · exact .none
    · rename_i hn
      exact ih hn

end Point.Mirrors

def Keeps (base : Path) (k : Nat) (f g : List Point → List Point) : Prop :=
  ∀ ps qs, Forall₂ (Mirrors base k) ps qs → Forall₂ (Mirrors base k) (f ps) (g qs)

lemma distinct_go_mirrors (seen : Nat) (h : Forall₂ (Mirrors base k) ps qs) :
    Forall₂ (Mirrors base k) (distinct.go seen ps) (distinct.go seen qs) := by
  induction h generalizing seen with
  | nil => exact .nil
  | @cons p q _ _ hpq _ ih =>
    rw [distinct.go, distinct.go, hpq.pos]
    by_cases hs : seen.testBit p.pos = true
    · rw [if_pos hs, if_pos hs]
      exact ih seen
    · rw [if_neg hs, if_neg hs]
      exact .cons hpq (ih _)

lemma distinct_mirrors (h : Forall₂ (Mirrors base k) ps qs) :
    Forall₂ (Mirrors base k) (distinct ps) (distinct qs) :=
  distinct_go_mirrors 0 h

namespace Tour

structure Mirrors (base : Path) (k : Nat) (t u : Tour) : Prop where
  masks : u.masks = t.masks
  found : Forall₂ (Point.Mirrors base k) t.found u.found

namespace Mirrors

variable {t u : Tour}

lemma add (h : Mirrors base k t u) (hp : Point.Mirrors base k p q) : Mirrors base k (t.add p) (u.add q) :=
  ⟨h.masks, .cons hp h.found⟩

lemma visit (h : Mirrors base k t u) (pos : Nat) : Mirrors base k (t.visit pos) (u.visit pos) :=
  ⟨by simp only [Tour.visit, h.masks], h.found⟩

lemma visited (h : Mirrors base k t u) (pos : Nat) : u.visited pos = t.visited pos := by
  rw [Tour.visited, Tour.visited, h.masks]

lemma below (h : Mirrors base k t u) {f g : Tour → Tour} (hfg : ∀ t u, Mirrors base k t u → Mirrors base k (f t) (g u)) :
    Mirrors base k (t.below f) (u.below g) := by
  have hb : Mirrors base k ⟨t.masks.tail, t.found⟩ ⟨t.masks.tail, u.found⟩ := ⟨rfl, h.found⟩
  have hf := hfg _ _ hb
  rw [Tour.below, Tour.below, h.masks]
  exact ⟨congrArg (t.masks.headD 0 :: ·) hf.masks, hf.found⟩

lemma points (h : Mirrors base k t u) : Forall₂ (Point.Mirrors base k) t.points u.points :=
  distinct_mirrors (List.rel_reverse h.found)

lemma empty : Mirrors base k Tour.empty Tour.empty :=
  ⟨rfl, .nil⟩

lemma foldl {f g : Tour → Point → Tour} (h : Mirrors base k t u) (hps : Forall₂ (Point.Mirrors base k) ps qs)
    (hfg : ∀ t u p q, Mirrors base k t u → Point.Mirrors base k p q → Mirrors base k (f t p) (g u q)) :
    Mirrors base k (ps.foldl f t) (qs.foldl g u) := by
  induction hps generalizing t u with
  | nil => exact h
  | cons hp _ ih => exact ih (hfg _ _ _ _ h hp)

end Mirrors

end Tour

lemma contains_mirrors (h : Mirrors base k p q) (x : Path) : q.trail.contains x = p.trail.contains (x ++ base) := by
  rw [Bool.eq_iff_iff, List.contains_iff_mem, List.contains_iff_mem, h.trail]

lemma cut_mirrors {t u : Tour} (ht : t.Mirrors base k u) (h : Mirrors base k p q) (x : Path) :
    (u.visited q.pos || q.trail.contains x) = (t.visited p.pos || p.trail.contains (x ++ base)) := by
  rw [ht.visited, h.pos, contains_mirrors h]

lemma laps_mirrors {f g : List Point → List Point} (hfg : Keeps base k f g) (x : Path) (greedy : Bool) (n : Nat)
    {t u : Tour} (ht : t.Mirrors base k u) (h : Mirrors base k p q) :
    (laps f (x ++ base) greedy n p t).Mirrors base k (laps g x greedy n q u) := by
  induction n generalizing p q t u with
  | zero => exact ht
  | succ n ih =>
    rw [laps, laps, cut_mirrors ht h x]
    by_cases hcut : (t.visited p.pos || p.trail.contains (x ++ base)) = true
    · rw [if_pos hcut, if_pos hcut]
      exact ht
    · rw [if_neg hcut, if_neg hcut, h.pos]
      have hm := h.mark x
      have again : ∀ t u : Tour, t.Mirrors base k u → Tour.Mirrors base k
          ((f [p.mark (x ++ base)]).foldl (fun t e => laps f (x ++ base) greedy n e t) t)
          ((g [q.mark x]).foldl (fun t e => laps g x greedy n e t) u) := fun t u ht =>
        ht.foldl (hfg _ _ (.cons hm .nil)) fun t u p q ht h => ih ht h
      cases greedy with
      | true => exact (again _ _ (ht.visit p.pos)).add hm
      | false => exact again _ _ ((ht.visit p.pos).add hm)

lemma allLaps_mirrors {f g : List Point → List Point} (hfg : Keeps base k f g) (x : Path) (greedy : Bool) :
    Keeps base k (allLaps f (x ++ base) greedy) (allLaps g x greedy) := by
  intro ps qs h
  refine (Tour.Mirrors.empty.foldl h fun t u p q ht h => ?_).points
  rw [h.rest]
  exact laps_mirrors hfg x greedy _ ht h

variable {f g : Nat → List Point → List Point} (hfg : ∀ i, Keeps base k (f i) (g i)) (choice : Nat → Path)

include hfg

lemma options_mirrors (greedy : Bool) (count level : Nat) {t u : Tour} (ht : t.Mirrors base k u)
    (h : Mirrors base k p q) :
    (options f (fun i => choice i ++ base) greedy count level p t).Mirrors base k
      (options g choice greedy count level q u) := by
  induction count generalizing level p q t u with
  | zero => exact ht.add h
  | succ count ih =>
    rw [options, options, cut_mirrors ht h]
    by_cases hcut : (t.visited p.pos || p.trail.contains (choice level ++ base)) = true
    · rw [if_pos hcut, if_pos hcut]
      exact ht
    · rw [if_neg hcut, if_neg hcut, h.pos]
      have hm := h.mark (choice level)
      have again : ∀ t u : Tour, t.Mirrors base k u → Tour.Mirrors base k
          ((f level [p.mark (choice level ++ base)]).foldl
            (fun t e => options f (fun i => choice i ++ base) greedy count (level + 1) e t) t)
          ((g level [q.mark (choice level)]).foldl
            (fun t e => options g choice greedy count (level + 1) e t) u) := fun t u ht =>
        ht.foldl (hfg level _ _ (.cons hm .nil)) fun t u p q ht h => ih (level + 1) ht h
      refine (ht.visit p.pos).below fun t u ht => ?_
      cases greedy with
      | true => exact (again t u ht).add hm
      | false => exact again _ _ (ht.add hm)

lemma copies_mirrors (count level : Nat) : Keeps base k (copies f count level) (copies g count level) := by
  induction count generalizing level with
  | zero => exact fun ps qs h => h
  | succ count ih => exact fun ps qs h => ih (level + 1) _ _ (hfg level _ _ h)

lemma lapsOrNone_mirrors (enter again : Path) (greedy : Bool) (h : Mirrors base k p q) :
    Forall₂ (Mirrors base k) (lapsOrNone (f 0) (enter ++ base) (again ++ base) greedy p)
      (lapsOrNone (g 0) enter again greedy q) := by
  rw [lapsOrNone, lapsOrNone, contains_mirrors h]
  split
  · exact .nil
  · have hm := h.mark enter
    have hlaps := allLaps_mirrors (hfg 0) again greedy _ _ (hfg 0 _ _ (.cons hm .nil))
    cases greedy with
    | true => exact List.rel_append hlaps (.cons hm .nil)
    | false => exact .cons hm hlaps

lemma repeats_mirrors (nullable : Bool) (min : Nat) (more : Option Nat) (greedy : Bool) :
    Keeps base k (repeats f (fun i => choice i ++ base) nullable min more greedy)
      (repeats g choice nullable min more greedy) := by
  intro ps qs h
  cases more with
  | some more =>
    have hall := Tour.Mirrors.empty.foldl (copies_mirrors hfg min 0 ps qs h) fun t u p q ht h =>
      options_mirrors hfg choice greedy more min ht h
    simp only [repeats]
    exact hall.points
  | none =>
    cases min with
    | zero =>
      rw [repeats, repeats]
      cases nullable with
      | true =>
        refine distinct_mirrors (List.rel_flatMap h fun p q h => ?_)
        exact lapsOrNone_mirrors hfg (choice 1) (choice 0) greedy h
      | false => exact allLaps_mirrors (hfg 0) (choice 0) greedy ps qs h
    | succ n =>
      rw [repeats, repeats]
      exact allLaps_mirrors (hfg n) (choice n) greedy _ _ (copies_mirrors hfg (n + 1) 0 ps qs h)

end

/-- An expression below some path and the same expression by itself, with later numbers, lead to points that are
alike. -/
theorem Core.ends_mirrors (base : Path) (k : Nat) (r : Core) (x : Path) :
    Keeps base k (r.ends (x ++ base)) ((r.shift k).ends x) := by
  induction r generalizing x with
  | empty => exact fun ps qs h => h
  | literal cs => exact fun ps qs h => List.rel_filterMap (fun p q h => h.literal? cs) h
  | chars s => exact fun ps qs h => List.rel_filterMap (fun p q h => h.next? s.contains) h
  | look l =>
    intro ps qs h
    refine List.rel_filter (fun p q h => ?_) h
    simp only [h.prev, h.rest]
  | capture index body ih =>
    intro ps qs h
    have hb := List.rel_map (fun p q (h : Mirrors base k p q) => h.begin index) h
    exact List.rel_map (fun p q h => h.finish) (ih (0 :: x) _ _ hb)
  | seq a b iha ihb => exact fun ps qs h => ihb (1 :: x) _ _ (iha (0 :: x) ps qs h)
  | alt a b iha ihb =>
    intro ps qs h
    have hfilter := List.rel_filter (p := fun p => !p.trail.contains (x ++ base)) (q := fun q => !q.trail.contains x)
      (fun p q (h : Mirrors base k p q) => by simp only [contains_mirrors h]) h
    refine distinct_mirrors (List.rel_flatMap hfilter fun p q h => ?_)
    exact List.rel_append (iha (0 :: x) _ _ (.cons (h.mark x) .nil)) (ihb (1 :: x) _ _ (.cons (h.mark x) .nil))
  | repetition min more greedy body ih =>
    rw [shift]
    intro ps qs h
    rw [ends, ends, nullable_shift]
    exact repeats_mirrors (fun i => ih (2 * i :: x)) (fun i => (2 * i + 1) :: x) body.nullable min more greedy ps qs h

end TypedPattern.Regex
