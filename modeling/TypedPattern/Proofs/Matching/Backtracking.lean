import TypedPattern.Proofs.Matching.Repeating
import TypedPattern.Proofs.Matching.Groups

/-!
Plain backtracking. A run that leaves each point once reaches the points that backtracking tries, in the same order but
for what has been reached before.
-/

namespace TypedPattern.Regex

open List (Forall₂)

def times (f : Point → List Point) : Nat → Point → List Point
  | 0, p => [p.clear]
  | n + 1, p => (f p).flatMap (times f n)

/-- A part up to a number of times, the more often the better. -/
def upTo (f : Point → List Point) : Nat → Point → List Point
  | 0, p => [p.clear]
  | n + 1, p => (f p).flatMap (upTo f n) ++ [p.clear]

namespace Core

/-- The points that backtracking tries, the preferred ones first. A part that is repeated without a limit is repeated as
often as there are characters. -/
def tries : Core → Point → List Point
  | empty, p => [p.clear]
  | literal cs, p => (p.clear.literal? cs).toList
  | chars s, p => (p.next? s.contains).toList
  | look l, p => if l.holds p.prev p.rest.head? then [p.clear] else []
  | repetition min more _ body, p =>
    (times body.tries min p).flatMap fun q => upTo body.tries (more.getD q.rest.length) q
  | capture index body, p => (body.tries (p.begin index)).map Point.finish
  | seq a b, p => (a.tries p).flatMap b.tries
  | alt a b, p => a.tries p ++ b.tries p

/-- Repetitions are greedy, and only characters are repeated without a limit. -/
def tame : Core → Bool
  | empty => true
  | literal _ => true
  | chars _ => true
  | look _ => true
  | repetition _ (some _) greedy body => greedy && body.tame
  | repetition _ none greedy (chars s) => greedy && !s.isEmpty
  | repetition _ none _ _ => false
  | capture _ body => body.tame
  | seq a b => a.tame && b.tame
  | alt a b => a.tame && b.tame

end Core

/-- The same place in the text. -/
structure SamePlace (p q : Point) : Prop where
  pos : p.pos = q.pos
  prev : p.prev = q.prev
  rest : p.rest = q.rest

namespace SamePlace

variable {f : Point → List Point} {p q : Point} {text : List Char}

lemma clear (h : SamePlace p q) : SamePlace p.clear q.clear :=
  ⟨h.pos, h.prev, h.rest⟩

lemma next? (h : SamePlace p q) (accepts : Char → Bool) :
    Forall₂ SamePlace (p.next? accepts).toList (q.next? accepts).toList := by
  rw [Point.next?, Point.next?, ← h.rest]
  cases p.rest with
  | nil => exact .nil
  | cons c rest =>
    dsimp only
    split
    · exact .cons ⟨congrArg (· + c.utf8Size) h.pos, rfl, rfl⟩ .nil
    · exact .nil

lemma literal? (h : SamePlace p q) (cs : List Char) :
    Forall₂ SamePlace (p.literal? cs).toList (q.literal? cs).toList := by
  induction cs generalizing p q with
  | nil => exact .cons h .nil
  | cons c cs ih =>
    have hnext := h.next? (· == c)
    rw [Point.literal?, Point.literal?]
    cases hp : p.next? (· == c) with
    | none =>
      cases hq : q.next? (· == c) with
      | none => exact .nil
      | some o =>
        rw [hp, hq] at hnext
        cases hnext
    | some o =>
      cases hq : q.next? (· == c) with
      | none =>
        rw [hp, hq] at hnext
        cases hnext
      | some o' =>
        rw [hp, hq] at hnext
        cases hnext with
        | cons ho _ => exact ih ho

lemma times (hf : ∀ p q, SamePlace p q → Forall₂ SamePlace (f p) (f q)) (n : Nat) (h : SamePlace p q) :
    Forall₂ SamePlace (Regex.times f n p) (Regex.times f n q) := by
  induction n generalizing p q with
  | zero => exact .cons h.clear .nil
  | succ n ih => exact List.rel_flatMap (hf p q h) fun _ _ => ih

lemma upTo (hf : ∀ p q, SamePlace p q → Forall₂ SamePlace (f p) (f q)) (n : Nat) (h : SamePlace p q) :
    Forall₂ SamePlace (Regex.upTo f n p) (Regex.upTo f n q) := by
  induction n generalizing p q with
  | zero => exact .cons h.clear .nil
  | succ n ih => exact List.rel_append (List.rel_flatMap (hf p q h) fun _ _ => ih) (.cons h.clear .nil)

lemma finish (h : SamePlace p q) : SamePlace p.finish q.finish := by
  have hplace : ∀ p : Point, SamePlace p.finish p := fun p => by
    unfold Point.finish
    cases p.opened <;> exact ⟨rfl, rfl, rfl⟩
  exact ⟨(hplace p).pos.trans (h.pos.trans (hplace q).pos.symm), (hplace p).prev.trans (h.prev.trans (hplace q).prev.symm),
    (hplace p).rest.trans (h.rest.trans (hplace q).rest.symm)⟩

lemma tries (h : SamePlace p q) (r : Core) : Forall₂ SamePlace (r.tries p) (r.tries q) := by
  induction r generalizing p q with
  | empty => exact .cons h.clear .nil
  | literal cs => exact h.clear.literal? cs
  | chars s => exact h.next? s.contains
  | look l =>
    rw [Core.tries, Core.tries, ← h.prev, ← h.rest]
    split
    · exact .cons h.clear .nil
    · exact .nil
  | repetition min more greedy body ih =>
    refine List.rel_flatMap (h.times (fun _ _ => ih) min) fun o o' ho => ?_
    rw [← ho.rest]
    exact ho.upTo (fun _ _ => ih) _
  | capture index body ih =>
    exact List.rel_map (fun _ _ ho => ho.finish) (ih ⟨h.pos, h.prev, h.rest⟩)
  | seq a b iha ihb => exact List.rel_flatMap (iha h) fun _ _ => ihb
  | alt a b iha ihb => exact List.rel_append (iha h) (ihb h)

end SamePlace

variable {text : List Char} {p q : Point} {ps : List Point}

lemma Point.On.samePlace (hp : p.On text) (hq : q.On text) (h : p.pos = q.pos) : SamePlace p q := by
  have hspot := hp.spot_eq hq h
  exact ⟨h, congrArg Spot.prev hspot, congrArg Spot.rest hspot⟩

/-- The positions that are reached from a point depend on its position alone. -/
def Placed (f : Point → List Point) : Prop :=
  ∀ p q, SamePlace p q → Forall₂ SamePlace (f p) (f q)

lemma Placed.positions {f : Point → List Point} (hf : Placed f) (hp : p.On text) (hq : q.On text) (h : p.pos = q.pos) :
    ∀ x ∈ f p, ∃ y ∈ f q, y.pos = x.pos := by
  intro x hx
  obtain ⟨i, hi, rfl⟩ := List.getElem_of_mem hx
  have hall := hf p q (hp.samePlace hq h)
  have hi' : i < (f q).length := hall.length_eq ▸ hi
  exact ⟨(f q)[i], List.getElem_mem hi', (hall.get hi hi').pos.symm⟩

lemma Agree.flatMap_placed {qs : List Point} {f : Point → List Point} (h : Agree ps qs) (hf : Placed f)
    (hps : ∀ p ∈ ps, p.On text) (hqs : ∀ q ∈ qs, q.On text) : Agree (ps.flatMap f) (qs.flatMap f) :=
  h.bind (fun p hp q hq hpos => hf.positions (hps p hp) (hps q hq) hpos)
    fun p hp q hq hpos => hf.positions (hqs p hp) (hqs q hq) hpos

section Preserved

variable {P : Point → Prop} {f : Point → List Point} (hclear : ∀ p, P p → P p.clear)
  (hf : ∀ p, P p → ∀ q ∈ f p, P q)

include hclear hf

lemma mem_times (n : Nat) (hp : P p) : ∀ q ∈ times f n p, P q := by
  induction n generalizing p with
  | zero => exact List.forall_mem_singleton.mpr (hclear p hp)
  | succ n ih =>
    intro q hq
    obtain ⟨o, ho, hq⟩ := List.mem_flatMap.mp hq
    exact ih (hf p hp o ho) q hq

lemma mem_upTo (n : Nat) (hp : P p) : ∀ q ∈ upTo f n p, P q := by
  induction n generalizing p with
  | zero => exact List.forall_mem_singleton.mpr (hclear p hp)
  | succ n ih =>
    refine List.forall_mem_append.mpr ⟨fun q hq => ?_, List.forall_mem_singleton.mpr (hclear p hp)⟩
    obtain ⟨o, ho, hq⟩ := List.mem_flatMap.mp hq
    exact ih (hf p hp o ho) q hq

end Preserved

lemma Point.On.clear (h : p.On text) : p.clear.On text :=
  h.of_spot rfl rfl

lemma Point.On.tries (hp : p.On text) (r : Core) : ∀ q ∈ r.tries p, q.On text := by
  induction r generalizing p with
  | empty => exact List.forall_mem_singleton.mpr hp.clear
  | literal cs => exact fun q hq => hp.clear.literal? (Option.mem_toList.mp hq)
  | chars s => exact fun q hq => hp.next? (Option.mem_toList.mp hq)
  | look l =>
    intro q hq
    rw [Core.tries] at hq
    split at hq
    · exact List.mem_singleton.mp hq ▸ hp.clear
    · exact absurd hq List.not_mem_nil
  | repetition min more greedy body ih =>
    intro q hq
    obtain ⟨o, ho, hq⟩ := List.mem_flatMap.mp hq
    have hon := mem_times (fun _ h => h.clear) (fun _ => ih) min hp o ho
    exact mem_upTo (fun _ h => h.clear) (fun _ => ih) _ hon q hq
  | capture index body ih =>
    intro q hq
    obtain ⟨o, ho, rfl⟩ := List.mem_map.mp hq
    exact (ih (hp.begin index) o ho).finish
  | seq a b iha ihb =>
    intro q hq
    obtain ⟨o, ho, hq⟩ := List.mem_flatMap.mp hq
    exact ihb (iha hp o ho) q hq
  | alt a b iha ihb => exact List.forall_mem_append.mpr ⟨iha hp, ihb hp⟩

lemma times_clear {f : Point → List Point} (hf : ∀ p, f p.clear = f p) (n : Nat) (p : Point) :
    times f n p.clear = times f n p := by
  cases n with
  | zero => rfl
  | succ n => rw [times, times, hf]

lemma upTo_clear {f : Point → List Point} (hf : ∀ p, f p.clear = f p) (n : Nat) (p : Point) :
    upTo f n p.clear = upTo f n p := by
  cases n with
  | zero => rfl
  | succ n =>
    rw [upTo, upTo, hf]
    rfl

namespace Core

lemma tries_clear (r : Core) (p : Point) : r.tries p.clear = r.tries p := by
  induction r generalizing p with
  | repetition min more greedy body ih => rw [tries, tries, times_clear ih]
  | capture index body ih => exact congrArg (List.map Point.finish) (ih (p.begin index))
  | seq a b iha ihb => rw [tries, tries, iha]
  | alt a b iha ihb => rw [tries, tries, iha, ihb]
  | _ => rfl

lemma placed_tries (r : Core) : Placed r.tries :=
  fun _ _ h => h.tries r

end Core

/-- The points that are reached from some points in order of preference. -/
def Backtracks (text : List Char) (r : Core) : Prop :=
  ∀ ps : List Point, (∀ p ∈ ps, p.On text) → Agree (r.run ps) (ps.flatMap r.tries)

section Bounded

variable {body : Core} (hbody : Backtracks text body)

/-- No choice has been made in the parts from some level on. -/
def Fresh (level : Nat) (p : Point) : Prop :=
  ∀ c ∈ p.trail, ∀ i, level ≤ i → ¬[2 * i] <:+ c ∧ c ≠ [2 * i + 1]

lemma Fresh.mono {level n : Nat} (h : Fresh level p) (hn : level ≤ n) : Fresh n p :=
  fun c hc i hi => h c hc i (hn.trans hi)

lemma Fresh.clear (level : Nat) (p : Point) : Fresh level p.clear :=
  fun _ hc => absurd hc List.not_mem_nil

lemma suffix_single {i j : Nat} : [i] <:+ [j] ↔ i = j := by
  constructor
  · intro h
    exact (List.cons.inj (h.eq_of_length rfl)).1
  · exact fun h => h ▸ List.suffix_refl _

lemma Fresh.mark {level : Nat} (h : Fresh level p) : Fresh (level + 1) (p.mark [2 * level + 1]) := by
  intro c hc i hi
  rcases List.mem_cons.mp hc with rfl | hc
  · rw [suffix_single, Ne, List.cons.injEq]
    omega
  · exact h c hc i (by omega)

lemma fresh_ends {level : Nat} (h : ∀ p ∈ ps, Fresh (level + 1) p) : ∀ q ∈ body.ends [2 * level] ps, Fresh (level + 1) q := by
  intro q hq c hc i hi
  rcases Core.trail_ends hq hc with ⟨d, rfl⟩ | ⟨p, hp, hc⟩
  · refine ⟨fun hs => ?_, fun he => ?_⟩
    · have hlen : ([2 * i] : Path).length = [2 * level].length := rfl
      have heq := (List.suffix_of_suffix_length_le hs (List.suffix_append d _) hlen.le).eq_of_length hlen
      have := (List.cons.inj heq).1
      omega
    · have hs : [2 * level] <:+ [2 * i + 1] := ⟨d, he⟩
      rw [suffix_single] at hs
      omega
  · exact h p hp c hc i hi

lemma map_clear_level {level : Nat} (h : ∀ p ∈ ps, ∀ c ∈ p.trail, ¬[2 * level] <:+ c) :
    (body.ends [2 * level] ps).map Point.clear = body.run ps :=
  Core.map_clear_ends fun p hp d hd => h p hp _ hd ⟨d, rfl⟩

include hbody in
/-- The part at a level leads to what is tried there, whatever comes next. -/
lemma agree_ends {f : Point → List Point} (hf : Placed f) (hclear : ∀ p, f p.clear = f p) {level : Nat}
    (hps : ∀ p ∈ ps, p.On text) (htrail : ∀ p ∈ ps, ∀ c ∈ p.trail, ¬[2 * level] <:+ c) :
    Agree ((body.ends [2 * level] ps).flatMap f) (ps.flatMap fun p => (body.tries p).flatMap f) := by
  have hrun : (body.ends [2 * level] ps).flatMap f = (body.run ps).flatMap f := by
    rw [← map_clear_level htrail, List.flatMap_map]
    exact List.flatMap_congr fun q _ => (hclear q).symm
  have hbind := (hbody ps hps).flatMap_placed hf (Core.on_run hps) fun q hq => by
    obtain ⟨p, hp, hq⟩ := List.mem_flatMap.mp hq
    exact (hps p hp).tries body q hq
  rw [List.flatMap_assoc] at hbind
  exact hrun ▸ hbind

include hbody in
/-- From a point that is marked at a level the part there leads to what is tried from the point itself. -/
lemma agree_marked {f : Point → List Point} (hf : Placed f) (hclear : ∀ p, f p.clear = f p) {level : Nat}
    (hp : p.On text) (hfresh : Fresh level p) :
    Agree ((body.ends [2 * level] [p.mark [2 * level + 1]]).flatMap f) ((body.tries p).flatMap f) := by
  have hmark : body.tries (p.mark [2 * level + 1]) = body.tries p :=
    (body.tries_clear (p.mark _)).symm.trans (body.tries_clear p)
  have htrail : ∀ c ∈ (p.mark [2 * level + 1]).trail, ¬[2 * level] <:+ c := by
    intro c hc
    rcases List.mem_cons.mp hc with rfl | hc
    · rw [suffix_single]
      omega
    · exact (hfresh c hc level (Nat.le_refl _)).1
  have hends := agree_ends hbody hf hclear (hp.mark [2 * level + 1]).single (List.forall_mem_singleton.mpr htrail)
  rwa [List.flatMap_singleton, hmark] at hends

include hbody in
lemma agree_copies (n level : Nat) (hps : ∀ p ∈ ps, p.On text) (hfresh : ∀ p ∈ ps, Fresh level p) :
    Agree ((copies (fun i => body.ends [2 * i]) n level ps).map Point.clear) (ps.flatMap (times body.tries n)) ∧
      ∀ q ∈ copies (fun i => body.ends [2 * i]) n level ps, q.On text ∧ Fresh (level + n) q := by
  induction n generalizing level ps with
  | zero =>
    refine ⟨?_, fun q hq => ⟨hps q hq, hfresh q hq⟩⟩
    rw [copies, List.map_eq_flatMap]
    exact .refl _
  | succ n ih =>
    have hon := @Core.on_ends body [2 * level] _ _ hps
    have hnext := @fresh_ends _ body level fun p hp => (hfresh p hp).mono (Nat.le_succ level)
    have hplaced : Placed (times body.tries n) := fun _ _ h => h.times body.placed_tries n
    obtain ⟨hagree, hall⟩ := ih (level + 1) hon hnext
    refine ⟨?_, fun q hq => ?_⟩
    · exact hagree.trans (agree_ends hbody hplaced (times_clear body.tries_clear n) hps fun p hp c hc =>
        (hfresh p hp c hc level (Nat.le_refl _)).1)
    · rw [← Nat.add_right_comm, Nat.add_assoc] at *
      exact hall q hq

/-- Where the levels of a tour have been, each with a number of parts left, they have found all that is tried there. -/
def Exhausted (f : Point → List Point) (text : List Char) : Nat → Tour → Prop
  | 0, _ => True
  | k + 1, t => Tour.Closed (upTo f (k + 1)) text t ∧ Exhausted f text k ⟨t.masks.tail, t.found⟩

omit hbody in
lemma Exhausted.more {f : Point → List Point} {k : Nat} {t u : Tour} (h : Exhausted f text k t) (hm : u.masks = t.masks)
    (ho : ∀ s ∈ t.order, ∃ s' ∈ u.order, s'.pos = s.pos) : Exhausted f text k u := by
  induction k generalizing t u with
  | zero => trivial
  | succ k ih =>
    refine ⟨fun x hx hv r hr => ?_, ih h.2 (congrArg List.tail hm) ho⟩
    rw [Tour.visited, hm] at hv
    obtain ⟨s, hs, hpos⟩ := h.1 x hx hv r hr
    obtain ⟨s', hs', hpos'⟩ := ho s hs
    exact ⟨s', hs', hpos'.trans hpos⟩

omit hbody in
lemma Exhausted.empty (f : Point → List Point) (text : List Char) (k : Nat) : Exhausted f text k .empty := by
  induction k with
  | zero => trivial
  | succ k ih => exact ⟨Tour.closed_empty _ text, ih⟩

omit hbody in
lemma Agree.positions {qs : List Point} (h : Agree ps qs) (hq : q ∈ qs) : ∃ p ∈ ps, p.pos = q.pos := by
  obtain ⟨o, ho, hpos⟩ := exists_mem_distinct hq
  have h : distinct ps = distinct qs := h
  exact ⟨o, mem_of_mem_distinct (h ▸ ho), hpos⟩

include hbody in
lemma agree_options (k level : Nat) (hp : p.On text) (hfresh : Fresh level p) {t : Tour}
    (ht : Exhausted body.tries text k t) :
    Exhausted body.tries text k
        (options (fun i => body.ends [2 * i]) (fun i => [2 * i + 1]) true k level p t) ∧
      Agree (options (fun i => body.ends [2 * i]) (fun i => [2 * i + 1]) true k level p t).order
        (t.order ++ upTo body.tries k p) := by
  induction k generalizing level p t with
  | zero => exact ⟨trivial, Tour.order_add t p ▸ .refl _⟩
  | succ k ih =>
    have hplaced : ∀ k, Placed (upTo body.tries k) := fun k _ _ h => h.upTo body.placed_tries k
    by_cases hv : t.visited p.pos = true
    · rw [options_visited k level hv]
      exact ⟨ht, (Agree.absorb fun r hr => ht.1 p hp hv r hr).symm⟩
    · have hchoice : p.trail.contains [2 * level + 1] = false := by
        refine Bool.eq_false_iff.mpr fun hc => ?_
        exact (hfresh _ (List.contains_iff_mem.mp hc) level (Nat.le_refl _)).2 rfl
      have hon := @Core.on_ends body [2 * level] _ _ (hp.mark [2 * level + 1]).single
      have hnext := @fresh_ends _ body level (List.forall_mem_singleton.mpr hfresh.mark)
      -- the parts that follow this one are toured at the levels below
      obtain ⟨hbelow, hagree⟩ := Tour.agree_foldl
        (fun e he t ht => ih (level + 1) (hon e he) (hnext e he) ht) ht.2
      set u := (body.ends [2 * level] [p.mark [2 * level + 1]]).foldl (fun t e =>
        options (fun i => body.ends [2 * i]) (fun i => [2 * i + 1]) true k (level + 1) e t) ⟨t.masks.tail, t.found⟩
      have hfresh' : options (fun i => body.ends [2 * i]) (fun i => [2 * i + 1]) true (k + 1) level p t =
          ⟨(t.visit p.pos).masks.headD 0 :: u.masks, p.mark [2 * level + 1] :: u.found⟩ := by
        rw [options, hchoice, Bool.eq_false_iff.mpr hv]
        rfl
      have hflat := agree_marked hbody (hplaced k) (upTo_clear body.tries_clear k) hp hfresh
      have horder : Agree (u.order ++ [p.clear]) (t.order ++ upTo body.tries (k + 1) p) := by
        have hall := (hagree.trans (Agree.append (.refl _) hflat)).append (.refl [p.clear])
        rw [List.append_assoc] at hall
        exact hall
      have hu : (⟨(t.visit p.pos).masks.headD 0 :: u.masks, p.mark [2 * level + 1] :: u.found⟩ : Tour).order =
          u.order ++ [p.clear] := Tour.order_add u (p.mark [2 * level + 1])
      rw [hfresh']
      refine ⟨⟨fun x hx hv r hr => ?_, hbelow.more rfl fun s hs => ?_⟩, hu ▸ horder⟩
      · rw [hu]
        rcases (t.visited_visit p.pos x.pos).mp hv with hv | hpos
        · obtain ⟨s, hs, hsr⟩ := ht.1 x hx hv r hr
          obtain ⟨s', hs', hss⟩ := horder.positions (List.mem_append_left _ hs)
          exact ⟨s', hs', hss.trans hsr⟩
        · obtain ⟨s, hs, hsr⟩ := (hplaced (k + 1)).positions hx hp hpos.symm r hr
          obtain ⟨s', hs', hss⟩ := horder.positions (List.mem_append_right _ hs)
          exact ⟨s', hs', hss.trans hsr⟩
      · exact ⟨s, hu ▸ List.mem_append_left _ hs, rfl⟩

end Bounded

section Unbounded

variable {s : CharSet}

lemma walk_clear (accepts : Char → Bool) (allows : Nat → Bool) (p : Point) :
    walk accepts allows p.clear = walk accepts allows p :=
  rfl

lemma times_chars (n : Nat) (p : Point) : times (Core.chars s).tries n p = walk s.contains (fun k => k == n) p := by
  induction n generalizing p with
  | zero => exact (walk_stay fun _ => rfl).symm
  | succ n ih =>
    rw [times, walk_succ]
    exact List.flatMap_congr fun q _ => ih q

lemma upTo_chars {n : Nat} (hn : p.rest.length ≤ n) : upTo (Core.chars s).tries n p = walk s.contains (fun _ => true) p := by
  induction n generalizing p with
  | zero =>
    have hnil : p.rest = [] := List.eq_nil_of_length_eq_zero (Nat.le_zero.mp hn)
    have hstop : p.next? s.contains = none := by rw [Point.next?, hnil]
    rw [walk_stop hstop]
    rfl
  | succ n ih =>
    rw [upTo, Core.tries]
    cases hq : p.next? s.contains with
    | none =>
      rw [walk_stop hq]
      rfl
    | some q =>
      obtain ⟨c, rest, hr, -, rfl⟩ := Point.next?_eq_some.mp hq
      rw [hr, List.length_cons] at hn
      rw [walk_next hq, Option.toList_some, List.flatMap_singleton, ih (Nat.le_of_succ_le_succ hn)]
      rfl

lemma walk_atLeast (accepts : Char → Bool) (n : Nat) (p : Point) :
    (walk accepts (fun k => k == n) p).flatMap (walk accepts fun _ => true) = walk accepts (fun k => decide (n ≤ k)) p := by
  induction n generalizing p with
  | zero =>
    rw [@walk_stay _ (fun k => k == 0) p fun _ => rfl, List.flatMap_singleton, walk_clear]
    simp only [Nat.zero_le, decide_true]
  | succ n ih =>
    rw [walk_succ, List.flatMap_assoc]
    cases hq : p.next? accepts with
    | none =>
      rw [walk_stop hq]
      rfl
    | some q =>
      rw [Option.toList_some, List.flatMap_singleton, ih, walk_next hq]
      simp

lemma Core.tries_repeated_chars (min : Nat) (greedy : Bool) (p : Point) :
    (repetition min none greedy (chars s)).tries p = walk s.contains (fun k => decide (min ≤ k)) p := by
  rw [tries, times_chars, ← walk_atLeast]
  exact List.flatMap_congr fun q _ => upTo_chars (Nat.le_refl _)

lemma trail_chars {path : Path} (h : q ∈ (Core.chars s).ends path ps) : q.trail = [] := by
  obtain ⟨p, -, hq⟩ := List.mem_filterMap.mp h
  obtain ⟨_, _, -, -, rfl⟩ := Point.next?_eq_some.mp hq
  rfl

lemma backtracks_repeated_chars (hs : s.isEmpty = false) (min : Nat) (hps : ∀ p ∈ ps, p.On text) :
    Agree ((Core.repetition min none true (.chars s)).run ps)
      (ps.flatMap (walk s.contains fun k => decide (min ≤ k))) := by
  cases min with
  | zero =>
    simp only [Nat.zero_le, decide_true]
    exact Core.agree_any hs hps
  | succ n =>
    have hstep : ∀ p, (Core.chars s).ends [2 * n] [p] = (p.next? s.contains).toList := by
      intro p
      rw [Core.ends, List.filterMap_cons, List.filterMap_nil]
      cases p.next? s.contains <;> rfl
    set qs := copies (fun i => (Core.chars s).ends [2 * i]) (n + 1) 0 (ps.map Point.clear)
    have hlast : qs = (Core.chars s).ends [2 * (0 + n)] (copies (fun i => (Core.chars s).ends [2 * i]) n 0
        (ps.map Point.clear)) := copies_succ _ n 0 _
    have htrail : ∀ q ∈ qs, q.trail = [] := fun q hq => trail_chars (hlast ▸ hq)
    have hqs : qs = ps.flatMap (walk s.contains fun k => k == n + 1) := by
      have hclear : qs.map Point.clear = qs :=
        (List.map_congr_left fun q hq => Point.clear_eq (htrail q hq)).trans (List.map_id _)
      rw [← hclear, Core.copies_chars, List.flatMap_map]
      rfl
    have hon : ∀ q ∈ qs, q.On text := fun q hq => by
      obtain ⟨p, hp, hq⟩ := List.mem_flatMap.mp (hqs ▸ hq)
      exact (hps p hp).of_mem_walk hq
    have hempty : Tour.Closed (walk s.contains fun _ => true) text .empty := Tour.closed_empty _ text
    have hfold := (Tour.agree_foldl (fun q hq t hc => @agree_laps s.contains text q [2 * n + 1] _ hstep _ (hon q hq)
      (htrail q hq) (Nat.lt_succ_self _) t hc) hempty).2
    refine (Tour.agree_points _).trans (hfold.trans ?_)
    have hall : qs.flatMap (walk s.contains fun _ => true) =
        ps.flatMap (walk s.contains fun k => decide (n + 1 ≤ k)) := by
      rw [hqs, List.flatMap_assoc]
      exact List.flatMap_congr fun p _ => walk_atLeast s.contains (n + 1) p
    exact hall ▸ .refl _

end Unbounded

namespace Core

lemma agree_options_run {body : Core} {min more : Nat} (hbody : Backtracks text body) :
    Backtracks text (repetition min (some more) true body) := by
  intro ps hps
  have hon : ∀ p ∈ ps.map Point.clear, p.On text := List.forall_mem_map.mpr fun p hp => (hps p hp).clear
  have hfresh : ∀ p ∈ ps.map Point.clear, Fresh 0 p := List.forall_mem_map.mpr fun p _ => .clear 0 p
  obtain ⟨hcopies, hall⟩ := agree_copies hbody min 0 hon hfresh
  set qs := copies (fun i => body.ends [2 * i]) min 0 (ps.map Point.clear)
  have hempty : Exhausted body.tries text more .empty := .empty _ _ _
  have hfold := (Tour.agree_foldl (fun q hq t ht => agree_options hbody more min (hall q hq).1
    (Nat.zero_add min ▸ (hall q hq).2) ht) hempty).2
  have hrun : Agree ((repetition min (some more) true body).run ps) (qs.flatMap (upTo body.tries more)) :=
    (Tour.agree_points _).trans hfold
  have hclear : qs.flatMap (upTo body.tries more) = (qs.map Point.clear).flatMap (upTo body.tries more) := by
    rw [List.flatMap_map]
    exact List.flatMap_congr fun q _ => (upTo_clear body.tries_clear more q).symm
  have hplaced : Placed (upTo body.tries more) := fun _ _ h => h.upTo body.placed_tries more
  rw [List.flatMap_map] at hcopies
  have hbind := hcopies.flatMap_placed hplaced
    (List.forall_mem_map.mpr fun q hq => (hall q hq).1.clear) fun q hq => by
      obtain ⟨p, hp, hq⟩ := List.mem_flatMap.mp hq
      exact mem_times (fun _ h => h.clear) (fun _ h => h.tries body) min (hps p hp).clear q hq
  rw [hclear] at hrun
  refine hrun.trans (hbind.trans ?_)
  rw [List.flatMap_assoc]
  have htries : ∀ p, (times body.tries min p.clear).flatMap (upTo body.tries more) =
      (repetition min (some more) true body).tries p := fun p => by
    rw [times_clear body.tries_clear]
    rfl
  rw [List.flatMap_congr fun p _ => htries p]
  exact .refl _

lemma backtracks_look (text : List Char) (l : Look) : Backtracks text (look l) := by
  intro ps _
  have hfilter : ∀ ps : List Point, (ps.map Point.clear).filter (fun p => l.holds p.prev p.rest.head?) =
      ps.flatMap (look l).tries := fun ps => by
    induction ps with
    | nil => rfl
    | cons p ps ih =>
      have hp : l.holds p.clear.prev p.clear.rest.head? = l.holds p.prev p.rest.head? := rfl
      rw [List.map_cons, List.filter_cons, List.flatMap_cons, tries, ih, hp]
      cases l.holds p.prev p.rest.head? <;> rfl
  rw [run_look, hfilter]
  exact .refl _

lemma backtracks_capture {body : Core} (h : Backtracks text body) (index : Nat) : Backtracks text (capture index body) := by
  intro ps hps
  have hbody := h (ps.map (·.begin index)) (List.forall_mem_map.mpr fun p hp => (hps p hp).begin index)
  have hfinish : ∀ p : Point, p.finish.pos = p.pos := fun p => p.pos_finish
  have hmap := hbody.map hfinish
  rw [List.flatMap_map, List.map_flatMap] at hmap
  rw [run_capture]
  exact hmap

lemma backtracks_seq {a b : Core} (ha : Backtracks text a) (hb : Backtracks text b) : Backtracks text (seq a b) := by
  intro ps hps
  have hfirst := (ha ps hps).flatMap_placed b.placed_tries (on_run hps) fun q hq => by
    obtain ⟨p, hp, hq⟩ := List.mem_flatMap.mp hq
    exact (hps p hp).tries a q hq
  rw [List.flatMap_assoc] at hfirst
  rw [run_seq]
  exact (hb _ (on_run hps)).trans hfirst

lemma backtracks_alt {a b : Core} (ha : Backtracks text a) (hb : Backtracks text b) : Backtracks text (alt a b) := by
  intro ps hps
  rw [run_alt]
  refine (agree_distinct _).trans (Agree.flatMap fun p hp => ?_)
  have hone : ∀ r : Core, Backtracks text r → Agree (r.run [p]) (r.tries p) := fun r hr => by
    have hr := hr [p] (hps p hp).single
    rwa [List.flatMap_singleton] at hr
  exact (hone a ha).append (hone b hb)

/-- A run reaches what backtracking tries, in the same order but for what has been reached before. -/
theorem backtracks {r : Core} (h : r.tame = true) (text : List Char) : Backtracks text r := by
  induction r with
  | empty =>
    intro ps _
    rw [run_empty, List.map_eq_flatMap]
    exact .refl _
  | literal cs =>
    intro ps _
    rw [run_literal, List.filterMap_map, List.filterMap_eq_flatMap_toList]
    exact .refl _
  | chars s =>
    intro ps _
    rw [run_chars, List.filterMap_eq_flatMap_toList]
    exact .refl _
  | look l => exact backtracks_look text l
  | repetition min more greedy body ih =>
    cases more with
    | some more =>
      obtain ⟨rfl, hbody⟩ := (Bool.and_eq_true _ _).mp h
      exact agree_options_run (ih hbody)
    | none =>
      cases body with
      | chars s =>
        obtain ⟨rfl, hs⟩ := (Bool.and_eq_true _ _).mp h
        intro ps hps
        rw [List.flatMap_congr fun p _ => tries_repeated_chars min true p]
        exact backtracks_repeated_chars (Bool.not_eq_true' _ ▸ hs) min hps
      | _ => cases h
  | capture index body ih => exact backtracks_capture (ih h) index
  | seq a b iha ihb =>
    obtain ⟨ha, hb⟩ := (Bool.and_eq_true _ _).mp h
    exact backtracks_seq (iha ha) (ihb hb)
  | alt a b iha ihb =>
    obtain ⟨ha, hb⟩ := (Bool.and_eq_true _ _).mp h
    exact backtracks_alt (iha ha) (ihb hb)

end Core

end TypedPattern.Regex
