import TypedPattern.Proofs.Matching.Backtracking
import TypedPattern.Proofs.Matching.Onward
import TypedPattern.Proofs.Matching.Passage

/-!
Expressions that prefer the longest match. The points that backtracking tries come from the farthest one to the nearest
one, but for those that have been before.
-/

namespace TypedPattern

/-- Whether each range of a set lies in one of another's. Both are gone through once. -/
def CharSet.within (s t : CharSet) : Bool :=
  (t.ranges.foldl (fun rs u => rs.dropWhile fun r => decide (u.lo ≤ r.lo) && decide (r.hi ≤ u.hi)) s.ranges).isEmpty

lemma CharSet.contains_of_within {s t : CharSet} (h : s.within t = true) {c : Char} (hc : s.contains c = true) :
    t.contains c = true := by
  have hall : ∀ us rs : List CharRange,
      (us.foldl (fun rs u => rs.dropWhile fun r => decide (u.lo ≤ r.lo) && decide (r.hi ≤ u.hi)) rs).isEmpty = true →
        ∀ r ∈ rs, ∃ u ∈ us, u.lo ≤ r.lo ∧ r.hi ≤ u.hi := by
    intro us
    induction us with
    | nil =>
      intro rs hrs r hr
      obtain rfl : rs = [] := List.isEmpty_iff.mp hrs
      exact absurd hr List.not_mem_nil
    | cons u us ih =>
      intro rs hrs r hr
      rw [← @List.takeWhile_append_dropWhile _ (fun r => decide (u.lo ≤ r.lo) && decide (r.hi ≤ u.hi)) rs] at hr
      rcases List.mem_append.mp hr with hr | hr
      · have hin := List.all_eq_true.mp List.all_takeWhile r hr
        rw [Bool.and_eq_true, decide_eq_true_eq, decide_eq_true_eq] at hin
        exact ⟨u, List.mem_cons_self, hin⟩
      · obtain ⟨v, hv, hin⟩ := ih _ hrs r hr
        exact ⟨v, List.mem_cons_of_mem u hv, hin⟩
  obtain ⟨r, hr, hin⟩ := List.any_eq_true.mp hc
  obtain ⟨u, hu, hlo, hhi⟩ := hall t.ranges s.ranges h r hr
  rw [CharRange.contains, Bool.and_eq_true, decide_eq_true_eq, decide_eq_true_eq] at hin
  refine List.any_eq_true.mpr ⟨u, hu, ?_⟩
  rw [CharRange.contains, Bool.and_eq_true, decide_eq_true_eq, decide_eq_true_eq]
  omega

namespace Regex

variable {f : Point → List Point} {ps qs : List Point} {p q : Point} {text : List Char}

section Words

lemma times_leads {R : Spot → Spot → Prop} (hf : ∀ p, ∀ q ∈ f p, R p.spot q.spot) {n : Nat} (h : q ∈ times f n p) :
    Times R n p.spot q.spot := by
  induction n generalizing p with
  | zero => exact (List.mem_singleton.mp h) ▸ rfl
  | succ n ih =>
    obtain ⟨o, ho, h⟩ := List.mem_flatMap.mp h
    exact ⟨o.spot, hf p o ho, ih h⟩

lemma upTo_leads {R : Spot → Spot → Prop} (hf : ∀ p, ∀ q ∈ f p, R p.spot q.spot) {n : Nat} (h : q ∈ upTo f n p) :
    ∃ k ≤ n, Times R k p.spot q.spot := by
  induction n generalizing p with
  | zero => exact ⟨0, Nat.le_refl 0, (List.mem_singleton.mp h) ▸ rfl⟩
  | succ n ih =>
    rcases List.mem_append.mp h with h | h
    · obtain ⟨o, ho, h⟩ := List.mem_flatMap.mp h
      obtain ⟨k, hk, htimes⟩ := ih h
      exact ⟨k + 1, Nat.succ_le_succ hk, o.spot, hf p o ho, htimes⟩
    · exact ⟨0, Nat.zero_le _, (List.mem_singleton.mp h) ▸ rfl⟩

lemma Core.leads_of_mem_tries {r : Core} (h : q ∈ r.tries p) : r.Leads p.spot q.spot := by
  induction r generalizing p q with
  | empty => exact (List.mem_singleton.mp h) ▸ rfl
  | literal cs => exact (Point.literal?_spec (Option.mem_toList.mp h)).1
  | chars s => exact (Point.next?_spec (Option.mem_toList.mp h)).1
  | look l =>
    rw [tries] at h
    split at h
    · rename_i hholds
      exact ⟨(List.mem_singleton.mp h) ▸ rfl, hholds⟩
    · exact absurd h List.not_mem_nil
  | repetition min more greedy body ih =>
    obtain ⟨o, ho, h⟩ := List.mem_flatMap.mp h
    obtain ⟨k, hk, hmore⟩ := upTo_leads (fun _ _ => ih) h
    refine ⟨k, fun m hm => ?_, (times_leads (fun _ _ => ih) ho).add hmore⟩
    rw [Option.mem_def.mp hm] at hk
    exact hk
  | capture index body ih =>
    obtain ⟨o, ho, rfl⟩ := List.mem_map.mp h
    exact o.spot_finish ▸ (ih ho : body.Leads (p.begin index).spot o.spot)
  | seq a b iha ihb =>
    obtain ⟨o, ho, h⟩ := List.mem_flatMap.mp h
    exact ⟨o.spot, iha ho, ihb h⟩
  | alt a b iha ihb => exact (List.mem_append.mp h).imp iha ihb

lemma Core.spells_of_mem_tries {r : Core} (h : q ∈ r.tries p) : ∃ w, p.rest = w ++ q.rest ∧ r.Spells w :=
  (leads_of_mem_tries h).spells

end Words

section Falling

/-- The farther a point, the earlier it comes, but for those that have been before. -/
def Falling (ps : List Point) : Prop :=
  (distinct ps).Pairwise fun p q => q.pos < p.pos

lemma Agree.falling (h : Agree ps qs) (hq : Falling qs) : Falling ps := by
  have h : distinct ps = distinct qs := h
  rwa [Falling, h]

lemma distinct_sublist (ps : List Point) : (distinct ps).Sublist ps := by
  induction ps with
  | nil => exact .slnil
  | cons p ps ih =>
    rw [distinct_cons]
    exact .cons_cons p (List.filter_sublist.trans ih)

lemma falling_of_pairwise (h : ps.Pairwise fun p q => q.pos < p.pos) : Falling ps :=
  h.sublist (distinct_sublist ps)

lemma falling_toList (o : Option Point) : Falling o.toList := by
  refine falling_of_pairwise ?_
  cases o with
  | none => exact .nil
  | some p => exact List.pairwise_singleton _ p

lemma Falling.append (hp : Falling ps) (hq : Falling qs) (h : ∀ p ∈ ps, ∀ q ∈ qs, q.pos ≤ p.pos) :
    Falling (ps ++ qs) := by
  rw [Falling, distinct_append]
  refine List.pairwise_append.mpr ⟨hp, List.Pairwise.filter _ hq, fun p hmem q hmem' => ?_⟩
  obtain ⟨hmem', hnew⟩ := List.mem_filter.mp hmem'
  have hne := of_decide_eq_true (List.all_eq_true.mp hnew p (mem_of_mem_distinct hmem))
  exact Nat.lt_of_le_of_ne (h p (mem_of_mem_distinct hmem) q (mem_of_mem_distinct hmem')) (Ne.symm hne)

lemma falling_flatMap (hf : ∀ p ∈ ps, Falling (f p))
    (h : ps.Pairwise fun p q => ∀ x ∈ f p, ∀ y ∈ f q, y.pos ≤ x.pos) : Falling (ps.flatMap f) := by
  induction ps with
  | nil => exact .nil
  | cons p ps ih =>
    obtain ⟨hfirst, hrest⟩ := List.forall_mem_cons.mp hf
    obtain ⟨hcross, hpairs⟩ := List.pairwise_cons.mp h
    rw [List.flatMap_cons]
    refine hfirst.append (ih hrest hpairs) fun x hx y hy => ?_
    obtain ⟨q, hq, hy⟩ := List.mem_flatMap.mp hy
    exact hcross q hq x hx y hy

lemma Agree.head? (h : Agree ps qs) : ps.head? = qs.head? := by
  have hfirst : ∀ ps : List Point, (distinct ps).head? = ps.head? := fun ps => by
    cases ps with
    | nil => rfl
    | cons p ps => rw [distinct_cons, List.head?_cons, List.head?_cons]
  have h : distinct ps = distinct qs := h
  rw [← hfirst ps, h, hfirst qs]

lemma Falling.head? (h : Falling ps) (hq : q ∈ ps) : ∃ p, ps.head? = some p ∧ q.pos ≤ p.pos := by
  cases ps with
  | nil => exact absurd hq List.not_mem_nil
  | cons p ps =>
    refine ⟨p, rfl, ?_⟩
    obtain ⟨o, ho, hpos⟩ := exists_mem_distinct hq
    rw [distinct_cons] at ho
    rw [Falling, distinct_cons] at h
    rw [← hpos]
    rcases List.mem_cons.mp ho with rfl | ho
    · exact Nat.le_refl _
    · exact ((List.pairwise_cons.mp h).1 o ho).le

lemma Point.On.exists_between (hp : p.On text) (hq : q.On text) (h : p.pos < q.pos) :
    ∃ t, t ≠ [] ∧ p.rest = t ++ q.rest := by
  have hsuffix : ∀ o : Point, o.On text → o.rest <:+ text := fun o ho => by
    obtain ⟨before, htext, -⟩ := ho
    exact ⟨before, htext.symm⟩
  rcases List.suffix_or_suffix_of_suffix (hsuffix p hp) (hsuffix q hq) with hle | ⟨t, ht⟩
  · have := hq.pos_le hp hle
    omega
  · refine ⟨t, ?_, ht.symm⟩
    rintro rfl
    have := hp.pos_eq hq ht.symm
    omega

end Falling

namespace Core

/-- Backtracking tries the longer matches before the shorter ones. Of repetitions only those of single characters without
a limit are looked at, the others are spread out before. -/
def falls : Core → Bool
  | empty => true
  | literal _ => true
  | chars _ => true
  | look _ => true
  | repetition _ none _ (chars _) => true
  | repetition _ _ _ _ => false
  | capture _ body => body.falls
  | seq a b => a.falls && b.falls && a.staysBehind b
  | alt a b => a.falls && b.falls && (a.clash b || b.shorter a)

variable {a b : Core} {o o' : Point}

/-- What is reached by way of a point is no farther than what is reached by way of one farther on. -/
lemma pos_le_of_stays (h : a.staysBehind b = true) (hp : p.On text) (ho : o ∈ a.tries p) (ho' : o' ∈ a.tries p)
    (hpos : o'.pos < o.pos) : ∀ x ∈ b.tries o, ∀ y ∈ b.tries o', y.pos ≤ x.pos := by
  intro x hx y hy
  have hon := hp.tries a o ho
  have hon' := hp.tries a o' ho'
  obtain ⟨t, ht, hbetween⟩ := hon'.exists_between hon hpos
  obtain ⟨u, hu, hspells⟩ := spells_of_mem_tries ho
  obtain ⟨u', hu', hspells'⟩ := spells_of_mem_tries ho'
  obtain ⟨v, hv, -⟩ := spells_of_mem_tries hx
  obtain ⟨v', hv', hback⟩ := spells_of_mem_tries hy
  have hlong : u = u' ++ t := by
    rw [hu, hbetween, ← List.append_assoc] at hu'
    exact List.append_cancel_right hu'
  -- the word behind the nearer point ends before the farther one
  obtain ⟨s, rfl⟩ := Spells.stays h hspells' (hlong ▸ hspells) ht hback (hv'.symm.trans hbetween)
  have hrest : y.rest = s ++ o.rest := by
    rw [hv', List.append_assoc] at hbetween
    exact List.append_cancel_left hbetween
  refine (hon'.tries b y hy).pos_le (hon.tries b x hx) ⟨s ++ v, ?_⟩
  rw [hrest, hv, List.append_assoc]

lemma pos_le_of_alternatives (h : (a.clash b || b.shorter a) = true) (hp : p.On text) :
    ∀ x ∈ a.tries p, ∀ y ∈ b.tries p, y.pos ≤ x.pos := by
  intro x hx y hy
  obtain ⟨u, hu, hspells⟩ := spells_of_mem_tries hx
  obtain ⟨v, hv, hspells'⟩ := spells_of_mem_tries hy
  have hboth := hu.symm.trans hv
  rcases (Bool.or_eq_true _ _).mp h with hclash | hshorter
  · exact absurd ((hspells.not_clash hspells' hboth).symm.trans hclash) Bool.false_ne_true
  · have hle := hspells'.length_le_of_shorter hspells hshorter
    obtain ⟨s, rfl⟩ := List.prefix_of_prefix_length_le (hboth ▸ List.prefix_append v y.rest) (List.prefix_append u x.rest) hle
    rw [List.append_assoc] at hboth
    exact (hp.tries b y hy).pos_le (hp.tries a x hx) ⟨s, List.append_cancel_left hboth⟩

lemma falling_walk (accepts : Char → Bool) (allows : Nat → Bool) (p : Point) : Falling (walk accepts allows p) := by
  refine falling_of_pairwise (List.pairwise_map.mpr ((pairwise_pieces p.rest).imp_of_mem fun {l l'} hl hl' hlt => ?_))
  obtain ⟨s, rfl⟩ := List.prefix_of_prefix_length_le (mem_pieces.mp hl').1 (mem_pieces.mp hl).1 hlt.le
  rw [Point.pos_advance, Point.pos_advance, Text.byteLength_append]
  cases s with
  | nil =>
    rw [List.append_nil] at hlt
    exact absurd hlt (Nat.lt_irrefl _)
  | cons c s =>
    have := c.utf8Size_pos
    rw [Text.byteLength]
    omega

theorem falling_tries {r : Core} (h : r.falls = true) (hp : p.On text) : Falling (r.tries p) := by
  induction r generalizing p with
  | empty => exact falling_toList (some p.clear)
  | literal cs => exact falling_toList _
  | chars s => exact falling_toList _
  | look l =>
    rw [tries]
    split
    · exact falling_toList (some p.clear)
    · exact falling_toList none
  | repetition min more greedy body ih =>
    cases more with
    | some more => cases h
    | none =>
      cases body with
      | chars s =>
        rw [tries_repeated_chars]
        exact falling_walk _ _ p
      | _ => cases h
  | capture index body ih =>
    have hbody : Falling (body.tries (p.begin index)) := ih h (hp.begin index)
    rw [tries, Falling, distinct_map Point.pos_finish]
    exact List.pairwise_map.mpr (hbody.imp fun hlt => by rwa [Point.pos_finish, Point.pos_finish])
  | seq a b iha ihb =>
    rw [falls, Bool.and_eq_true, Bool.and_eq_true] at h
    obtain ⟨⟨ha, hb⟩, hstays⟩ := h
    -- from points that the first part reaches twice the second one reaches nothing new
    have hpositions : ∀ o ∈ a.tries p, ∀ o' ∈ a.tries p, o.pos = o'.pos → ∀ x ∈ b.tries o, ∃ y ∈ b.tries o', y.pos = x.pos :=
      fun o ho o' ho' hpos => b.placed_tries.positions (hp.tries a o ho) (hp.tries a o' ho') hpos
    refine (Agree.flatMap_distinct hpositions).falling (falling_flatMap (fun o ho => ?_) ?_)
    · exact ihb hb (hp.tries a o (mem_of_mem_distinct ho))
    · exact (iha ha hp).imp_of_mem fun ho ho' hlt =>
        pos_le_of_stays hstays hp (mem_of_mem_distinct ho) (mem_of_mem_distinct ho') hlt
  | alt a b iha ihb =>
    rw [falls, Bool.and_eq_true, Bool.and_eq_true] at h
    obtain ⟨⟨ha, hb⟩, hchoice⟩ := h
    exact (iha ha hp).append (ihb hb hp) (pos_le_of_alternatives hchoice hp)

section Spread

def copiesOf (b : Core) : Nat → Core
  | 0 => empty
  | n + 1 => seq b (b.copiesOf n)

def optionsOf (b : Core) : Nat → Core
  | 0 => empty
  | n + 1 => alt (seq b (b.optionsOf n)) empty

/-- The repetitions with a limit written out. -/
def spread : Core → Core
  | repetition min (some more) _ body => seq (body.spread.copiesOf min) (body.spread.optionsOf more)
  | capture index body => capture index body.spread
  | seq a b => seq a.spread b.spread
  | alt a b => alt a.spread b.spread
  | r => r

lemma tries_copiesOf (b : Core) (n : Nat) (p : Point) : (b.copiesOf n).tries p = times b.tries n p := by
  induction n generalizing p with
  | zero => rfl
  | succ n ih => exact List.flatMap_congr fun q _ => ih q

lemma tries_optionsOf (b : Core) (n : Nat) (p : Point) : (b.optionsOf n).tries p = upTo b.tries n p := by
  induction n generalizing p with
  | zero => rfl
  | succ n ih => exact congrArg (· ++ [p.clear]) (List.flatMap_congr fun q _ => ih q)

lemma tries_spread (r : Core) : r.spread.tries = r.tries := by
  induction r with
  | repetition min more greedy body ih =>
    cases more with
    | none => rfl
    | some more =>
      funext p
      rw [spread, tries, tries, tries_copiesOf, ih]
      refine List.flatMap_congr fun q _ => ?_
      rw [tries_optionsOf, ih, Option.getD_some]
  | capture index body ih =>
    funext p
    rw [spread, tries, tries, ih]
  | seq a b iha ihb =>
    funext p
    rw [spread, tries, tries, iha, ihb]
  | alt a b iha ihb =>
    funext p
    rw [spread, tries, tries, iha, ihb]
  | _ => rfl

end Spread

/-- A last part of single characters without a limit takes up whatever the parts before it could have. -/
def sweeps : Core → Bool
  | seq a (repetition 0 none true (chars s)) => a.alphabet.within s && !s.isEmpty
  | _ => false

/-- An expression that matches all of a text does so at once. -/
def eager (r : Core) : Bool :=
  r.sweeps || (r.tame && r.spread.falls)

variable {r : Core}

lemma falling_run (htame : r.tame = true) (hfalls : r.spread.falls = true) (hp : p.On text) : Falling (r.run [p]) := by
  have hagree := backtracks htame text [p] hp.single
  rw [List.flatMap_singleton, ← tries_spread] at hagree
  exact hagree.falling (falling_tries hfalls hp)

lemma head?_of_falling (h : Falling ps) (hps : ∀ p ∈ ps, p.On text) (hq : q ∈ ps) (hend : q.rest = []) :
    ∃ o, ps.head? = some o ∧ o.rest = [] := by
  obtain ⟨o, ho, hpos⟩ := h.head? hq
  have hon := hps o (List.mem_of_head? ho)
  have hback := hon.pos_le (hps q hq) (hend ▸ List.nil_suffix)
  have hspot := hon.spot_eq (hps q hq) (Nat.le_antisymm hback hpos)
  exact ⟨o, ho, (congrArg Spot.rest hspot).trans hend⟩

lemma leads_of_mem_run (hq : q ∈ r.run [p]) : r.Leads p.spot q.spot := by
  obtain ⟨p', hp', hcross⟩ := crosses_of_mem_run hq
  obtain rfl := List.mem_singleton.mp hp'
  exact hcross.leads

lemma head?_of_sweeps (h : r.sweeps = true) (hp : p.On text) (hq : q ∈ r.run [p]) (hend : q.rest = []) :
    ∃ o, (r.run [p]).head? = some o ∧ o.rest = [] := by
  unfold sweeps at h
  split at h
  · rename_i a s
    obtain ⟨hwithin, hs⟩ := (Bool.and_eq_true _ _).mp h
    rw [Bool.not_eq_true'] at hs
    -- all that is left of the text are characters of the set
    have hall : ∀ c ∈ p.rest, s.contains c = true := by
      obtain ⟨w, hw, u, v, hu, hv, rfl⟩ := (leads_of_mem_run hq).spells
      have hw : p.rest = u ++ v ++ q.rest := hw
      rw [hw, hend, List.append_nil]
      exact List.forall_mem_append.mpr ⟨fun c hc => CharSet.contains_of_within hwithin (hu.mem_alphabet c hc),
        hv.repeated_chars.2.2⟩
    rw [run_seq] at hq ⊢
    rw [(agree_any hs (on_run hp.single)).head?]
    obtain ⟨o, ho, -⟩ := crosses_of_mem_run hq
    obtain ⟨first, later, hfirst⟩ := List.exists_cons_of_ne_nil (List.ne_nil_of_mem ho)
    have hmem : first ∈ a.run [p] := hfirst ▸ List.mem_cons_self
    have hon := on_run hp.single first hmem
    have hwalk : first.advance first.rest ∈ walk s.contains (fun _ => true) first := by
      refine List.mem_map_of_mem (mem_pieces.mpr ⟨List.prefix_refl _, List.all_eq_true.mpr fun c hc => ?_, rfl⟩)
      exact hall c ((leads_of_mem_run hmem).suffix.subset hc)
    obtain ⟨o, ho, hrest⟩ := head?_of_falling (falling_walk _ _ first) (fun q => hon.of_mem_walk) hwalk
      (by rw [Point.rest_advance, List.drop_length])
    refine ⟨o, ?_, hrest⟩
    rw [hfirst, List.flatMap_cons, List.head?_append, ho]
    rfl
  · cases h

/-- Where an eager expression can reach the end of the text it prefers to. -/
theorem head?_of_eager (h : r.eager = true) (hp : p.On text) (hq : q ∈ r.run [p]) (hend : q.rest = []) :
    ∃ o, (r.run [p]).head? = some o ∧ o.rest = [] := by
  rcases (Bool.or_eq_true _ _).mp h with hsweeps | hfalls
  · exact head?_of_sweeps hsweeps hp hq hend
  · obtain ⟨htame, hfalls⟩ := (Bool.and_eq_true _ _).mp hfalls
    exact head?_of_falling (falling_run htame hfalls hp) (on_run hp.single) hq hend

lemma head?_capture_of_eager (h : r.eager = true) {index : Nat} (hp : p.On text) (hq : q ∈ (capture index r).run [p])
    (hend : q.rest = []) : ∃ o, ((capture index r).run [p]).head? = some o ∧ o.rest = [] := by
  have hrest : ∀ o : Point, o.finish.rest = o.rest := fun o => congrArg Spot.rest o.spot_finish
  rw [run_capture] at hq ⊢
  obtain ⟨o, ho, rfl⟩ := List.mem_map.mp hq
  obtain ⟨first, hfirst, hend⟩ := head?_of_eager h (hp.begin index) ho ((hrest o).symm.trans hend)
  exact ⟨first.finish, by rw [List.head?_map, List.map_singleton, hfirst, Option.map_some], (hrest first).trans hend⟩

end Core

end Regex

end TypedPattern
