import TypedPattern.Proofs.Matching.Run
import TypedPattern.Proofs.Matching.Structural

/-! The groups of an expression, and those that a run of it records. -/

namespace TypedPattern.Regex

open Text (ByteSpan byteLength)

namespace Core

variable {i : Nat}

lemma indices_parts (r : Core) : r.parts.flatMap indices = r.indices := by
  induction r with
  | empty => rfl
  | seq a b iha ihb => rw [parts, List.flatMap_append, iha, ihb, indices]
  | _ => exact List.append_nil _

lemma indices_prepend (x : Core) (xs : List Core) :
    (prepend x xs).flatMap indices = x.indices ++ xs.flatMap indices := by
  unfold prepend
  split <;> rfl

lemma indices_foldl_seq (x : Core) (xs : List Core) :
    (xs.foldl seq x).indices = x.indices ++ xs.flatMap indices := by
  induction xs generalizing x with
  | nil => exact (List.append_nil _).symm
  | cons y ys ih => rw [List.foldl_cons, ih, indices, List.flatMap_cons, List.append_assoc]

lemma indices_ofParts (xs : List Core) : (ofParts xs).indices = xs.flatMap indices := by
  cases xs with
  | nil => rfl
  | cons x xs => exact indices_foldl_seq x xs

lemma indices_foldr_prepend (xs : List Core) : (xs.foldr prepend []).flatMap indices = xs.flatMap indices := by
  induction xs with
  | nil => rfl
  | cons x xs ih => rw [List.foldr_cons, indices_prepend, ih, List.flatMap_cons]

lemma indices_concat (xs : List Core) : (concat xs).indices = xs.flatMap indices := by
  rw [concat, indices_ofParts, indices_foldr_prepend]
  induction xs with
  | nil => rfl
  | cons x xs ih => rw [List.flatMap_cons, List.flatMap_append, indices_parts, ih, List.flatMap_cons]

lemma indices_ofChars (s : CharSet) : (ofChars s).indices = [] := by
  unfold ofChars
  split <;> rfl

lemma structural_indices (is : List Nat) : Structural fun r => r.indices ⊆ is where
  empty := List.nil_subset is
  literal _ := List.nil_subset is
  chars _ := List.nil_subset is
  seq _ _ := List.append_subset
  alt _ _ := List.append_subset
  repetition _ _ _ _ h := h

lemma indices_alternate (xs : List Core) : (alternate xs).indices ⊆ xs.flatMap indices :=
  (structural_indices _).alternate fun x hx _ hi => List.mem_flatMap.mpr ⟨x, hx, hi⟩

lemma indices_repeated (min : Nat) (more : Option Nat) (greedy : Bool) (body : Core) :
    (repeated min more greedy body).indices ⊆ body.indices :=
  (structural_indices _).repeated min more greedy (List.Subset.refl _)

lemma shift_of_indices {r : Core} (h : r.indices = []) (k : Nat) : r.shift k = r := by
  induction r with
  | repetition min more greedy body ih => rw [shift, ih h]
  | capture index body ih => cases h
  | seq a b iha ihb =>
    obtain ⟨ha, hb⟩ := List.append_eq_nil_iff.mp h
    rw [shift, iha ha, ihb hb]
  | alt a b iha ihb =>
    obtain ⟨ha, hb⟩ := List.append_eq_nil_iff.mp h
    rw [shift, iha ha, ihb hb]
  | _ => rfl

lemma parts_shift (k : Nat) (r : Core) : (r.shift k).parts = r.parts.map (shift k) := by
  induction r with
  | seq a b iha ihb => rw [shift, parts, parts, List.map_append, iha, ihb]
  | _ => rfl

lemma prepend_shift (k : Nat) (x : Core) (xs : List Core) :
    prepend (x.shift k) (xs.map (shift k)) = (prepend x xs).map (shift k) := by
  cases x with
  | literal a =>
    cases xs with
    | nil => rfl
    | cons y ys => cases y <;> rfl
  | _ => rfl

lemma shift_concat (k : Nat) (xs : List Core) : concat (xs.map (shift k)) = (concat xs).shift k := by
  have hparts : (xs.map (shift k)).flatMap parts = (xs.flatMap parts).map (shift k) := by
    induction xs with
    | nil => rfl
    | cons x xs ih => rw [List.map_cons, List.flatMap_cons, ih, parts_shift, List.flatMap_cons, List.map_append]
  have hjoin : ∀ ys : List Core, (ys.map (shift k)).foldr prepend [] = (ys.foldr prepend []).map (shift k) := by
    intro ys
    induction ys with
    | nil => rfl
    | cons y ys ih => rw [List.map_cons, List.foldr_cons, ih, prepend_shift, List.foldr_cons]
  have hfold : ∀ (ys : List Core) (y : Core), (ys.map (shift k)).foldl seq (y.shift k) = (ys.foldl seq y).shift k := by
    intro ys
    induction ys with
    | nil => exact fun _ => rfl
    | cons z zs ih => exact fun y => ih (seq y z)
  rw [concat, hparts, hjoin, concat]
  cases (xs.flatMap parts).foldr prepend [] with
  | nil => rfl
  | cons y ys => exact hfold ys y

/-- An expression that is made of parts one after the other, each a group without groups inside or no group at all. -/
def Flat : Core → Prop
  | capture _ body => body.indices = []
  | seq a b => a.Flat ∧ b.Flat
  | r => r.indices = []

lemma flat_of_indices {r : Core} (h : r.indices = []) : r.Flat := by
  induction r with
  | capture index body ih => cases h
  | seq a b iha ihb =>
    obtain ⟨ha, hb⟩ := List.append_eq_nil_iff.mp h
    exact ⟨iha ha, ihb hb⟩
  | _ => exact h

lemma sequential_flat : Sequential Flat where
  empty := rfl
  literal _ := rfl
  seq _ _ := Iff.rfl

end Core

/-- A stretch of a text, by the bytes where it begins and ends. -/
def Stretch (text : List Char) (span : ByteSpan) (raw : List Char) : Prop :=
  ∃ before after, text = before ++ raw ++ after ∧ span = ⟨byteLength before, byteLength (before ++ raw)⟩

namespace Point

variable {text : List Char} {p q r : Point}

lemma On.stretch (hp : p.On text) (hq : q.On text) (h : q.rest <:+ p.rest) :
    ∃ raw, p.rest = raw ++ q.rest ∧ Stretch text ⟨p.pos, q.pos⟩ raw := by
  obtain ⟨raw, hraw⟩ := h
  obtain ⟨before, htext, hpos, -⟩ := hp
  have htext' : text = (before ++ raw) ++ q.rest := by rw [htext, ← hraw, List.append_assoc]
  obtain ⟨other, hother, hqpos, -⟩ := hq
  have hsame : other = before ++ raw := List.append_cancel_right (hother.symm.trans htext')
  exact ⟨raw, hraw.symm, before, q.rest, htext', by rw [hpos, hqpos, hsame]⟩

/-- One point comes from another by some groups, which have begun and ended between them. -/
structure Gains (text : List Char) (indices : List Nat) (p q : Point) : Prop where
  opened : q.opened = p.opened
  rest : q.rest <:+ p.rest
  groups : ∃ gs : List (Nat × ByteSpan), q.groups = gs.reverse ++ p.groups ∧ gs.map (·.1) = indices ∧
    ∀ g ∈ gs, ∃ raw, Stretch text g.2 raw

lemma Gains.trans {is js : List Nat} (h : Gains text is p q) (h' : Gains text js q r) : Gains text (is ++ js) p r := by
  obtain ⟨gs, hgs, hmap, hall⟩ := h.groups
  obtain ⟨gs', hgs', hmap', hall'⟩ := h'.groups
  refine ⟨h'.opened.trans h.opened, h'.rest.trans h.rest, gs ++ gs', ?_, ?_, List.forall_mem_append.mpr ⟨hall, hall'⟩⟩
  · rw [hgs', hgs, List.reverse_append, List.append_assoc]
  · rw [List.map_append, hmap, hmap']

end Point

open Point (Gains)

namespace Core

variable {text : List Char} {ps : List Point} {q : Point}

lemma on_run {r : Core} (hps : ∀ p ∈ ps, p.On text) : ∀ q ∈ r.run ps, q.On text := by
  intro q hq
  obtain ⟨o, ho, rfl⟩ := List.mem_map.mp hq
  have hclear : ∀ p ∈ ps.map Point.clear, p.On text := fun p hp => by
    obtain ⟨o, ho, rfl⟩ := List.mem_map.mp hp
    exact (hps o ho).of_spot rfl rfl
  exact (on_ends hclear o ho).of_spot rfl rfl

lemma groups_run {r : Core} (hr : r.indices = []) (h : q ∈ r.run ps) :
    ∃ p ∈ ps, q.groups = p.groups ∧ q.opened = p.opened ∧ q.rest <:+ p.rest := by
  obtain ⟨o, ho, rfl⟩ := List.mem_map.mp h
  obtain ⟨p, hp, hg, hop, hs⟩ := groups_ends hr ho
  obtain ⟨p', hp', rfl⟩ := List.mem_map.mp hp
  exact ⟨p', hp', hg, hop, hs⟩

lemma gains_of_indices {r : Core} (hr : r.indices = []) (h : q ∈ r.run ps) : ∃ p ∈ ps, Gains text [] p q := by
  obtain ⟨p, hp, hg, ho, hs⟩ := groups_run hr h
  exact ⟨p, hp, ho, hs, [], hg, rfl, fun g hg => nomatch hg⟩

lemma gains_capture {index : Nat} {body : Core} (hbody : body.indices = []) (hps : ∀ p ∈ ps, p.On text)
    (h : q ∈ (capture index body).run ps) : ∃ p ∈ ps, Gains text [index] p q := by
  rw [run_capture] at h
  obtain ⟨o, ho, rfl⟩ := List.mem_map.mp h
  obtain ⟨b, hb, hg, hop, hs⟩ := groups_run hbody ho
  obtain ⟨p, hp, rfl⟩ := List.mem_map.mp hb
  have hbegun : ∀ b ∈ ps.map (·.begin index), b.On text := fun b hb => by
    obtain ⟨p, hp, rfl⟩ := List.mem_map.mp hb
    exact (hps p hp).begin index
  have hon : o.On text := on_run hbegun o ho
  have hopened : o.opened = (index, p.pos) :: p.opened := hop
  have hfinish : o.finish = { o with opened := p.opened, groups := (index, ⟨p.pos, o.pos⟩) :: p.groups } := by
    rw [Point.finish, hopened]
    exact congrArg (fun gs => { o with opened := p.opened, groups := (index, ⟨p.pos, o.pos⟩) :: gs }) hg
  obtain ⟨raw, -, hstretch⟩ := (hps p hp).stretch hon hs
  refine ⟨p, hp, ?_⟩
  rw [hfinish]
  exact ⟨rfl, hs, [(index, ⟨p.pos, o.pos⟩)], rfl, rfl, fun g hg => List.mem_singleton.mp hg ▸ ⟨raw, hstretch⟩⟩

/-- A run of parts one after the other records all of their groups. -/
theorem gains_run {r : Core} (hr : r.Flat) (hps : ∀ p ∈ ps, p.On text) (h : q ∈ r.run ps) :
    ∃ p ∈ ps, Gains text r.indices p q := by
  induction r generalizing ps q with
  | capture index body ih =>
    have hbody : body.indices = [] := hr
    rw [indices, hbody]
    exact gains_capture hbody hps h
  | seq a b iha ihb =>
    rw [run_seq] at h
    obtain ⟨o, ho, hb⟩ := ihb hr.2 (on_run hps) h
    obtain ⟨p, hp, ha⟩ := iha hr.1 hps ho
    exact ⟨p, hp, ha.trans hb⟩
  | empty => exact gains_of_indices rfl h
  | literal cs => exact gains_of_indices rfl h
  | chars s => exact gains_of_indices rfl h
  | look l => exact gains_of_indices rfl h
  | repetition min more greedy body ih =>
    have hi : (repetition min more greedy body).indices = [] := hr
    rw [hi]
    exact gains_of_indices hi h
  | alt a b iha ihb =>
    have hi : (alt a b).indices = [] := hr
    rw [hi]
    exact gains_of_indices hi h

end Core

namespace Meaning

mutual

lemma expression_next {f : Flags} {n : Nat} {r : Core} {y : Context} :
    ∀ s : Syntax, s.captures = [] → expression ⟨f, n⟩ s = .ok (r, y) →
      y.next = n ∧ r.indices = [] ∧ ∀ m, expression ⟨f, m⟩ s = .ok (r, ⟨y.flags, m⟩)
  | .empty _, _, h => by
    cases h
    exact ⟨rfl, rfl, fun _ => rfl⟩
  | .flags _ items, _, h => by
    cases h
    exact ⟨rfl, rfl, fun _ => rfl⟩
  | .literal l, _, h => by
    obtain ⟨r, hr, he⟩ := map_eq_ok.mp h
    cases he
    exact ⟨rfl, List.subset_nil.mp ((Core.structural_indices []).of_literal hr), fun m => map_eq_ok.mpr ⟨r, hr, rfl⟩⟩
  | .dot span, _, h => by
    obtain ⟨r, hr, he⟩ := map_eq_ok.mp h
    cases he
    exact ⟨rfl, List.subset_nil.mp ((Core.structural_indices []).of_dot hr), fun m => map_eq_ok.mpr ⟨r, hr, rfl⟩⟩
  | .assertion _ kind, _, h => by
    cases h
    exact ⟨rfl, rfl, fun _ => rfl⟩
  | .unicode u, _, h => by
    obtain ⟨c, hc, he⟩ := map_eq_ok.mp h
    cases he
    exact ⟨rfl, Core.indices_ofChars _, fun m => map_eq_ok.mpr ⟨c, hc, rfl⟩⟩
  | .perl p, _, h => by
    obtain ⟨c, hc, he⟩ := map_eq_ok.mp h
    cases he
    exact ⟨rfl, Core.indices_ofChars _, fun m => map_eq_ok.mpr ⟨c, hc, rfl⟩⟩
  | .bracketed span negated inner, _, h => by
    obtain ⟨c, hc, h⟩ := bind_eq_ok.mp h
    obtain ⟨d, hd, h⟩ := bind_eq_ok.mp h
    cases h
    exact ⟨rfl, Core.indices_ofChars _, fun m => bind_eq_ok.mpr ⟨c, hc, bind_eq_ok.mpr ⟨d, hd, rfl⟩⟩⟩
  | .repetition s o kind greedy body, hs, h => by
    obtain ⟨⟨q, z⟩, hq, h⟩ := bind_eq_ok.mp h
    cases h
    obtain ⟨hn, hi, hm⟩ := expression_next body hs hq
    refine ⟨hn, List.subset_nil.mp (hi ▸ Core.indices_repeated _ _ _ q), fun m => ?_⟩
    exact bind_eq_ok.mpr ⟨_, hm m, rfl⟩
  | .group s (.plain items) body, hs, h => by
    obtain ⟨⟨q, z⟩, hq, h⟩ := bind_eq_ok.mp h
    cases h
    obtain ⟨hn, hi, hm⟩ := expression_next body hs hq
    exact ⟨hn, hi, fun m => bind_eq_ok.mpr ⟨_, hm m, rfl⟩⟩
  | .group s .numbered body, hs, h => nomatch hs
  | .group s (.named _ _) body, hs, h => nomatch hs
  | .alternation _ branches, hs, h => by
    obtain ⟨⟨rs, z⟩, hrs, h⟩ := bind_eq_ok.mp h
    cases h
    obtain ⟨hn, hi, hm⟩ := expressions_next branches hs hrs
    refine ⟨hn, List.subset_nil.mp (hi ▸ Core.indices_alternate rs), fun m => ?_⟩
    exact bind_eq_ok.mpr ⟨_, hm m, rfl⟩
  | .concat _ items, hs, h => by
    obtain ⟨⟨rs, z⟩, hrs, h⟩ := bind_eq_ok.mp h
    cases h
    obtain ⟨hn, hi, hm⟩ := expressions_next items hs hrs
    refine ⟨hn, by rw [Core.indices_concat, hi], fun m => ?_⟩
    exact bind_eq_ok.mpr ⟨_, hm m, rfl⟩

lemma expressions_next {f : Flags} {n : Nat} {rs : List Core} {y : Context} :
    ∀ ss : List Syntax, Syntax.capturesOfAll ss = [] → expressions ⟨f, n⟩ ss = .ok (rs, y) →
      y.next = n ∧ rs.flatMap Core.indices = [] ∧ ∀ m, expressions ⟨f, m⟩ ss = .ok (rs, ⟨y.flags, m⟩)
  | [], _, h => by
    cases h
    exact ⟨rfl, rfl, fun _ => rfl⟩
  | s :: ss, hs, h => by
    obtain ⟨⟨r, ⟨g, k⟩⟩, hr, h⟩ := bind_eq_ok.mp h
    obtain ⟨⟨qs, w⟩, hqs, h⟩ := bind_eq_ok.mp h
    cases h
    obtain ⟨hs, hss⟩ := List.append_eq_nil_iff.mp hs
    obtain ⟨hn, hi, hm⟩ := expression_next s hs hr
    obtain ⟨hn', hi', hm'⟩ := expressions_next ss hss hqs
    refine ⟨hn'.trans hn, by rw [List.flatMap_cons, hi, hi', List.append_nil], fun m => ?_⟩
    exact bind_eq_ok.mpr ⟨_, hm m, bind_eq_ok.mpr ⟨_, hm' m, rfl⟩⟩

end

end Meaning

end TypedPattern.Regex
