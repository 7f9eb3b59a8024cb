import TypedPattern.Proofs.Closing.Escape
import TypedPattern.Proofs.Reading.Steps
import Mathlib.Data.List.TakeWhile

/-! Bracketed classes are read alike with the closing behind the text. -/

namespace TypedPattern.Regex

namespace Syntax

variable {s : Syntax}

lemma eq_literal_of_bare {l : Literal} (h : s.bare = .literal l) : ∃ m, s = .literal m ∧ m.bare = l := by
  cases s <;> simp_all [bare]

lemma eq_perl_of_bare {p : PerlClass} (h : s.bare = .perl p) : ∃ q, s = .perl q ∧ q.bare = p := by
  cases s <;> simp_all [bare]

lemma eq_unicode_of_bare {u : UnicodeClass} (h : s.bare = .unicode u) : ∃ v, s = .unicode v ∧ v.bare = u := by
  cases s <;> simp_all [bare]

end Syntax

namespace Bracket

variable {c d : Cursor}

def SameSet (s t : ClassSet) : Prop :=
  t.bare = s.bare

structure SameUnion (u v : Union) : Prop where
  items : v.items.map ClassSet.bare = u.items.map ClassSet.bare

def SamePending (p q : Pending) : Prop :=
  q.map (Prod.map id ClassSet.bare) = p.map (Prod.map id ClassSet.bare)

lemma sameUnion_startingAt (pos pos' : Nat) : SameUnion (Union.startingAt pos) (Union.startingAt pos') :=
  ⟨rfl⟩

lemma SameUnion.push {u v : Union} (h : SameUnion u v) {s t : ClassSet} (hs : SameSet s t) :
    SameUnion (u.push s) (v.push t) :=
  ⟨by rw [Union.push, Union.push, List.map_cons, List.map_cons, h.items, show t.bare = s.bare from hs]⟩

lemma SameUnion.toSet {u v : Union} (h : SameUnion u v) : SameSet u.toSet v.toSet := by
  have h := h.items
  unfold Union.toSet SameSet
  rcases hu : u.items with _ | ⟨a, _ | ⟨b, us⟩⟩
  · rw [hu, List.map_nil, List.map_eq_nil_iff] at h
    rw [h]
    rfl
  · rw [hu] at h
    obtain ⟨a', as, hv, h1, h2⟩ := List.map_eq_cons_iff.mp h
    rw [List.map_nil, List.map_eq_nil_iff] at h2
    rw [hv, h2]
    exact h1
  · rw [hu] at h
    obtain ⟨a', as, hv, h1, h2⟩ := List.map_eq_cons_iff.mp h
    obtain ⟨b', bs, rfl, -, -⟩ := List.map_eq_cons_iff.mp h2
    rw [hv] at h ⊢
    simp only [ClassSet.bare, ClassSet.bareAll_eq_map, List.map_reverse, h]

lemma SamePending.close {p q : Pending} (h : SamePending p q) {s t : ClassSet} (hs : SameSet s t) :
    SameSet (close p s) (close q t) := by
  rcases p with _ | ⟨o, l⟩ <;> rcases q with _ | ⟨o', l'⟩
  · exact hs
  · cases h
  · cases h
  · have h := Prod.mk.inj (Option.some.inj h)
    have h1 : o' = o := h.1
    have h2 : l'.bare = l.bare := h.2
    have h3 : t.bare = s.bare := hs
    simp only [Bracket.close, SameSet, ClassSet.bare, h1, h2, h3]

lemma leadingHyphens_sim (start start' : Nat) {k k' : Nat} {u v : Union} (h : Longer c d) (hu : SameUnion u v)
    (hk : c.rest.length ≤ k) (hk' : d.rest.length ≤ k') (hc : c.rest ≠ []) :
    Sim (Alike SameUnion) (leadingHyphens start k u c) (leadingHyphens start' k' v d) := by
  induction k generalizing c d k' u v with
  | zero => exact absurd (List.length_eq_zero_iff.mp (Nat.le_zero.mp hk)) hc
  | succ k ih =>
    obtain ⟨j, rfl⟩ : ∃ j, k' = j + 1 := by
      have := List.length_pos_iff.mpr (h.rest_ne_nil hc)
      exact ⟨k' - 1, by omega⟩
    rw [leadingHyphens, leadingHyphens]
    refine Sim.ite (by rw [h.at? (by decide)]) (fun _ => ?_) fun _ => Sim.ok ⟨hu, h⟩
    have hb := h.bumpSkip hc
    refine Sim.guard hb.atEnd fun hend => ?_
    have hlen := c.length_bumpSkip
    have hlen' := d.length_bumpSkip
    exact ih hb (hu.push rfl) (by omega) (by omega) (Cursor.rest_ne_nil_of_atEnd hend)

lemma readOpening_sim (h : Longer c d) (hc : c.rest ≠ []) :
    Sim (fun a b => b.1.negated = a.1.negated ∧ SameUnion a.2.1 b.2.1 ∧ Longer a.2.2 b.2.2)
      (readOpening c) (readOpening d) := by
  have h := h.bumpSkip hc
  unfold readOpening
  dsimp only
  refine Sim.guard h.atEnd fun hend => ?_
  have hat : d.bumpSkip.at? '^' = c.bumpSkip.at? '^' := h.at? (by decide)
  have h : Longer (if c.bumpSkip.at? '^' then c.bumpSkip.bumpSkip else c.bumpSkip)
      (if d.bumpSkip.at? '^' then d.bumpSkip.bumpSkip else d.bumpSkip) := by
    rw [hat]
    split
    · exact h.bumpSkip (Cursor.rest_ne_nil_of_atEnd hend)
    · exact h
  rw [hat] at h ⊢
  refine Sim.guard h.atEnd fun hend => ?_
  refine (leadingHyphens_sim _ _ h (sameUnion_startingAt _ _) (Nat.le_refl _) (Nat.le_refl _)
    (Cursor.rest_ne_nil_of_atEnd hend)).bind ?_
  rintro ⟨u, c'⟩ ⟨v, d'⟩ ⟨hu, h'⟩
  have hu : SameUnion u v := hu
  have h' : Longer c' d' := h'
  have hempty : v.items.isEmpty = u.items.isEmpty := by
    rw [← List.isEmpty_map, hu.items, List.isEmpty_map]
  refine Sim.ite (by rw [hempty, h'.at? (by decide)]) (fun hat => ?_) fun _ => Sim.ok ⟨rfl, hu, h'⟩
  have hb := h'.bumpSkip (Cursor.rest_ne_nil_of_at? (Bool.and_eq_true_iff.mp hat).2)
  refine Sim.guard hb.atEnd fun _ => Sim.ok ⟨rfl, hu.push rfl, hb⟩

lemma Longer.pastName (h : Longer c d) : Longer (pastName c) (pastName d) := by
  refine ⟨h.verbose, ?_⟩
  unfold Bracket.pastName
  rcases h.rest with h | ⟨hc, hd⟩
  · simp only [h, List.dropWhile_append]
    by_cases hemp : (c.rest.dropWhile (· != ':')).isEmpty = true
    · rw [if_pos hemp]
      exact Or.inr ⟨List.isEmpty_iff.mp hemp, rfl⟩
    · rw [if_neg hemp]
      exact Or.inl rfl
  · simp [hc, hd]

lemma Longer.name_eq (h : Longer c d) (hc : (Bracket.pastName c).rest ≠ []) :
    d.rest.takeWhile (· != ':') = c.rest.takeWhile (· != ':') := by
  have hc : c.rest.dropWhile (· != ':') ≠ [] := hc
  have hne : c.rest ≠ [] := by
    rintro hn
    rw [hn] at hc
    exact hc rfl
  rw [h.rest_eq hne, List.takeWhile_append, if_neg]
  intro hlen
  have := congrArg List.length (@List.takeWhile_append_dropWhile _ (· != ':') c.rest)
  rw [List.length_append] at this
  exact hc (List.length_eq_zero_iff.mp (by omega))

lemma readAscii?_longer (h : Longer c d) :
    (readAscii? c = none ∧ readAscii? d = none) ∨
      ∃ a b, readAscii? c = some a ∧ readAscii? d = some b ∧ Alike SameSet a b := by
  rw [readAscii?_eq, readAscii?_eq]
  rcases @Longer.after? _ _ h ['[', ':'] (by decide) with ⟨hc, hd⟩ | ⟨c₁, d₁, hc, hd, h₁, -⟩
  · rw [hc, hd]
    exact Or.inl ⟨rfl, rfl⟩
  · have hat : d₁.at? '^' = c₁.at? '^' := h₁.at? (by decide)
    have h₂ : Longer (if c₁.at? '^' then c₁.bump else c₁) (if c₁.at? '^' then d₁.bump else d₁) := by
      by_cases hcaret : c₁.at? '^' = true
      · rw [if_pos hcaret, if_pos hcaret]
        exact h₁.bump (Cursor.rest_ne_nil_of_at? hcaret)
      · rw [if_neg hcaret, if_neg hcaret]
        exact h₁
    rw [hc, hd]
    simp only [Option.bind_some, hat]
    generalize (if c₁.at? '^' then c₁.bump else c₁) = c₂ at h₂ ⊢
    generalize (if c₁.at? '^' then d₁.bump else d₁) = d₂ at h₂ ⊢
    rcases @Longer.after? _ _ (Longer.pastName h₂) [':', ']'] (by decide) with ⟨hc, hd⟩ | ⟨c₃, d₃, hc, hd, h₃, -⟩
    · rw [hc, hd]
      exact Or.inl ⟨rfl, rfl⟩
    · have hne : (Bracket.pastName c₂).rest ≠ [] := by
        intro hn
        rw [Cursor.after?, hn] at hc
        cases hc
      rw [hc, hd, Longer.name_eq h₂ hne]
      cases AsciiKind.ofName? (c₂.rest.takeWhile (· != ':')) with
      | none => exact Or.inl ⟨rfl, rfl⟩
      | some kind => exact Or.inr ⟨_, _, rfl, rfl, rfl, h₃⟩

lemma readItem_sim (h : Longer c d) : Sim (Alike Escape.SameTree) (readItem c) (readItem d) := by
  unfold readItem
  rcases h.cases with hc | ⟨x, r, hc, hd⟩
  · rw [hc]
    exact Sim.error _
  · simp only [hc, hd]
    have hne : c.rest ≠ [] := by simp [hc]
    exact Sim.ite Iff.rfl (fun _ => Escape.read_sim h hne) fun _ => Sim.ok ⟨rfl, h.bump hne⟩

lemma itemSet_sim {s t : Syntax} (h : Escape.SameTree s t) : Sim SameSet (itemSet s) (itemSet t) := by
  have h : t.bare = s.bare := h
  cases s with
  | literal l =>
    obtain ⟨m, rfl, hm⟩ := Syntax.eq_literal_of_bare h
    exact Sim.ok (congrArg ClassSet.literal hm)
  | perl p =>
    obtain ⟨q, rfl, hq⟩ := Syntax.eq_perl_of_bare h
    exact Sim.ok (congrArg ClassSet.perl hq)
  | unicode u =>
    obtain ⟨v, rfl, hv⟩ := Syntax.eq_unicode_of_bare h
    exact Sim.ok (congrArg ClassSet.unicode hv)
  | _ => exact Sim.error _

lemma itemLiteral_sim {s t : Syntax} (h : Escape.SameTree s t) :
    Sim Escape.SameLiteral (itemLiteral s) (itemLiteral t) := by
  have h : t.bare = s.bare := h
  cases s with
  | literal l =>
    obtain ⟨m, rfl, hm⟩ := Syntax.eq_literal_of_bare h
    exact Sim.ok hm
  | _ => exact Sim.error _

lemma firstPast_closing (comment : Bool) (cs : List Char) :
    Cursor.firstPast comment (cs ++ closing) = (Cursor.firstPast comment cs).or (some ')') := by
  induction cs generalizing comment with
  | nil => cases comment <;> rfl
  | cons c cs ih =>
    rw [List.cons_append, Cursor.firstPast, Cursor.firstPast]
    split
    · exact ih comment
    · split
      · exact ih true
      · rfl

lemma head?_of_firstPast_eq_none {cs : List Char} (h : Cursor.firstPast false cs = none) {x : Char}
    (hx : cs.head? = some x) : isWhite x = true ∨ x = '#' := by
  cases cs with
  | nil => cases hx
  | cons c cs =>
    cases hx
    rw [Cursor.firstPast] at h
    split at h
    · rename_i hw
      exact Or.inl hw
    · split at h
      · rename_i hh
        exact Or.inr (by simpa using hh)
      · cases h

lemma peekPast_longer (h : Longer c d) (hc : c.rest ≠ []) {x : Char} (hw : isWhite x = false) (hh : x ≠ '#')
    (hx : x ≠ ')') : (d.peekPast == some x) = (c.peekPast == some x) := by
  obtain ⟨y, r, hr, hr'⟩ := h.cases.resolve_left hc
  have hx' : (some ')' == some x) = false := by simpa using hx.symm
  unfold Cursor.peekPast Cursor.peek
  rw [h.verbose, hr, hr', List.tail_cons, List.tail_cons]
  split
  · rw [firstPast_closing]
    cases hf : Cursor.firstPast false r with
    | some z => rfl
    | none =>
      rw [Option.none_or, Option.none_or, Option.some_or, hx']
      symm
      rw [beq_eq_false_iff_ne]
      intro hhead
      rcases head?_of_firstPast_eq_none hf hhead with h | h
      · rw [hw] at h
        cases h
      · exact hh h
  · cases r with
    | nil => exact hx'
    | cons z r => rfl

lemma readRange_sim {o o' : Opening} (h : Longer c d) : Sim (Alike SameSet) (readRange o c) (readRange o' d) := by
  unfold readRange
  dsimp only
  refine (readItem_sim h).bind ?_
  rintro ⟨first, c₁⟩ ⟨first', d₁⟩ ⟨hf, h₁⟩
  have h₁ : Longer c₁.skip d₁.skip := h₁.skip
  dsimp only
  refine Sim.guard h₁.atEnd fun hend => ?_
  have hne := Cursor.rest_ne_nil_of_atEnd hend
  refine Sim.ite ?_ (fun _ => ?_) fun _ => ?_
  · rw [h₁.at? (by decide), peekPast_longer h₁ hne (by decide) (by decide) (by decide),
      peekPast_longer h₁ hne (by decide) (by decide) (by decide)]
  · exact (itemSet_sim hf).bind fun s t hs => Sim.ok ⟨hs, h₁⟩
  · have h₂ := h₁.bumpSkip hne
    refine Sim.guard h₂.atEnd fun _ => ?_
    refine (readItem_sim h₂).bind ?_
    rintro ⟨last, c₃⟩ ⟨last', d₃⟩ ⟨hl, h₃⟩
    refine (itemLiteral_sim hf).bind fun lo lo' hlo => ?_
    refine (itemLiteral_sim hl).bind fun hi hi' hhi => ?_
    have hlo : lo'.bare = lo.bare := hlo
    have hhi : hi'.bare = hi.bare := hhi
    have hlc : lo'.char = lo.char := (congrArg Literal.char hlo : lo'.bare.char = lo.bare.char)
    have hhc : hi'.char = hi.char := (congrArg Literal.char hhi : hi'.bare.char = hi.bare.char)
    rw [hlc, hhc]
    refine Sim.ite Iff.rfl (fun _ => Sim.ok ⟨?_, h₃⟩) fun _ => Sim.error _
    simp only [SameSet, ClassSet.bare, hlo, hhi]

lemma operator?_longer (h : Longer c d) : operator? d = operator? c := by
  rcases h.rest with h | ⟨hc, hd⟩
  · rcases hc : c.rest with _ | ⟨x, _ | ⟨y, r⟩⟩
    · rw [hc, List.nil_append] at h
      rw [operator?_pair h, operator?, hc]
      rfl
    · rw [hc] at h
      rw [operator?_single hc, operator?_pair h, ite_eq_right_iff]
      rintro rfl
      rfl
    · rw [hc] at h
      rw [operator?_pair hc, operator?_pair h]
  · rw [operator?, operator?, hc, hd]

lemma readRest_sim {k k' : Nat} {o o' : Opening} {p q : Pending} {u v : Union} (hk : k ≤ k') (h : Longer c d)
    (ho : o'.negated = o.negated) (hp : SamePending p q) (hu : SameUnion u v) :
    Sim (Alike SameSet) (readRest k o p u c) (readRest k' o' q v d) := by
  induction k generalizing c d k' o o' p q u v with
  | zero => exact Sim.error _
  | succ k ih =>
    obtain ⟨j, rfl⟩ : ∃ j, k' = j + 1 := ⟨k' - 1, by omega⟩
    have hj : k ≤ j := by omega
    have hs := h.skip
    rcases hs.cases with hc | ⟨x, r, hc, hd⟩
    · rw [readRest_nil hc]
      exact Sim.error _
    · have hne : c.skip.rest ≠ [] := by simp [hc]
      rw [readRest_cons hc, readRest_cons hd]
      refine Sim.ite Iff.rfl (fun _ => ?_) fun _ => Sim.ite Iff.rfl (fun _ => ?_) fun _ => ?_
      · refine Sim.ok ⟨?_, hs.bump hne⟩
        have hclose : (close q v.toSet).bare = (close p u.toSet).bare := hp.close hu.toSet
        simp only [SameSet, ClassSet.bare, hclose, ho]
      · rcases readAscii?_longer hs with ⟨hn, hn'⟩ | ⟨⟨s, c₁⟩, ⟨t, d₁⟩, hn, hn', hst, h₁⟩
        · rw [hn, hn']
          refine (readOpening_sim hs hne).bind ?_
          rintro ⟨i, w, c₁⟩ ⟨i', w', d₁⟩ ⟨hi, hw, h₁⟩
          refine (ih hj h₁ hi rfl hw).bind ?_
          rintro ⟨s, c₂⟩ ⟨t, d₂⟩ ⟨hst, h₂⟩
          exact ih hj h₂ ho hp (hu.push hst)
        · rw [hn, hn']
          exact ih hj h₁ ho hp (hu.push hst)
      · rw [operator?_longer hs]
        cases hop : operator? c.skip with
        | none =>
          refine (readRange_sim hs).bind ?_
          rintro ⟨s, c₁⟩ ⟨t, d₁⟩ ⟨hst, h₁⟩
          exact ih hj h₁ ho hp (hu.push hst)
        | some operator =>
          have hne' : c.skip.bump.rest ≠ [] := by
            intro hn
            rw [Cursor.rest_bump, hc, List.tail_cons] at hn
            rw [operator?, hc, hn] at hop
            split at hop <;> simp_all
          refine ih hj ((hs.bump hne).bump hne') ho ?_ (sameUnion_startingAt _ _)
          have hclose : (close q v.toSet).bare = (close p u.toSet).bare := hp.close hu.toSet
          simp only [SamePending, Option.map_some, Prod.map, hclose]

lemma treeOf_bare {s t : ClassSet} (h : SameSet s t) : Escape.SameTree (treeOf s) (treeOf t) := by
  have h : t.bare = s.bare := h
  cases s <;> cases t <;> simp_all [ClassSet.bare, Escape.SameTree, treeOf, Syntax.bare]

theorem read_sim (h : Longer c d) (hc : c.rest ≠ []) : Sim (Alike Escape.SameTree) (read c) (read d) := by
  rw [read_eq, read_eq]
  refine (readOpening_sim h hc).bind ?_
  rintro ⟨o, u, c₁⟩ ⟨o', u', d₁⟩ ⟨ho, hu, h₁⟩
  have hlen : c.rest.length + 1 ≤ d.rest.length + 1 := by
    rw [h.rest_eq hc, List.length_append]
    omega
  refine (readRest_sim hlen h₁ ho rfl hu).map ?_
  rintro ⟨s, c₂⟩ ⟨t, d₂⟩ ⟨hst, h₂⟩
  exact ⟨treeOf_bare hst, h₂⟩

end Bracket

end TypedPattern.Regex
