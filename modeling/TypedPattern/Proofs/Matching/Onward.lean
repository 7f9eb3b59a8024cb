import TypedPattern.Proofs.Matching.Words

/-!
How words go on. From what can be seen in an expression: which characters take one of its words to a longer one, and
whether the words of two expressions ever begin alike.
-/

namespace TypedPattern

namespace Regex

open List (Forall₂)

namespace Core

section Heads

/-- The sets that words begin with, one list for each way, and whether the words end there. A list that is long enough
is not gone on with. -/
def heads (enough : Nat) : Core → List (List CharSet × Bool)
  | empty => [([], true)]
  | literal cs => [((cs.take enough).map .singleton, decide (cs.length ≤ enough))]
  | chars s => [([s], true)]
  | look _ => [([], true)]
  | repetition _ _ _ _ => [([], false)]
  | capture _ body => body.heads enough
  | seq a b => (a.heads enough).flatMap fun h =>
    if h.2 && decide (h.1.length < enough) then (b.heads enough).map fun h' => (h.1 ++ h'.1, h'.2) else [(h.1, false)]
  | alt a b => a.heads enough ++ b.heads enough

/-- A word of characters of some sets, with others behind it unless it is complete. -/
def Begins (h : List CharSet × Bool) (w : List Char) : Prop :=
  ∃ u v, w = u ++ v ∧ Forall₂ (fun (s : CharSet) c => s.contains c = true) h.1 u ∧ (h.2 = true → v = [])

variable {r a b : Core} {w u v : List Char}

lemma Begins.part {h : List CharSet × Bool} (hw : Begins h w) (more : List Char) : Begins (h.1, false) (w ++ more) := by
  obtain ⟨u, v, rfl, hu, -⟩ := hw
  exact ⟨u, v ++ more, List.append_assoc u v more, hu, fun hf => absurd hf Bool.false_ne_true⟩

lemma Begins.append {h h' : List CharSet × Bool} (hw : Begins h w) (hall : h.2 = true) (hv : Begins h' v) :
    Begins (h.1 ++ h'.1, h'.2) (w ++ v) := by
  obtain ⟨u, rest, rfl, hu, hrest⟩ := hw
  obtain rfl := hrest hall
  obtain ⟨u', rest', rfl, hu', hrest'⟩ := hv
  refine ⟨u ++ u', rest', ?_, List.rel_append hu hu', hrest'⟩
  rw [List.append_nil, List.append_assoc]

lemma contains_singletons (cs : List Char) :
    Forall₂ (fun (s : CharSet) c => s.contains c = true) (cs.map .singleton) cs := by
  induction cs with
  | nil => exact .nil
  | cons c cs ih => exact .cons ((CharSet.contains_singleton c c).mpr rfl) ih

lemma Spells.begins (h : r.Spells w) (enough : Nat) : ∃ head ∈ r.heads enough, Begins head w := by
  induction r generalizing w with
  | empty =>
    obtain rfl : w = [] := h
    exact ⟨_, List.mem_singleton_self _, [], [], rfl, .nil, fun _ => rfl⟩
  | literal cs =>
    obtain rfl : w = cs := h
    refine ⟨_, List.mem_singleton_self _, w.take enough, w.drop enough, (List.take_append_drop enough w).symm, contains_singletons _,
      fun hall => List.drop_eq_nil_iff.mpr (of_decide_eq_true hall)⟩
  | chars s =>
    obtain ⟨c, hc, rfl⟩ := h
    exact ⟨_, List.mem_singleton_self _, [c], [], rfl, .cons hc .nil, fun _ => rfl⟩
  | look l =>
    obtain rfl : w = [] := h
    exact ⟨_, List.mem_singleton_self _, [], [], rfl, .nil, fun _ => rfl⟩
  | repetition min more greedy body ih =>
    exact ⟨_, List.mem_singleton_self _, [], w, rfl, .nil, fun hf => absurd hf Bool.false_ne_true⟩
  | capture index body ih => exact ih h
  | seq a b iha ihb =>
    obtain ⟨u, v, hu, hv, rfl⟩ := h
    obtain ⟨head, hhead, hbegins⟩ := iha hu
    obtain ⟨head', hhead', hbegins'⟩ := ihb hv
    by_cases hgo : (head.2 && decide (head.1.length < enough)) = true
    · refine ⟨_, List.mem_flatMap.mpr ⟨head, hhead, ?_⟩, hbegins.append ((Bool.and_eq_true _ _).mp hgo).1 hbegins'⟩
      rw [if_pos hgo]
      exact List.mem_map_of_mem hhead'
    · refine ⟨_, List.mem_flatMap.mpr ⟨head, hhead, ?_⟩, hbegins.part v⟩
      rw [if_neg hgo]
      exact List.mem_singleton_self _
  | alt a b iha ihb =>
    rcases h with h | h
    · obtain ⟨head, hhead, hbegins⟩ := iha h
      exact ⟨head, List.mem_append_left _ hhead, hbegins⟩
    · obtain ⟨head, hhead, hbegins⟩ := ihb h
      exact ⟨head, List.mem_append_right _ hhead, hbegins⟩

/-- No text begins with a word of each. Three characters tell the numbers of payment cards apart. -/
def clash (a b : Core) : Bool :=
  (a.heads 3).all fun h => (b.heads 3).all fun h' => (h.1.zip h'.1).any fun p => p.1.apart p.2

lemma not_apart_of_begins {hs hs' : List CharSet} (hu : Forall₂ (fun (s : CharSet) c => s.contains c = true) hs u)
    (hv : Forall₂ (fun (s : CharSet) c => s.contains c = true) hs' v) {x y : List Char} (heq : u ++ x = v ++ y) :
    ((hs.zip hs').any fun p => p.1.apart p.2) = false := by
  induction hu generalizing hs' v with
  | nil => rfl
  | @cons s c hs u hc _ ih =>
    cases hv with
    | nil => rfl
    | @cons s' d hs' v hd hv =>
      rw [List.cons_append, List.cons_append] at heq
      obtain ⟨rfl, htail⟩ := List.cons.inj heq
      have hmeet : s.apart s' = false := by
        refine Bool.eq_false_iff.mpr fun hapart => ?_
        exact Bool.false_ne_true ((CharSet.not_contains_of_apart hapart hc).symm.trans hd)
      rw [List.zip_cons_cons, List.any_cons, hmeet, ih hv htail]
      rfl

lemma Spells.not_clash (ha : a.Spells u) (hb : b.Spells v) {x y : List Char} (heq : u ++ x = v ++ y) :
    a.clash b = false := by
  obtain ⟨h, hh, u, u', rfl, hu, -⟩ := ha.begins 3
  obtain ⟨h', hh', v, v', rfl, hv, -⟩ := hb.begins 3
  rw [List.append_assoc, List.append_assoc] at heq
  refine Bool.eq_false_iff.mpr fun hclash => ?_
  have hapart := List.all_eq_true.mp (List.all_eq_true.mp hclash h hh) h' hh'
  exact Bool.false_ne_true ((not_apart_of_begins hu hv heq).symm.trans hapart)

end Heads

section Onward

/-- The characters with which one word goes on where another one ends. -/
def onward : Core → CharSet
  | empty => .empty
  | literal _ => .empty
  | chars _ => .empty
  | look _ => .empty
  | repetition _ _ _ body => body.alphabet
  | capture _ body => body.onward
  | seq a b =>
    if a.onward.apart b.first then (if b.nullable then a.onward.union b.onward else b.onward)
    else a.alphabet.union b.alphabet
  | alt a b =>
    (a.onward.union b.onward).union
      (if a.clash b then .empty else if b.maxLength = some 0 then a.first else a.alphabet.union b.alphabet)

variable {r a b : Core} {u v w z : List Char} {c : Char}

lemma contains_union_left {s t : CharSet} (h : s.contains c = true) : (s.union t).contains c = true := by
  rw [CharSet.contains_union, h, Bool.true_or]

lemma contains_union_right {s t : CharSet} (h : t.contains c = true) : (s.union t).contains c = true := by
  rw [CharSet.contains_union, h, Bool.or_true]

/-- Behind a word that is part of a longer one nothing begins, if it would begin with a character of that one. -/
lemma eq_nil_of_first_apart (hc : a.onward.contains c = true) (hapart : a.onward.apart b.first = true) (hv : b.Spells v)
    {x y : List Char} (heq : v ++ x = c :: y) : v = [] := by
  cases v with
  | nil => rfl
  | cons d v =>
    obtain ⟨rfl, -⟩ := List.cons.inj heq
    exact absurd ((CharSet.not_contains_of_apart hapart hc).symm.trans hv.mem_first) Bool.false_ne_true

lemma mem_onward_seq (iha : ∀ {w z c}, a.Spells w → a.Spells (w ++ c :: z) → a.onward.contains c = true)
    (ihb : ∀ {w z c}, b.Spells w → b.Spells (w ++ c :: z) → b.onward.contains c = true) (hw : (seq a b).Spells w)
    (hlong : (seq a b).Spells (w ++ c :: z)) : (seq a b).onward.contains c = true := by
  have hall := hlong.mem_alphabet c (List.mem_append_right w List.mem_cons_self)
  rw [onward]
  split
  · rename_i hapart
    obtain ⟨u, v, hu, hv, rfl⟩ := hw
    obtain ⟨u', v', hu', hv', heq⟩ := hlong
    have hsame : v' = v ++ c :: z → (if b.nullable then a.onward.union b.onward else b.onward).contains c = true := by
      rintro rfl
      split
      · exact contains_union_right (ihb hv hv')
      · exact ihb hv hv'
    rw [List.append_assoc] at heq
    -- where the first parts differ in length, the shorter one is followed by what the second part cannot begin with
    rcases List.append_eq_append_iff.mp heq with ⟨t, rfl, ht⟩ | ⟨t, rfl, ht⟩
    · cases t with
      | nil => exact hsame ht.symm
      | cons d t =>
        have hd := iha hu hu'
        obtain rfl := eq_nil_of_first_apart hd hapart hv ht
        obtain ⟨rfl, -⟩ := List.cons.inj ht
        rw [if_pos hv.nullable]
        exact contains_union_left hd
    · cases t with
      | nil => exact hsame ht
      | cons d t =>
        rw [← List.append_nil v'] at ht
        obtain rfl := eq_nil_of_first_apart (iha hu' hu) hapart hv' ht
        cases ht
  · exact hall

/-- A word of one branch goes on to a word of the other only if the branches do not clash. -/
lemma mem_onward_alt (iha : a.Spells w → a.Spells (w ++ c :: z) → a.onward.contains c = true)
    (ihb : b.Spells w → b.Spells (w ++ c :: z) → b.onward.contains c = true) (hw : (alt a b).Spells w)
    (hlong : (alt a b).Spells (w ++ c :: z)) : (alt a b).onward.contains c = true := by
  have hall := hlong.mem_alphabet c (List.mem_append_right w List.mem_cons_self)
  rw [onward]
  rcases hw with hw | hw <;> rcases hlong with hlong | hlong
  · exact contains_union_left (contains_union_left (iha hw hlong))
  · rw [hw.not_clash hlong (List.append_nil _).symm, if_neg Bool.false_ne_true, if_neg]
    · exact contains_union_right hall
    · intro hzero
      have hlength := hlong.length_le hzero
      rw [List.length_append, List.length_cons] at hlength
      omega
  · rw [hlong.not_clash hw (List.append_nil _), if_neg Bool.false_ne_true]
    split
    · rename_i hzero
      obtain rfl := List.eq_nil_of_length_eq_zero (Nat.le_zero.mp (hw.length_le hzero))
      exact contains_union_right hlong.mem_first
    · exact contains_union_right hall
  · exact contains_union_left (contains_union_right (ihb hw hlong))

lemma Spells.mem_onward (hw : r.Spells w) (hlong : r.Spells (w ++ c :: z)) : r.onward.contains c = true := by
  have hne : ∀ (w z : List Char) c, w ++ c :: z ≠ w := by simp
  have hmem : ∀ (w z : List Char) c, c ∈ w ++ c :: z := by simp
  induction r generalizing w c z with
  | empty => exact absurd ((show _ = [] from hlong).trans (show w = [] from hw).symm) (hne w z c)
  | literal cs => exact absurd ((show _ = cs from hlong).trans (show w = cs from hw).symm) (hne w z c)
  | chars s =>
    obtain ⟨d, -, rfl⟩ := hw
    obtain ⟨e, -, he⟩ := hlong
    cases he
  | look l => exact absurd ((show _ = [] from hlong).trans (show w = [] from hw).symm) (hne w z c)
  | repetition min more greedy body ih => exact hlong.mem_alphabet c (hmem w z c)
  | capture index body ih => exact ih hw hlong
  | seq a b iha ihb => exact mem_onward_seq iha ihb hw hlong
  | alt a b iha ihb => exact mem_onward_alt iha ihb hw hlong

end Onward

section Stays

/-- The longest word of the first is no longer than the shortest one of the second. -/
def shorter (a b : Core) : Bool :=
  a.maxLength.any fun m => b.minLength.any fun n => decide (m ≤ n)

variable {a b : Core} {u v t : List Char}

lemma Spells.length_le_of_shorter (hu : a.Spells u) (hv : b.Spells v) (h : a.shorter b = true) : u.length ≤ v.length := by
  obtain ⟨m, hm, h⟩ := (Option.any_eq_true _ _).mp h
  obtain ⟨n, hn, h⟩ := (Option.any_eq_true _ _).mp h
  exact (hu.length_le hm).trans ((of_decide_eq_true h).trans (hv.length_ge hn))

/-- Behind a word that another one goes on from, the second expression never gets past the end of that one. -/
def staysBehind (a b : Core) : Bool :=
  a.onward.apart b.first || b.maxLength.any (fun n => decide (n ≤ 1)) || a.last.apart b.alphabet

lemma Spells.stays (h : a.staysBehind b = true) (hu : a.Spells u) (hlong : a.Spells (u ++ t)) (ht : t ≠ [])
    (hv : b.Spells v) {x y : List Char} (heq : v ++ x = t ++ y) : v <+: t := by
  rw [staysBehind, Bool.or_eq_true, Bool.or_eq_true] at h
  rcases h with (hfirst | hone) | hlast
  · obtain ⟨c, t, rfl⟩ := List.exists_cons_of_ne_nil ht
    obtain rfl := eq_nil_of_first_apart (hu.mem_onward hlong) hfirst hv heq
    exact List.nil_prefix
  · obtain ⟨n, hn, hle⟩ := (Option.any_eq_true _ _).mp hone
    have hv := hv.length_le hn
    have ht := List.length_pos_iff.mpr ht
    have hle := of_decide_eq_true hle
    exact List.prefix_of_prefix_length_le (List.prefix_append v x) (heq ▸ List.prefix_append t y) (by omega)
  · rcases List.append_eq_append_iff.mp heq with ⟨s, rfl, -⟩ | ⟨s, rfl, -⟩
    · exact List.prefix_append v s
    · obtain ⟨t, c, rfl⟩ := (List.eq_nil_or_concat' t).resolve_left ht
      rw [← List.append_assoc] at hlong
      have hin := hv.mem_alphabet c (List.mem_append_left s (List.mem_append_right t List.mem_cons_self))
      exact absurd ((CharSet.not_contains_of_apart hlast hlong.mem_last).symm.trans hin) Bool.false_ne_true

end Stays

end Core

end Regex

end TypedPattern
