import TypedPattern.Proofs.Matching.Language
import TypedPattern.Proofs.Unicode.Apart
import TypedPattern.Proofs.Unicode.Union

/-! The words that an expression may take up, whatever its assertions say: their lengths and their characters. -/

namespace TypedPattern

lemma CharSet.forall_contains {set : CharSet} {f : Char → Bool}
    (h : (set.ranges.all fun r => (List.range' r.lo (r.hi + 1 - r.lo)).all fun n => f (Char.ofNat n)) = true) {c : Char}
    (hc : set.contains c = true) : f c = true := by
  obtain ⟨r, hr, hin⟩ := List.any_eq_true.mp hc
  rw [CharRange.contains, Bool.and_eq_true, decide_eq_true_eq, decide_eq_true_eq] at hin
  have hmem : c.toNat ∈ List.range' r.lo (r.hi + 1 - r.lo) := by
    rw [List.mem_range'_1]
    omega
  have hf := List.all_eq_true.mp (List.all_eq_true.mp h r hr) _ hmem
  rwa [Char.ofNat_toNat] at hf

namespace Regex

namespace Core

/-- A word that an expression may take up where its assertions hold. -/
def Spells : Core → List Char → Prop
  | empty, w => w = []
  | literal cs, w => w = cs
  | chars set, w => ∃ c, set.contains c = true ∧ w = [c]
  | look _, w => w = []
  | repetition min more _ body, w =>
    ∃ ws : List (List Char), min ≤ ws.length ∧ (∀ m ∈ more, ws.length ≤ min + m) ∧ (∀ x ∈ ws, body.Spells x) ∧
      w = ws.flatten
  | capture _ body, w => body.Spells w
  | seq a b, w => ∃ u v, a.Spells u ∧ b.Spells v ∧ w = u ++ v
  | alt a b, w => a.Spells w ∨ b.Spells w

end Core

lemma Times.words {R : Spot → Spot → Prop} {P : List Char → Prop}
    (hr : ∀ s t, R s t → ∃ w, s.rest = w ++ t.rest ∧ P w) {n : Nat} {s t : Spot} (h : Times R n s t) :
    ∃ ws : List (List Char), ws.length = n ∧ (∀ x ∈ ws, P x) ∧ s.rest = ws.flatten ++ t.rest := by
  induction n generalizing s with
  | zero =>
    obtain rfl : s = t := h
    exact ⟨[], rfl, List.forall_mem_nil _, rfl⟩
  | succ n ih =>
    obtain ⟨u, hu, h⟩ := h
    obtain ⟨w, hw, hp⟩ := hr s u hu
    obtain ⟨ws, hlength, hall, hrest⟩ := ih h
    refine ⟨w :: ws, congrArg (· + 1) hlength, List.forall_mem_cons.mpr ⟨hp, hall⟩, ?_⟩
    rw [hw, hrest, List.flatten_cons, List.append_assoc]

namespace Core

/-- On its way from one spot to another an expression takes up one of its words. -/
lemma Leads.spells {r : Core} {s t : Spot} (h : r.Leads s t) : ∃ w, s.rest = w ++ t.rest ∧ r.Spells w := by
  induction r generalizing s t with
  | empty => exact ⟨[], (show s = t from h) ▸ rfl, rfl⟩
  | literal cs => exact ⟨cs, h.1, rfl⟩
  | chars set =>
    obtain ⟨c, hc, hs, -⟩ := h
    exact ⟨[c], hs, c, hc, rfl⟩
  | look l => exact ⟨[], h.1 ▸ rfl, rfl⟩
  | repetition min more greedy body ih =>
    obtain ⟨n, hn, h⟩ := h
    obtain ⟨ws, hlength, hall, hrest⟩ := h.words fun s t => ih
    refine ⟨ws.flatten, hrest, ws, by omega, fun m hm => ?_, hall, rfl⟩
    have := hn m hm
    omega
  | capture index body ih => exact ih h
  | seq a b iha ihb =>
    obtain ⟨u, ha, hb⟩ := h
    obtain ⟨v, hv, hspells⟩ := iha ha
    obtain ⟨w, hw, hspells'⟩ := ihb hb
    exact ⟨v ++ w, by rw [hv, hw, List.append_assoc], v, w, hspells, hspells', rfl⟩
  | alt a b iha ihb =>
    rcases h with h | h
    · obtain ⟨w, hw, hspells⟩ := iha h
      exact ⟨w, hw, Or.inl hspells⟩
    · obtain ⟨w, hw, hspells⟩ := ihb h
      exact ⟨w, hw, Or.inr hspells⟩

variable {body : Core} {min : Nat} {more : Option Nat} {greedy : Bool} {w : List Char}

lemma Spells.maybe (h : (repetition 0 (some 1) greedy body).Spells w) : w = [] ∨ body.Spells w := by
  obtain ⟨ws, -, hle, hall, rfl⟩ := h
  have hle : ws.length ≤ 1 := hle 1 rfl
  rcases ws with _ | ⟨x, _ | ⟨y, ws⟩⟩
  · exact Or.inl rfl
  · rw [List.flatten_singleton]
    exact Or.inr (hall x List.mem_cons_self)
  · exact absurd hle (by simp)

lemma flatten_chars {set : CharSet} {ws : List (List Char)} (h : ∀ x ∈ ws, (chars set).Spells x) :
    ws.flatten.length = ws.length ∧ ∀ c ∈ ws.flatten, set.contains c = true := by
  induction ws with
  | nil => exact ⟨rfl, List.forall_mem_nil _⟩
  | cons x ws ih =>
    obtain ⟨⟨c, hc, rfl⟩, hws⟩ := List.forall_mem_cons.mp h
    obtain ⟨hlength, hall⟩ := ih hws
    exact ⟨congrArg (· + 1) hlength, List.forall_mem_cons.mpr ⟨hc, hall⟩⟩

lemma Spells.repeated_chars {set : CharSet} (h : (repetition min more greedy (chars set)).Spells w) :
    min ≤ w.length ∧ (∀ m ∈ more, w.length ≤ min + m) ∧ ∀ c ∈ w, set.contains c = true := by
  obtain ⟨ws, hmin, hmore, hall, rfl⟩ := h
  obtain ⟨hlength, hset⟩ := flatten_chars hall
  exact ⟨hlength ▸ hmin, fun m hm => hlength ▸ hmore m hm, hset⟩

section Lengths

lemma add_eq_some {x y : Option Nat} {n : Nat} : add x y = some n ↔ ∃ k l, x = some k ∧ y = some l ∧ k + l = n := by
  cases x <;> cases y <;> simp [add]

lemma combine_eq_some {f : Nat → Nat → Nat} {x y : Option Nat} {n : Nat} :
    combine f x y = some n ↔ ∃ k l, x = some k ∧ y = some l ∧ f k l = n := by
  cases x <;> cases y <;> simp [combine]

lemma length_flatten_ge {ws : List (List Char)} {k : Nat} (h : ∀ x ∈ ws, k ≤ x.length) :
    k * ws.length ≤ ws.flatten.length := by
  induction ws with
  | nil => exact Nat.zero_le _
  | cons x ws ih =>
    obtain ⟨hx, hws⟩ := List.forall_mem_cons.mp h
    rw [List.flatten_cons, List.length_append, List.length_cons, Nat.mul_succ, Nat.add_comm]
    exact Nat.add_le_add hx (ih hws)

lemma length_flatten_le {ws : List (List Char)} {k : Nat} (h : ∀ x ∈ ws, x.length ≤ k) :
    ws.flatten.length ≤ k * ws.length := by
  induction ws with
  | nil => exact Nat.zero_le _
  | cons x ws ih =>
    obtain ⟨hx, hws⟩ := List.forall_mem_cons.mp h
    rw [List.flatten_cons, List.length_append, List.length_cons, Nat.mul_succ, Nat.add_comm]
    exact Nat.add_le_add (ih hws) hx

variable {r : Core} {n : Nat}

lemma Spells.length_ge (h : r.Spells w) (hn : r.minLength = some n) : n ≤ w.length := by
  induction r generalizing w n with
  | empty =>
    cases hn
    exact Nat.zero_le _
  | literal cs =>
    obtain rfl := Option.some.inj hn
    exact (show w = cs from h) ▸ Nat.le_refl _
  | chars s =>
    obtain ⟨c, -, rfl⟩ := h
    rw [minLength] at hn
    split at hn
    · cases hn
    · exact (Option.some.inj hn).ge
  | look l =>
    cases hn
    exact Nat.zero_le _
  | repetition min more greedy body ih =>
    obtain ⟨k, hk, rfl⟩ := Option.map_eq_some_iff.mp hn
    obtain ⟨ws, hmin, -, hall, rfl⟩ := h
    exact (Nat.mul_le_mul_left k hmin).trans (length_flatten_ge fun x hx => ih (hall x hx) hk)
  | capture index body ih => exact ih h hn
  | seq a b iha ihb =>
    obtain ⟨u, v, hu, hv, rfl⟩ := h
    obtain ⟨k, l, ha, hb, rfl⟩ := add_eq_some.mp hn
    rw [List.length_append]
    exact Nat.add_le_add (iha hu ha) (ihb hv hb)
  | alt a b iha ihb =>
    obtain ⟨k, l, ha, hb, rfl⟩ := combine_eq_some.mp hn
    rcases h with h | h
    · exact (Nat.min_le_left k l).trans (iha h ha)
    · exact (Nat.min_le_right k l).trans (ihb h hb)

lemma Spells.length_le (h : r.Spells w) (hn : r.maxLength = some n) : w.length ≤ n := by
  induction r generalizing w n with
  | empty => exact (show w = [] from h) ▸ Nat.zero_le _
  | literal cs =>
    obtain rfl := Option.some.inj hn
    exact (show w = cs from h) ▸ Nat.le_refl _
  | chars s =>
    obtain ⟨c, -, rfl⟩ := h
    rw [maxLength] at hn
    split at hn
    · cases hn
    · exact (Option.some.inj hn).le
  | look l => exact (show w = [] from h) ▸ Nat.zero_le _
  | repetition min more greedy body ih =>
    obtain ⟨ws, -, hmore, hall, rfl⟩ := h
    unfold maxLength at hn
    split at hn
    · rename_i m k hk
      obtain rfl := Option.some.inj hn
      exact (length_flatten_le fun x hx => ih (hall x hx) hk).trans (Nat.mul_le_mul_left k (hmore m rfl))
    · cases hn
  | capture index body ih => exact ih h hn
  | seq a b iha ihb =>
    obtain ⟨u, v, hu, hv, rfl⟩ := h
    obtain ⟨k, l, ha, hb, rfl⟩ := add_eq_some.mp hn
    rw [List.length_append]
    exact Nat.add_le_add (iha hu ha) (ihb hv hb)
  | alt a b iha ihb =>
    obtain ⟨k, l, ha, hb, rfl⟩ := combine_eq_some.mp hn
    rcases h with h | h
    · exact (iha h ha).trans (Nat.le_max_left k l)
    · exact (ihb h hb).trans (Nat.le_max_right k l)

lemma Spells.nullable (h : r.Spells []) : r.nullable = true := by
  unfold Core.nullable
  split
  · rename_i n hn
    exact beq_iff_eq.mpr (Nat.le_zero.mp (h.length_ge hn))
  · rfl

end Lengths

section Characters

def first : Core → CharSet
  | empty => .empty
  | literal cs => (cs.head?.map .singleton).getD .empty
  | chars s => s
  | look _ => .empty
  | repetition _ _ _ body => body.first
  | capture _ body => body.first
  | seq a b => if a.nullable then a.first.union b.first else a.first
  | alt a b => a.first.union b.first

def last : Core → CharSet
  | empty => .empty
  | literal cs => (cs.getLast?.map .singleton).getD .empty
  | chars s => s
  | look _ => .empty
  | repetition _ _ _ body => body.last
  | capture _ body => body.last
  | seq a b => if b.nullable then a.last.union b.last else b.last
  | alt a b => a.last.union b.last

def alphabet : Core → CharSet
  | empty => .empty
  | literal cs => cs.foldr (fun c s => (CharSet.singleton c).union s) .empty
  | chars s => s
  | look _ => .empty
  | repetition _ _ _ body => body.alphabet
  | capture _ body => body.alphabet
  | seq a b => a.alphabet.union b.alphabet
  | alt a b => a.alphabet.union b.alphabet

variable {r : Core} {c : Char}

lemma Spells.mem_alphabet (h : r.Spells w) : ∀ c ∈ w, r.alphabet.contains c = true := by
  induction r generalizing w with
  | empty => exact (show w = [] from h) ▸ List.forall_mem_nil _
  | literal cs =>
    obtain rfl : w = cs := h
    induction w with
    | nil => exact List.forall_mem_nil _
    | cons d w ih =>
      intro c hc
      rw [alphabet, List.foldr_cons, CharSet.contains_union, Bool.or_eq_true]
      rcases List.mem_cons.mp hc with rfl | hc
      · exact Or.inl ((CharSet.contains_singleton c c).mpr rfl)
      · exact Or.inr (ih c hc)
  | chars s =>
    obtain ⟨d, hd, rfl⟩ := h
    exact List.forall_mem_singleton.mpr hd
  | look l => exact (show w = [] from h) ▸ List.forall_mem_nil _
  | repetition min more greedy body ih =>
    obtain ⟨ws, -, -, hall, rfl⟩ := h
    intro c hc
    obtain ⟨x, hx, hc⟩ := List.mem_flatten.mp hc
    exact ih (hall x hx) c hc
  | capture index body ih => exact ih h
  | seq a b iha ihb =>
    obtain ⟨u, v, hu, hv, rfl⟩ := h
    refine List.forall_mem_append.mpr ⟨fun c hc => ?_, fun c hc => ?_⟩
    · rw [alphabet, CharSet.contains_union, iha hu c hc, Bool.true_or]
    · rw [alphabet, CharSet.contains_union, ihb hv c hc, Bool.or_true]
  | alt a b iha ihb =>
    intro c hc
    rw [alphabet, CharSet.contains_union]
    rcases h with h | h
    · rw [iha h c hc, Bool.true_or]
    · rw [ihb h c hc, Bool.or_true]

lemma Spells.mem_first (h : r.Spells (c :: w)) : r.first.contains c = true := by
  induction r generalizing w with
  | empty => cases h
  | literal cs =>
    obtain rfl : c :: w = cs := h
    exact (CharSet.contains_singleton c c).mpr rfl
  | chars s =>
    obtain ⟨d, hd, he⟩ := h
    obtain rfl := (List.cons.inj he).1
    exact hd
  | look l => cases h
  | repetition min more greedy body ih =>
    obtain ⟨ws, -, -, hall, he⟩ := h
    obtain ⟨before, u, behind, rfl, -, -⟩ := List.flatten_eq_cons_iff.mp he.symm
    exact ih (hall _ (List.mem_append_right before List.mem_cons_self))
  | capture index body ih => exact ih h
  | seq a b iha ihb =>
    obtain ⟨u, v, hu, hv, he⟩ := h
    rw [first]
    cases u with
    | nil =>
      obtain rfl : c :: w = v := he
      rw [if_pos hu.nullable, CharSet.contains_union, ihb hv, Bool.or_true]
    | cons d u =>
      obtain rfl : c = d := (List.cons.inj he).1
      split
      · rw [CharSet.contains_union, iha hu, Bool.true_or]
      · exact iha hu
  | alt a b iha ihb =>
    rw [first, CharSet.contains_union]
    rcases h with h | h
    · rw [iha h, Bool.true_or]
    · rw [ihb h, Bool.or_true]

lemma exists_last_of_flatten {ws : List (List Char)} (h : w ++ [c] = ws.flatten) : ∃ x ∈ ws, ∃ v, x = v ++ [c] := by
  induction ws generalizing w with
  | nil => exact absurd h (by simp)
  | cons x ws ih =>
    rw [List.flatten_cons] at h
    rcases List.eq_nil_or_concat' ws.flatten with hnil | ⟨v, d, hv⟩
    · rw [hnil, List.append_nil] at h
      exact ⟨x, List.mem_cons_self, w, h.symm⟩
    · rw [hv, ← List.append_assoc] at h
      obtain ⟨-, hd⟩ := List.append_inj' h rfl
      obtain rfl := List.singleton_inj.mp hd
      obtain ⟨y, hy, hlast⟩ := ih hv.symm
      exact ⟨y, List.mem_cons_of_mem x hy, hlast⟩

lemma Spells.mem_last (h : r.Spells (w ++ [c])) : r.last.contains c = true := by
  induction r generalizing w with
  | empty => exact absurd (show w ++ [c] = [] from h) (by simp)
  | literal cs =>
    obtain rfl : w ++ [c] = cs := h
    rw [last, List.getLast?_concat]
    exact (CharSet.contains_singleton c c).mpr rfl
  | chars s =>
    obtain ⟨d, hd, he⟩ := h
    obtain ⟨-, he⟩ := List.append_inj' (show w ++ [c] = [] ++ [d] from he) rfl
    exact List.singleton_inj.mp he ▸ hd
  | look l => exact absurd (show w ++ [c] = [] from h) (by simp)
  | repetition min more greedy body ih =>
    obtain ⟨ws, -, -, hall, he⟩ := h
    obtain ⟨x, hx, v, rfl⟩ := exists_last_of_flatten he
    exact ih (hall _ hx)
  | capture index body ih => exact ih h
  | seq a b iha ihb =>
    obtain ⟨u, v, hu, hv, he⟩ := h
    rw [last]
    rcases List.eq_nil_or_concat' v with rfl | ⟨v, d, rfl⟩
    · rw [List.append_nil] at he
      rw [if_pos hv.nullable, CharSet.contains_union, iha (he ▸ hu), Bool.true_or]
    · rw [← List.append_assoc] at he
      obtain ⟨-, hd⟩ := List.append_inj' he rfl
      obtain rfl := List.singleton_inj.mp hd
      split
      · rw [CharSet.contains_union, ihb hv, Bool.or_true]
      · exact ihb hv
  | alt a b iha ihb =>
    rw [last, CharSet.contains_union]
    rcases h with h | h
    · rw [iha h, Bool.true_or]
    · rw [ihb h, Bool.or_true]

end Characters

end Core

end Regex

end TypedPattern
