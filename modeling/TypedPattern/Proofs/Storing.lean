import TypedPattern.Proofs.Fragment

/-! Storing a fragment: what is stored of it is stored as it is. -/

namespace TypedPattern

open Regex (Cursor Level Syntax)

namespace Regex

open TypedPattern.Regex.Group (CaptureName)

namespace Syntax

mutual

lemma withoutCaptures_withoutCaptures : ∀ s : Syntax, s.withoutCaptures.withoutCaptures = s.withoutCaptures
  | .empty _ => rfl
  | .flags _ _ => rfl
  | .literal _ => rfl
  | .dot _ => rfl
  | .assertion _ _ => rfl
  | .unicode _ => rfl
  | .perl _ => rfl
  | .bracketed _ _ _ => rfl
  | .repetition s t kind greedy body => congrArg (repetition s t kind greedy) (withoutCaptures_withoutCaptures body)
  | .group s .numbered body => congrArg (group s (.plain [])) (withoutCaptures_withoutCaptures body)
  | .group s (.named _ _) body => congrArg (group s (.plain [])) (withoutCaptures_withoutCaptures body)
  | .group s (.plain items) body => congrArg (group s (.plain items)) (withoutCaptures_withoutCaptures body)
  | .alternation s branches => congrArg (alternation s) (withoutCapturesAll_withoutCapturesAll branches)
  | .concat s items => congrArg (concat s) (withoutCapturesAll_withoutCapturesAll items)

lemma withoutCapturesAll_withoutCapturesAll : ∀ xs : List Syntax,
    withoutCapturesAll (withoutCapturesAll xs) = withoutCapturesAll xs
  | [] => rfl
  | x :: xs => by
    rw [withoutCapturesAll, withoutCapturesAll, withoutCaptures_withoutCaptures x,
      withoutCapturesAll_withoutCapturesAll xs]

end

/-- The tree of no text. -/
def isEmpty : Syntax → Bool
  | .empty _ => true
  | _ => false

lemma isEmpty_bare (s : Syntax) : s.bare.isEmpty = s.isEmpty := by
  cases s <;> rfl

lemma isEmpty_withoutCaptures (s : Syntax) : s.withoutCaptures.isEmpty = s.isEmpty := by
  cases s <;> rfl

lemma Written.isEmpty {v : Bool} {x : Syntax} (h : Written (.item v x)) : x.isEmpty = false := by
  cases h <;> rfl

lemma isEmpty_ofItems {s : Span} {xs : List Syntax} (h : ∃ x ∈ xs, x.isEmpty = false) :
    (ofItems s xs).isEmpty = false := by
  obtain ⟨x, hx, hempty⟩ := h
  match xs with
  | [y] =>
    rw [List.mem_singleton.mp hx] at hempty
    exact hempty
  | _ :: _ :: _ => rfl

end Syntax

def Level.Begun (l : Level) : Prop :=
  l.branches ≠ [] ∨ ∃ x ∈ l.items, x.isEmpty = false

namespace Level

variable {l : Level}

lemma begun_push {x : Syntax} (h : x.isEmpty = false) : (l.push x).Begun :=
  Or.inr ⟨x, List.mem_cons_self, h⟩

lemma begun_split (stop : Nat) : (l.split stop).Begun :=
  Or.inl (List.cons_ne_nil _ _)

lemma Begun.toSyntax (h : l.Begun) (stop : Nat) : (l.toSyntax stop).isEmpty = false := by
  unfold Level.toSyntax
  split
  · rename_i hb
    rcases h with h | ⟨x, hx, hempty⟩
    · exact absurd (List.isEmpty_iff.mp hb) h
    · exact Syntax.isEmpty_ofItems ⟨x, List.mem_reverse.mpr hx, hempty⟩
  · rfl

lemma begun_repetition {l' : Level} {c d : Cursor} (h : readRepetition l c = .ok (l', d)) : l'.Begun := by
  unfold readRepetition at h
  split at h
  · cases h
  · split at h
    · cases h
    · obtain ⟨⟨kind, greedy, stop⟩, -, h⟩ := bind_eq_ok.mp h
      cases h
      exact Or.inr ⟨_, List.mem_cons_self, rfl⟩

end Level

/-- A character that is read leaves something in the tree. -/
lemma readLevel_isEmpty {k : Nat} {l : Level} {seen seen' : List CaptureName} {c d : Cursor} {tree : Syntax}
    (hl : l.Begun ∨ c.skip.rest ≠ []) (h : readLevel k none l seen c = .ok (tree, seen', d)) : tree.isEmpty = false := by
  induction k generalizing l seen c with
  | zero => cases h
  | succ k ih =>
    cases hc : c.skip.rest with
    | nil =>
      rw [readLevel_nil hc] at h
      cases h
      exact (hl.resolve_right fun hne => hne hc).toSyntax _
    | cons x r =>
      rw [readLevel_cons hc] at h
      split_ifs at h with h1 h2 h3 h4
      · obtain ⟨⟨head, seen₁, e⟩, -, h⟩ := bind_eq_ok.mp h
        cases head with
        | setting items => exact ih (Or.inl (Level.begun_push rfl)) h
        | opened kind =>
          obtain ⟨⟨body, seen₂, f⟩, -, h⟩ := bind_eq_ok.mp h
          exact ih (Or.inl (Level.begun_push rfl)) h
      · cases h
      · exact ih (Or.inl (Level.begun_split _)) h
      · obtain ⟨⟨l', e⟩, hrep, h⟩ := bind_eq_ok.mp h
        exact ih (Or.inl (Level.begun_repetition hrep)) h
      · obtain ⟨⟨item, e⟩, hread, h⟩ := bind_eq_ok.mp h
        have htight : Tight c.skip.verbose c.skip.rest := by
          rw [Cursor.verbose_skip]
          exact c.tight_skip
        have hreads : ItemReads seen seen c.skip e item.bare :=
          readPrimitive_ok hc htight (not_mem_signs h2 h3 h4) h1 hread
        have hitem := hreads.written.isEmpty
        rw [Syntax.isEmpty_bare] at hitem
        exact ih (Or.inl (Level.begun_push hitem)) h

lemma read_isEmpty {text : List Char} {tree : Syntax} (hne : text ≠ []) (h : read text = .ok tree) :
    tree.isEmpty = false := by
  obtain ⟨seen, d, hl⟩ := read_ok h
  have hskip : (⟨0, text, false⟩ : Cursor).skip = ⟨0, text, false⟩ := Cursor.skip_eq tight_false
  exact readLevel_isEmpty (Or.inr (by rw [hskip]; exact hne)) hl

end Regex

namespace Registry

variable {types types' : Registry} {name fragment : String} {converter : Converter} {origin : Nat}

lemma ne_empty_of_register (h : types.register name fragment converter origin = .ok types') : fragment ≠ "" := by
  rintro rfl
  obtain ⟨t, ht, -⟩ := make_of_register h
  unfold GroupType.make at ht
  split at ht <;> cases ht

/-- What is stored of a fragment has no capturing groups. Where it can be told apart when it is written out, which holds
wherever verbose mode is never on, it is read back without capturing groups, and any registry stores it as it is. -/
theorem register_normal_form (h : types.register name fragment converter origin = .ok types') :
    ∃ whole t, Regex.read fragment.toList = .ok whole ∧ types'.find? name = some t ∧ t.tree.captures = [] ∧
      (whole.isPlain = true → whole.legible = true) ∧
      (whole.legible = true →
        (∃ tree, Regex.read t.fragment.toList = .ok tree ∧ tree.captures = []) ∧
        ∀ (others : Registry) (converter' : Converter) (origin' : Nat), ∃ again u,
          others.register name t.fragment converter' origin' = .ok again ∧ again.find? name = some u ∧
            u.fragment = t.fragment) := by
  obtain ⟨whole, core, t, hr, hm, hf, rfl, ht⟩ := register_ok h
  obtain ⟨-, -, hplain⟩ := Regex.written_of_read hr
  refine ⟨whole, t, hr, hf, by rw [ht, Syntax.captures_withoutCaptures], hplain, fun hl => ?_⟩
  obtain ⟨tree, core', hr', hb, hm', -⟩ := Regex.read_withoutCaptures hr hm hl
  have hfragment : t.fragment.toList = whole.withoutCaptures.chars := by
    rw [GroupType.fragment, String.toList_ofList, ht]
  rw [← hfragment] at hr'
  refine ⟨⟨tree, hr', ?_⟩, fun others converter' origin' => ?_⟩
  · rw [← Syntax.captures_bare, hb, Syntax.captures_bare, Syntax.captures_withoutCaptures]
  · have hne : t.fragment ≠ "" := by
      intro hempty
      have hwhole := Regex.read_isEmpty (by simpa using ne_empty_of_register h) hr
      rw [hempty] at hr'
      have htree : tree = .empty ⟨0, 0⟩ := by
        cases hr'
        rfl
      rw [← Syntax.isEmpty_withoutCaptures, ← Syntax.isEmpty_bare, ← hb, htree] at hwhole
      cases hwhole
    have hread := GroupType.readFragment_ok.mpr ⟨hr', core', hm'⟩
    obtain ⟨u, hu⟩ := GroupType.exists_make t.name_ok (by simpa using hne) hread converter' origin'
    obtain ⟨again, hagain, hfind⟩ := register_of_make hu others
    obtain ⟨-, -, tree', hread', htree⟩ := GroupType.make_ok hu
    obtain rfl := Except.ok.inj (hread.symm.trans hread')
    refine ⟨again, u, hagain, hfind, ?_⟩
    -- the tree that was read back differs in its places only
    rw [GroupType.fragment, htree, ← Syntax.chars_bare, Syntax.withoutCaptures_bare, hb, ← Syntax.withoutCaptures_bare,
      Syntax.withoutCaptures_withoutCaptures, Syntax.chars_bare, GroupType.fragment, ht]

/-- A named group, and flags that hold for a part. -/
theorem register_normal_form_flags : ∃ types' t again u,
    empty.register "t" "(?i:(?P<y>a)\\x41)+" .identity 0 = .ok types' ∧ types'.find? "t" = some t ∧
      t.fragment = "(?i:(?:a)\\x41)+" ∧ types'.register "t" t.fragment .identity 1 = .ok again ∧
        again.find? "t" = some u ∧ u.fragment = t.fragment := by
  have hplain : (Regex.result? (Regex.read "(?i:(?P<y>a)\\x41)+".toList)).all (·.isPlain) = true := by decide +kernel
  have hall : (Regex.result? (empty.register "t" "(?i:(?P<y>a)\\x41)+" .identity 0)).any
      (fun r => (r.find? "t").any (·.fragment == "(?i:(?:a)\\x41)+")) = true := by decide +kernel
  obtain ⟨types', hr, hfragment⟩ := Regex.any_result?.mp hall
  obtain ⟨whole, t, hread, hf, -, hlegible, hstored⟩ := register_normal_form hr
  rw [hread] at hplain
  obtain ⟨-, hagain⟩ := hstored (hlegible hplain)
  obtain ⟨again, u, hregister, hfind, hsame⟩ := hagain types' .identity 1
  rw [hf] at hfragment
  exact ⟨types', t, again, u, hr, hf, beq_iff_eq.mp hfragment, hregister, hfind, hsame⟩

/-- Without the blank that keeps them apart two hyphens are an operator, and what is stored is no expression. -/
theorem register_stores_invalid_verbose : ∃ types' t,
    empty.register "t" "(?x)[a- -z-b]" .identity 0 = .ok types' ∧ types'.find? "t" = some t ∧
      t.fragment = "(?x)[a--z-b]" ∧ ∀ again, empty.register "t" t.fragment .identity 0 ≠ .ok again := by
  have hall : (Regex.result? (empty.register "t" "(?x)[a- -z-b]" .identity 0)).any
      (fun r => (r.find? "t").any fun t => t.fragment == "(?x)[a--z-b]" &&
        (Regex.result? (empty.register "t" t.fragment .identity 0)).isNone) = true := by decide +kernel
  obtain ⟨types', hr, h⟩ := Regex.any_result?.mp hall
  obtain ⟨t, ht, h⟩ := (Option.any_eq_true _ _).mp h
  rw [Bool.and_eq_true, beq_iff_eq, Option.isNone_iff_eq_none] at h
  refine ⟨types', t, hr, ht, h.1, fun again hagain => ?_⟩
  rw [hagain] at h
  cases h.2

end Registry

end TypedPattern
