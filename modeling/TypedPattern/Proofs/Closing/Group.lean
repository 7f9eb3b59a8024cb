import TypedPattern.Regex.Reader.Group
import TypedPattern.Regex.Reader.Repetition
import TypedPattern.Proofs.Closing.Cursor
import TypedPattern.Proofs.Reading.Bare
import TypedPattern.Proofs.Reading.Steps
import Mathlib.Data.List.TakeWhile

/-! Repetition operators and the heads of groups are read alike with the closing behind the text. -/

namespace TypedPattern.Regex

namespace Repetition

variable {c d : Cursor}

lemma digits_longer {k k' : Nat} (h : Longer c d) (hk : c.rest.length ≤ k) (hk' : d.rest.length ≤ k') :
    Alike (· = ·) (digits k c) (digits k' d) := by
  have stop : ∀ {c d : Cursor}, Longer c d → c.rest = [] → ∀ j, digits j d = ([], d) := by
    intro c d h hc j
    cases j with
    | zero => rfl
    | succ j =>
      rcases h.rest with hd | ⟨-, hd⟩
      · rw [digits, hd, hc]
        rfl
      · rw [digits, hd]
  induction k generalizing c d k' with
  | zero =>
    rw [stop h (List.length_eq_zero_iff.mp (Nat.le_zero.mp hk))]
    exact ⟨rfl, h⟩
  | succ k ih =>
    rcases h.cases with hc | ⟨x, r, hc, hd⟩
    · rw [stop h hc, digits, hc]
      exact ⟨rfl, h⟩
    · obtain ⟨j, rfl⟩ : ∃ j, k' = j + 1 := ⟨k' - 1, by rw [hd, List.length_cons] at hk'; omega⟩
      rw [digits, digits]
      simp only [hc, hd]
      by_cases hx : Text.isDigit x = true
      · rw [if_pos hx, if_pos hx]
        have hlen := c.length_bumpSkip
        have hlen' := d.length_bumpSkip
        rw [hc, List.length_cons] at hlen hk
        rw [hd, List.length_cons] at hlen' hk'
        obtain ⟨h1, h2⟩ := @ih c.bumpSkip d.bumpSkip j (h.bumpSkip (by simp [hc])) (by omega) (by omega)
        exact ⟨congrArg (x :: ·) h1, h2⟩
      · rw [if_neg hx, if_neg hx]
        exact ⟨rfl, h⟩

lemma passWhite_longer {k k' : Nat} (h : Longer c d) (hk : c.rest.length ≤ k) (hk' : d.rest.length ≤ k') :
    Longer (passWhite k c) (passWhite k' d) := by
  have stop : ∀ {c d : Cursor}, Longer c d → c.rest = [] → ∀ j, passWhite j d = d := by
    intro c d h hc j
    cases j with
    | zero => rfl
    | succ j =>
      rcases h.rest with hd | ⟨-, hd⟩
      · rw [passWhite, hd, hc]
        rfl
      · rw [passWhite, hd]
  induction k generalizing c d k' with
  | zero =>
    rw [stop h (List.length_eq_zero_iff.mp (Nat.le_zero.mp hk))]
    exact h
  | succ k ih =>
    rcases h.cases with hc | ⟨x, r, hc, hd⟩
    · rw [stop h hc, passWhite, hc]
      exact h
    · obtain ⟨j, rfl⟩ : ∃ j, k' = j + 1 := ⟨k' - 1, by rw [hd, List.length_cons] at hk'; omega⟩
      rw [passWhite, passWhite]
      simp only [hc, hd]
      by_cases hx : isWhite x = true
      · rw [if_pos hx, if_pos hx]
        have hlen := c.length_bumpSkip
        have hlen' := d.length_bumpSkip
        rw [hc, List.length_cons] at hlen hk
        rw [hd, List.length_cons] at hlen' hk'
        exact @ih c.bumpSkip d.bumpSkip j (h.bumpSkip (by simp [hc])) (by omega) (by omega)
      · rw [if_neg hx, if_neg hx]
        exact h

lemma count_longer (h : Longer c d) :
    Sim (· = ·) (count c).1 (count d).1 ∧ Longer (count c).2 (count d).2 := by
  unfold count
  dsimp only
  have hw : (d.rest.takeWhile isWhite).length = (c.rest.takeWhile isWhite).length := by
    rcases h.rest with h | ⟨hc, hd⟩
    · rw [h, List.takeWhile_append]
      split
      · rename_i hall
        rw [List.length_append, hall]
        rfl
      · rfl
    · rw [hc, hd]
  have h₁ : Longer { c with pos := c.pos + (c.rest.takeWhile isWhite).length,
                            rest := c.rest.drop (c.rest.takeWhile isWhite).length }
      { d with pos := d.pos + (d.rest.takeWhile isWhite).length,
               rest := d.rest.drop (d.rest.takeWhile isWhite).length } := by
    refine ⟨h.verbose, ?_⟩
    rw [hw]
    rcases h.rest with h | ⟨hc, hd⟩
    · have hle := (List.takeWhile_prefix (l := c.rest) isWhite).length_le
      exact Or.inl (by rw [h, List.drop_append_of_le_length hle])
    · exact Or.inr ⟨by rw [hc, List.drop_nil], by rw [hd, List.drop_nil]⟩
  obtain ⟨h2, h3⟩ := digits_longer h₁ (Nat.le_refl _) (Nat.le_refl _)
  rw [← h2]
  have h4 := passWhite_longer h3 (Nat.le_refl _) (Nat.le_refl _)
  split
  · exact ⟨Sim.error _, h4⟩
  · split
    · exact ⟨Sim.ok rfl, h4⟩
    · exact ⟨Sim.error _, h4⟩

def SameOperator (a b : RepetitionKind × Bool × Cursor) : Prop :=
  b.1 = a.1 ∧ b.2.1 = a.2.1 ∧ Longer a.2.2 b.2.2

lemma counts_sim (start start' : Nat) (h : Longer c d) :
    Sim (Alike (· = ·)) (counts start c) (counts start' d) := by
  unfold counts
  obtain ⟨hm, h₁⟩ := count_longer h
  dsimp only
  refine Sim.guard h₁.atEnd fun hend => ?_
  refine Sim.ite (by rw [h₁.at? (by decide)]) (fun _ => ?_) fun _ => ?_
  · have h₂ := h₁.bumpSkip (Cursor.rest_ne_nil_of_atEnd hend)
    refine Sim.guard h₂.atEnd fun _ => ?_
    refine Sim.ite (by rw [h₂.at? (by decide)]) (fun _ => ?_) fun _ => ?_
    · exact hm.map fun m n hmn => ⟨congrArg RepetitionKind.atLeast hmn, h₂⟩
    · obtain ⟨hn, h₃⟩ := count_longer h₂
      refine hm.bind fun m m' hmm => hn.map fun n n' hnn => ⟨?_, h₃⟩
      rw [hmm, hnn]
  · exact hm.map fun m n hmn => ⟨congrArg RepetitionKind.exactly hmn, h₁⟩

lemma closeCounts_sim (start start' : Nat) (kind : RepetitionKind) (h : Longer c d) :
    Sim SameOperator (closeCounts start kind c) (closeCounts start' kind d) := by
  unfold closeCounts
  refine Sim.guard (by rw [h.at? (by decide)]; exact fun h => h) fun hat => ?_
  have h₁ := h.bumpSkip (Cursor.rest_ne_nil_of_at? (by simpa using hat))
  have hlazy : d.bumpSkip.at? '?' = c.bumpSkip.at? '?' := h₁.at? (by decide)
  dsimp only
  refine Sim.ite Iff.rfl (fun _ => Sim.ok ⟨rfl, by rw [hlazy], ?_⟩) fun _ => Sim.error _
  rw [hlazy]
  by_cases hq : c.bumpSkip.at? '?' = true
  · simp only [hq, if_true]
    exact h₁.bump (Cursor.rest_ne_nil_of_at? hq)
  · simp only [hq]
    exact h₁

lemma readCounted_sim (h : Longer c d) (hc : c.rest ≠ []) : Sim SameOperator (readCounted c) (readCounted d) := by
  have h₁ := h.bumpSkip hc
  rw [readCounted_eq, readCounted_eq]
  refine Sim.guard h₁.atEnd fun _ => (counts_sim _ _ h₁).bind ?_
  rintro ⟨kind, c₁⟩ ⟨_, d₁⟩ ⟨rfl, h₂⟩
  exact closeCounts_sim _ _ kind h₂

lemma readSign_longer (kind : RepetitionKind) (h : Longer c d) (hc : c.rest ≠ []) :
    SameOperator (readSign kind c) (readSign kind d) := by
  have h₁ := h.bump hc
  have hlazy : d.bump.at? '?' = c.bump.at? '?' := h₁.at? (by decide)
  unfold readSign
  dsimp only
  rw [hlazy]
  by_cases hq : c.bump.at? '?' = true
  · rw [if_pos hq, if_pos hq]
    exact ⟨rfl, rfl, h₁.bump (Cursor.rest_ne_nil_of_at? hq)⟩
  · rw [if_neg hq, if_neg hq]
    exact ⟨rfl, rfl, h₁⟩

theorem read_sim (h : Longer c d) (hc : c.rest ≠ []) : Sim SameOperator (read c) (read d) := by
  unfold read
  refine Sim.ite (by rw [h.at? (by decide)]) (fun _ => Sim.ok (readSign_longer _ h hc)) fun _ => ?_
  refine Sim.ite (by rw [h.at? (by decide)]) (fun _ => Sim.ok (readSign_longer _ h hc)) fun _ => ?_
  refine Sim.ite (by rw [h.at? (by decide)]) (fun _ => Sim.ok (readSign_longer _ h hc)) fun _ => ?_
  exact readCounted_sim h hc

end Repetition

namespace Group

variable {c d : Cursor}

lemma nameChars_sim {k k' : Nat} (first : Bool) (h : Longer c d) (hk : c.rest.length ≤ k)
    (hk' : d.rest.length ≤ k') :
    ∀ a, nameChars k first c = .ok a → ¬a.2.atEnd = true → ∃ b, nameChars k' first d = .ok b ∧ Alike (· = ·) a b := by
  induction k generalizing c d k' first with
  | zero =>
    rintro a ha hend
    cases ha
    exact absurd (List.length_eq_zero_iff.mp (Nat.le_zero.mp hk)) (Cursor.rest_ne_nil_of_atEnd hend)
  | succ k ih =>
    rintro a ha hend
    rcases h.cases with hc | ⟨x, r, hc, hd⟩
    · rw [nameChars, hc] at ha
      cases ha
      exact absurd hc (Cursor.rest_ne_nil_of_atEnd hend)
    · obtain ⟨j, rfl⟩ : ∃ j, k' = j + 1 := ⟨k' - 1, by rw [hd, List.length_cons] at hk'; omega⟩
      have hne : c.rest ≠ [] := by simp [hc]
      rw [nameChars]
      simp only [nameChars, hc, hd] at ha ⊢
      by_cases hx : x = '>'
      · rw [if_pos hx] at ha ⊢
        cases ha
        exact ⟨_, rfl, rfl, h⟩
      · rw [if_neg hx] at ha ⊢
        by_cases hp : (if first = true then isNameStart x else isNamePart x) = true
        · rw [if_pos hp] at ha ⊢
          rw [hc, List.length_cons] at hk
          rw [hd, List.length_cons] at hk'
          cases hr : nameChars k false c.bump with
          | error e =>
            rw [hr] at ha
            cases ha
          | ok b =>
            rw [hr] at ha
            cases ha
            obtain ⟨b', hb', heq, hl⟩ := @ih c.bump d.bump j false (h.bump hne)
              (by rw [Cursor.rest_bump, hc, List.tail_cons]; omega)
              (by rw [Cursor.rest_bump, hd, List.tail_cons]; omega) b hr hend
            rw [hb']
            exact ⟨_, rfl, congrArg (x :: ·) heq, hl⟩
        · rw [if_neg hp] at ha
          cases ha

def SameName (m n : CaptureName) : Prop :=
  n.name = m.name

def SameNames (ms ns : List CaptureName) : Prop :=
  ns.map (·.name) = ms.map (·.name)

lemma find?_name {ms ns : List CaptureName} (h : SameNames ms ns) (name : List Char)
    (hm : ms.find? (·.name == name) = none) : ns.find? (·.name == name) = none := by
  rw [List.find?_eq_none] at hm ⊢
  intro n hn
  have hmem : n.name ∈ ms.map (·.name) := h ▸ List.mem_map_of_mem hn
  obtain ⟨m, hm', heq⟩ := List.mem_map.mp hmem
  exact heq ▸ hm m hm'

lemma readName_sim {ms ns : List CaptureName} (hs : SameNames ms ns) (h : Longer c d) :
    Sim (Alike SameName) (readName ms c) (readName ns d) := by
  unfold readName
  dsimp only
  intro a ha
  cases hr : nameChars c.rest.length true c with
  | error e =>
    rw [hr] at ha
    cases ha
  | ok b =>
    rw [hr] at ha
    change (if b.2.atEnd = true then _ else _) = _ at ha
    by_cases hend : b.2.atEnd = true
    · rw [if_pos hend] at ha
      cases ha
    · rw [if_neg hend] at ha
      obtain ⟨b', hb', heq, hl⟩ := nameChars_sim true h (Nat.le_refl _) (Nat.le_refl _) b hr hend
      rw [hb']
      change ∃ a', (if b'.2.atEnd = true then _ else _) = _ ∧ _
      rw [if_neg (hl.atEnd hend), ← heq]
      by_cases hemp : b.1.isEmpty = true
      · rw [if_pos hemp] at ha
        cases ha
      · rw [if_neg hemp] at ha ⊢
        cases hf : ms.find? fun other => other.name == b.1 with
        | some other =>
          rw [hf] at ha
          cases ha
        | none =>
          rw [hf] at ha
          rw [find?_name hs b.1 hf]
          cases ha
          exact ⟨_, rfl, rfl, hl.bump (Cursor.rest_ne_nil_of_atEnd hend)⟩

def SameFlags (xs ys : List FlagItem) : Prop :=
  ys.map FlagItem.bare = xs.map FlagItem.bare

lemma SameFlags.repeated? {xs ys : List FlagItem} (h : SameFlags xs ys) {x y : FlagItem} (hxy : y.bare = x.bare)
    (hn : repeated? xs x = none) : repeated? ys y = none := by
  rw [← Option.isNone_iff_eq_none, ← Option.not_isSome] at hn ⊢
  rw [repeated?_bare, hxy, show ys.map FlagItem.bare = xs.map FlagItem.bare from h, ← repeated?_bare, hn]

lemma SameFlags.append {xs ys : List FlagItem} (h : SameFlags xs ys) {x y : FlagItem} (hxy : y.bare = x.bare) :
    SameFlags (xs ++ [x]) (ys ++ [y]) := by
  have h : ys.map FlagItem.bare = xs.map FlagItem.bare := h
  simp only [SameFlags, List.map_append, List.map_cons, List.map_nil, h, hxy]

lemma SameFlags.negation_getLast? {xs ys : List FlagItem} (h : SameFlags xs ys) :
    (∃ s, xs.getLast? = some (.negation s)) ↔ ∃ s, ys.getLast? = some (.negation s) := by
  rw [negation_getLast?_iff, negation_getLast?_iff, show ys.map FlagItem.bare = xs.map FlagItem.bare from h]

lemma readFlags_sim {k k' : Nat} {xs ys : List FlagItem} (hf : SameFlags xs ys) (h : Longer c d)
    (hk : c.rest.length < k) (hk' : d.rest.length < k') :
    Sim (fun a b => SameFlags a.1 b.1 ∧ Longer a.2 b.2 ∧ a.2.rest ≠ []) (readFlags k xs c) (readFlags k' ys d) := by
  induction k generalizing c d k' xs ys with
  | zero => omega
  | succ k ih =>
    obtain ⟨j, rfl⟩ : ∃ j, k' = j + 1 := ⟨k' - 1, by omega⟩
    rw [readFlags, readFlags]
    rcases h.cases with hc | ⟨x, r, hc, hd⟩
    · rw [hc]
      exact Sim.error _
    · have hne : c.rest ≠ [] := by simp [hc]
      have hb := h.bump hne
      simp only [hc, hd]
      rw [hc, List.length_cons] at hk
      rw [hd, List.length_cons] at hk'
      have hlen : c.bump.rest.length < k := by
        rw [Cursor.rest_bump, hc, List.tail_cons]
        omega
      have hlen' : d.bump.rest.length < j := by
        rw [Cursor.rest_bump, hd, List.tail_cons]
        omega
      refine Sim.ite Iff.rfl (fun _ => ?_) fun _ => Sim.ite Iff.rfl (fun _ => ?_) fun _ => ?_
      · have hneg := hf.negation_getLast?
        split
        · exact Sim.error _
        · rename_i hx
          split
          · rename_i s hs
            obtain ⟨s', hs'⟩ := hneg.mpr ⟨s, hs⟩
            exact absurd hs' (hx s')
          · exact Sim.ok ⟨hf, h, hne⟩
      · cases hrep : repeated? xs (.negation c.spanChar) with
        | some other => exact Sim.error _
        | none =>
          rw [hf.repeated? (x := .negation c.spanChar) (y := .negation d.spanChar) rfl hrep]
          exact ih (hf.append rfl) hb hlen hlen'
      · cases flagOf? x with
        | none => exact Sim.error _
        | some f =>
          dsimp only
          cases hrep : repeated? xs (.flag c.spanChar f) with
          | some other => exact Sim.error _
          | none =>
            rw [hf.repeated? (x := .flag c.spanChar f) (y := .flag d.spanChar f) rfl hrep]
            exact ih (hf.append rfl) hb hlen hlen'

def SameHead : Head → Head → Prop
  | .setting xs, .setting ys => SameFlags xs ys
  | .opened j, .opened k => k.bare = j.bare
  | _, _ => False

def SameOpened (a b : Opened) : Prop :=
  SameHead a.1 b.1 ∧ SameNames a.2.1 b.2.1 ∧ Longer a.2.2 b.2.2

lemma openNamed_sim (letter : Bool) {ms ns : List CaptureName} (hs : SameNames ms ns) (h : Longer c d) :
    Sim SameOpened (openNamed letter ms c) (openNamed letter ns d) := by
  unfold openNamed
  refine (readName_sim hs h).bind ?_
  rintro ⟨m, c₁⟩ ⟨n, d₁⟩ ⟨hmn, h₁⟩
  have hmn : n.name = m.name := hmn
  refine Sim.ok ⟨?_, ?_, h₁⟩
  · change GroupKind.bare _ = GroupKind.bare _
    rw [hmn]
  · have hs : ns.map (·.name) = ms.map (·.name) := hs
    simp only [SameNames, List.map_append, List.map_cons, List.map_nil, hs, hmn]

lemma openFlags_sim (start start' inner inner' : Nat) {ms ns : List CaptureName} (hs : SameNames ms ns)
    (h : Longer c d) : Sim SameOpened (openFlags start inner ms c) (openFlags start' inner' ns d) := by
  unfold openFlags
  refine Sim.guard h.atEnd fun _ => ?_
  refine (@readFlags_sim c d _ _ [] [] rfl h (Nat.lt_succ_self _) (Nat.lt_succ_self _)).bind ?_
  rintro ⟨xs, c₁⟩ ⟨ys, d₁⟩ ⟨hf, h₁, hne⟩
  have hf : SameFlags xs ys := hf
  have h₁ : Longer c₁ d₁ := h₁
  have hne : c₁.rest ≠ [] := hne
  have hat : d₁.at? ')' = c₁.at? ')' := by
    obtain ⟨x, r, hc, hd⟩ := h₁.cases.resolve_left hne
    rw [Cursor.at?, Cursor.at?, hc, hd]
    rfl
  have hemp : ys.isEmpty = xs.isEmpty := by
    rw [← List.isEmpty_map, show ys.map FlagItem.bare = xs.map FlagItem.bare from hf, List.isEmpty_map]
  dsimp only
  refine Sim.ite (by rw [hat]) (fun _ => ?_) fun _ => ?_
  · exact Sim.guard (by rw [hemp]; exact fun h => h) fun _ => Sim.ok ⟨hf, hs, h₁.bump hne⟩
  · exact Sim.ok ⟨congrArg GroupKind.plain hf, hs, h₁.bump hne⟩

theorem readHead_sim {ms ns : List CaptureName} (hs : SameNames ms ns) (h : Longer c d) (hc : c.rest ≠ []) :
    Sim SameOpened (readHead ms c) (readHead ns d) := by
  have h₁ := h.bumpSkip hc
  unfold readHead
  dsimp only
  have hmarks : (∃ a, lookAroundMarks.findSome? c.bumpSkip.after? = some a) ∨
      (lookAroundMarks.findSome? c.bumpSkip.after? = none ∧ lookAroundMarks.findSome? d.bumpSkip.after? = none) := by
    cases hm : lookAroundMarks.findSome? c.bumpSkip.after? with
    | some a => exact Or.inl ⟨a, rfl⟩
    | none =>
      refine Or.inr ⟨rfl, ?_⟩
      rw [List.findSome?_eq_none_iff] at hm ⊢
      intro mark hmem
      have hno : ')' ∉ mark := by
        revert mark
        decide
      rcases h₁.after? hno with ⟨-, hd⟩ | ⟨c', d', hc', -⟩
      · exact hd
      · rw [hm mark hmem] at hc'
        cases hc'
  rcases hmarks with ⟨a, ha⟩ | ⟨ha, hb⟩
  · rw [ha]
    exact Sim.error _
  · rw [ha, hb]
    dsimp only
    rcases @Longer.after? _ _ h₁ ['?', 'P', '<'] (by decide) with ⟨hn, hn'⟩ | ⟨c₁, d₁, hs₁, hs₁', h₂, -⟩
    · rw [hn, hn']
      dsimp only
      rcases @Longer.after? _ _ h₁ ['?', '<'] (by decide) with ⟨hn, hn'⟩ | ⟨c₁, d₁, hs₁, hs₁', h₂, -⟩
      · rw [hn, hn']
        dsimp only
        rcases @Longer.after? _ _ h₁ ['?'] (by decide) with ⟨hn, hn'⟩ | ⟨c₁, d₁, hs₁, hs₁', h₂, -⟩
        · rw [hn, hn']
          exact Sim.ok ⟨rfl, hs, h₁⟩
        · rw [hs₁, hs₁']
          exact openFlags_sim _ _ _ _ hs h₂
      · rw [hs₁, hs₁']
        exact openNamed_sim false hs h₂
    · rw [hs₁, hs₁']
      exact openNamed_sim true hs h₂

end Group

end TypedPattern.Regex
