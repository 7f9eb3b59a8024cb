import TypedPattern.Regex.Reader.Escape
import TypedPattern.Proofs.Closing.Cursor
import TypedPattern.Proofs.Reading.Bare

/-! Escapes are read alike with the closing behind the text. -/

namespace TypedPattern.Regex.Escape

variable {c d : Cursor}

def SameLiteral (l m : Literal) : Prop :=
  m.bare = l.bare

def SameTree (s t : Syntax) : Prop :=
  t.bare = s.bare

lemma fixedDigits_sim (n : Nat) (h : Longer c d) : Sim (Alike (· = ·)) (fixedDigits n c) (fixedDigits n d) := by
  induction n generalizing c d with
  | zero => exact Sim.ok ⟨rfl, h⟩
  | succ n ih =>
    rw [fixedDigits, fixedDigits]
    rcases h.cases with hc | ⟨x, r, hc, hd⟩
    · rw [hc]
      exact Sim.error _
    · simp only [hc, hd]
      refine Sim.ite Iff.rfl (fun _ => ?_) fun _ => Sim.error _
      refine (ih (h.bumpSkip (by simp [hc]))).map ?_
      rintro ⟨ds, c'⟩ ⟨_, d'⟩ ⟨rfl, h'⟩
      exact ⟨rfl, h'⟩

lemma bracedDigits_sim {k k' : Nat} (h : Longer c d) (hk : c.rest.length ≤ k) (hk' : d.rest.length ≤ k') :
    ∀ a, bracedDigits k c = .ok a → ¬a.2.atEnd = true → ∃ b, bracedDigits k' d = .ok b ∧ Alike (· = ·) a b := by
  induction k generalizing c d k' with
  | zero =>
    rintro a ha hend
    cases ha
    exact absurd (List.length_eq_zero_iff.mp (Nat.le_zero.mp hk)) (Cursor.rest_ne_nil_of_atEnd hend)
  | succ k ih =>
    rintro a ha hend
    rcases h.cases with hc | ⟨x, r, hc, hd⟩
    · rw [bracedDigits, hc] at ha
      cases ha
      exact absurd hc (Cursor.rest_ne_nil_of_atEnd hend)
    · obtain ⟨j, rfl⟩ : ∃ j, k' = j + 1 := ⟨k' - 1, by rw [hd, List.length_cons] at hk'; omega⟩
      rw [bracedDigits]
      simp only [bracedDigits, hc, hd] at ha ⊢
      by_cases hx : x = '\x7d'
      · rw [if_pos hx] at ha ⊢
        cases ha
        exact ⟨_, rfl, rfl, h⟩
      · rw [if_neg hx] at ha ⊢
        by_cases hex : Text.isHexDigit x = true
        · rw [if_pos hex] at ha ⊢
          have hlen := c.length_bumpSkip
          have hlen' := d.length_bumpSkip
          rw [hc, List.length_cons] at hlen hk
          rw [hd, List.length_cons] at hlen' hk'
          cases hr : bracedDigits k c.bumpSkip with
          | error e =>
            rw [hr] at ha
            cases ha
          | ok b =>
            rw [hr] at ha
            cases ha
            obtain ⟨b', hb', heq, hl⟩ := @ih c.bumpSkip d.bumpSkip j (h.bumpSkip (by simp [hc])) (by omega) (by omega) b hr hend
            rw [hb']
            exact ⟨_, rfl, congrArg (x :: ·) heq, hl⟩
        · rw [if_neg hex] at ha
          cases ha

lemma readHex_sim (start start' : Nat) (kind : HexKind) (h : Longer c d) (hc : c.rest ≠ []) :
    Sim (Alike SameLiteral) (readHex start kind c) (readHex start' kind d) := by
  have h := h.bumpSkip hc
  unfold readHex
  simp only
  refine Sim.guard h.atEnd fun hend => ?_
  refine Sim.ite (by rw [h.at? (by decide)]) (fun _ => ?_) fun _ => ?_
  · intro a ha
    have hne := Cursor.rest_ne_nil_of_atEnd hend
    have hopen := h.bumpSkip hne
    have hlen := c.bumpSkip.length_bumpSkip
    have hlen' := d.bumpSkip.length_bumpSkip
    cases hr : bracedDigits c.bumpSkip.rest.length c.bumpSkip.bumpSkip with
    | error e =>
      rw [hr] at ha
      cases ha
    | ok b =>
      rw [hr] at ha
      change (if b.2.atEnd = true then _ else _) = _ at ha
      by_cases hb : b.2.atEnd = true
      · rw [if_pos hb] at ha
        cases ha
      · rw [if_neg hb] at ha
        obtain ⟨b', hb', heq, hl⟩ := bracedDigits_sim hopen (by omega) (Nat.le_trans hlen' (Nat.sub_le _ _)) b hr hb
        rw [hb']
        change ∃ a', (if b'.2.atEnd = true then _ else _) = _ ∧ _
        rw [if_neg (hl.atEnd hb)]
        have hl := hl.bumpSkip (Cursor.rest_ne_nil_of_atEnd hb)
        rw [← heq]
        by_cases hemp : b.1.isEmpty = true
        · rw [if_pos hemp] at ha
          cases ha
        · rw [if_neg hemp] at ha ⊢
          cases hch : charOfHex? b.1 with
          | none =>
            rw [hch] at ha
            cases ha
          | some x =>
            rw [hch] at ha
            cases ha
            exact ⟨_, rfl, rfl, hl⟩
  · refine (fixedDigits_sim kind.digits h).bind ?_
    rintro ⟨ds, c'⟩ ⟨_, d'⟩ ⟨rfl, h'⟩
    dsimp only
    cases charOfHex? ds with
    | none => exact Sim.error _
    | some x => exact Sim.ok ⟨rfl, h'⟩

lemma bracedName_sim {k k' : Nat} (h : Longer c d) (hk : c.rest.length ≤ k) (hk' : d.rest.length ≤ k')
    (hend : ¬(bracedName k c).2.atEnd = true) : Alike (· = ·) (bracedName k c) (bracedName k' d) := by
  induction k generalizing c d k' with
  | zero =>
    exact absurd (List.length_eq_zero_iff.mp (Nat.le_zero.mp hk)) (Cursor.rest_ne_nil_of_atEnd hend)
  | succ k ih =>
    rcases h.cases with hc | ⟨x, r, hc, hd⟩
    · rw [bracedName, hc] at hend
      exact absurd hc (Cursor.rest_ne_nil_of_atEnd hend)
    · obtain ⟨j, rfl⟩ : ∃ j, k' = j + 1 := ⟨k' - 1, by rw [hd, List.length_cons] at hk'; omega⟩
      rw [bracedName] at hend
      rw [bracedName, bracedName]
      simp only [hc, hd] at hend ⊢
      by_cases hx : x = '\x7d'
      · rw [if_pos hx, if_pos hx]
        exact ⟨rfl, h⟩
      · rw [if_neg hx] at hend
        rw [if_neg hx, if_neg hx]
        have hlen := c.length_bumpSkip
        have hlen' := d.length_bumpSkip
        rw [hc, List.length_cons] at hlen hk
        rw [hd, List.length_cons] at hlen' hk'
        obtain ⟨h1, h2⟩ := @ih c.bumpSkip d.bumpSkip j (h.bumpSkip (by simp [hc])) (by omega) (by omega) hend
        exact ⟨by simp only [h1], h2⟩

lemma readUnicode_sim (start start' : Nat) (negated : Bool) (h : Longer c d) (hc : c.rest ≠ []) :
    Sim (Alike fun u v : UnicodeClass => v.bare = u.bare) (readUnicode start negated c) (readUnicode start' negated d) := by
  have h := h.bumpSkip hc
  unfold readUnicode
  simp only
  rcases h.cases with hr | ⟨x, r, hr, hr'⟩
  · rw [hr]
    exact Sim.error _
  · have hne : c.bumpSkip.rest ≠ [] := by simp [hr]
    simp only [hr, hr']
    refine Sim.ite Iff.rfl (fun _ => ?_) fun _ => ?_
    · have hopen := h.bumpSkip hne
      have hlen := c.bumpSkip.length_bumpSkip
      have hlen' := d.bumpSkip.length_bumpSkip
      rw [hr] at hlen
      rw [hr'] at hlen'
      have hname := bracedName_sim hopen (Nat.le_trans hlen (Nat.sub_le _ _)) (Nat.le_trans hlen' (Nat.sub_le _ _))
      by_cases hend : (bracedName (x :: r).length c.bumpSkip.bumpSkip).2.atEnd = true
      · rw [if_pos hend]
        exact Sim.error _
      · obtain ⟨h1, h2⟩ := hname hend
        rw [if_neg hend, if_neg (h2.atEnd hend), ← h1]
        exact Sim.ok ⟨rfl, h2.bump (Cursor.rest_ne_nil_of_atEnd hend)⟩
    · refine Sim.guard (fun h => h) fun _ => ?_
      exact Sim.ok ⟨rfl, h.bumpSkip hne⟩

lemma boundaryName_stop (h : Longer c d) (hc : c.rest = []) (k : Nat) : boundaryName k d = ([], d) := by
  cases k with
  | zero => rfl
  | succ k =>
    rcases h.rest with hd | ⟨-, hd⟩
    · rw [boundaryName, hd, hc]
      rfl
    · rw [boundaryName, hd]

lemma boundaryName_sim {k k' : Nat} (h : Longer c d) (hk : c.rest.length ≤ k) (hk' : d.rest.length ≤ k') :
    Alike (· = ·) (boundaryName k c) (boundaryName k' d) := by
  induction k generalizing c d k' with
  | zero =>
    have hc := List.length_eq_zero_iff.mp (Nat.le_zero.mp hk)
    rw [boundaryName_stop h hc]
    exact ⟨rfl, h⟩
  | succ k ih =>
    rcases h.cases with hc | ⟨x, r, hc, hd⟩
    · rw [boundaryName_stop h hc, boundaryName, hc]
      exact ⟨rfl, h⟩
    · obtain ⟨j, rfl⟩ : ∃ j, k' = j + 1 := ⟨k' - 1, by rw [hd, List.length_cons] at hk'; omega⟩
      rw [boundaryName, boundaryName]
      simp only [hc, hd]
      by_cases hx : isBoundaryLetter x = true
      · rw [if_pos hx, if_pos hx]
        have hlen := c.length_bumpSkip
        have hlen' := d.length_bumpSkip
        rw [hc, List.length_cons] at hlen hk
        rw [hd, List.length_cons] at hlen' hk'
        obtain ⟨h1, h2⟩ := @ih c.bumpSkip d.bumpSkip j (h.bumpSkip (by simp [hc])) (by omega) (by omega)
        exact ⟨by simp only [h1], h2⟩
      · rw [if_neg hx, if_neg hx]
        exact ⟨rfl, h⟩

lemma readBoundary_sim (start start' : Nat) (h : Longer c d) (hc : c.rest ≠ []) :
    Sim (Alike (· = ·)) (readBoundary start c) (readBoundary start' d) := by
  have hb := h.bumpSkip hc
  unfold readBoundary
  simp only
  rcases hb.cases with hr | ⟨x, r, hr, hr'⟩
  · rw [hr]
    exact Sim.error _
  · simp only [hr, hr']
    refine Sim.ite Iff.rfl (fun _ => Sim.ok ⟨rfl, h⟩) fun _ => ?_
    obtain ⟨h1, h2⟩ := @boundaryName_sim _ _ (x :: r).length (x :: (r ++ closing)).length hb (by rw [hr]) (by rw [hr'])
    refine Sim.guard (by rw [h2.at? (by decide)]; exact fun h => h) fun hat => ?_
    rw [← h1]
    cases hkind : boundaryKind? (boundaryName (x :: r).length c.bumpSkip).1 with
    | none => exact Sim.error _
    | some kind =>
      exact Sim.ok ⟨rfl, h2.bump (Cursor.rest_ne_nil_of_at? (by simpa using hat))⟩

lemma readSimple_sim (start start' : Nat) (x : Char) (h : Longer c d) :
    Sim (Alike SameTree) (readSimple start x c) (readSimple start' x d) := by
  unfold readSimple
  simp only
  refine Sim.ite Iff.rfl (fun _ => Sim.ok ⟨rfl, h⟩) fun _ => ?_
  cases controlChar? x with
  | some y => exact Sim.ok ⟨rfl, h⟩
  | none =>
    cases assertionKind? x with
    | none => exact Sim.ite Iff.rfl (fun _ => Sim.ok ⟨rfl, h⟩) fun _ => Sim.error _
    | some kind =>
      cases kind with
      | wordBoundary =>
        refine Sim.ite (by rw [h.at? (by decide)]) (fun hat => ?_) fun _ => Sim.ok ⟨rfl, h⟩
        refine (readBoundary_sim start start' h (Cursor.rest_ne_nil_of_at? hat)).bind ?_
        rintro ⟨kind, c'⟩ ⟨_, d'⟩ ⟨rfl, h'⟩
        cases kind with
        | none => exact Sim.ok ⟨rfl, h'⟩
        | some kind => exact Sim.ok ⟨rfl, h'⟩
      | _ => exact Sim.ok ⟨rfl, h⟩

theorem read_sim (h : Longer c d) (hc : c.rest ≠ []) : Sim (Alike SameTree) (read c) (read d) := by
  have hb := h.bump hc
  unfold read
  simp only
  rcases hb.cases with hr | ⟨x, r, hr, hr'⟩
  · rw [hr]
    exact Sim.error _
  · have hne : c.bump.rest ≠ [] := by simp [hr]
    simp only [hr, hr']
    refine Sim.guard (fun h => h) fun _ => ?_
    cases hexKind? x with
    | some kind =>
      refine (readHex_sim _ _ kind hb hne).map ?_
      rintro ⟨l, c'⟩ ⟨m, d'⟩ ⟨hl, h'⟩
      exact ⟨congrArg Syntax.literal hl, h'⟩
    | none =>
      refine Sim.ite Iff.rfl (fun _ => ?_) fun _ => ?_
      · refine (readUnicode_sim _ _ _ hb hne).map ?_
        rintro ⟨u, c'⟩ ⟨v, d'⟩ ⟨hu, h'⟩
        exact ⟨congrArg Syntax.unicode hu, h'⟩
      · cases perlKind? x with
        | some p => exact Sim.ok ⟨rfl, hb.bump hne⟩
        | none => exact readSimple_sim _ _ x (hb.bump hne)

end TypedPattern.Regex.Escape
