import TypedPattern.Proofs.Printing.Escape

/-! What is read of an escape. -/

namespace TypedPattern.Regex.Escape

open Text

variable {c d : Cursor}

lemma hexDigitValue_lt {x : Char} (h : isHexDigit x = true) : hexDigitValue x < 16 := by
  have hx := isHexDigit_iff.mp h
  have h0 : '0'.toNat = 0x30 := rfl
  have ha : 'a'.toNat = 0x61 := rfl
  have hA : 'A'.toNat = 0x41 := rfl
  unfold hexDigitValue digitValue
  split
  · rename_i hd
    have := isDigit_iff.mp hd
    omega
  · rename_i hd
    rw [isDigit_iff] at hd
    split
    · rename_i hl
      rw [char_le_iff] at hl
      omega
    · rename_i hl
      rw [char_le_iff] at hl
      omega

lemma hexValue_lt {ds : List Char} (h : ∀ x ∈ ds, isHexDigit x = true) : hexValue ds < 16 ^ ds.length := by
  induction ds using List.reverseRecOn with
  | nil => decide
  | append_singleton ds x ih =>
    have hx := hexDigitValue_lt (h x (by simp))
    have hds := ih fun y hy => h y (by simp [hy])
    rw [hexValue_append, List.length_append, List.length_singleton, Nat.pow_succ]
    omega

lemma fixedDigits_ok {n : Nat} {ds : List Char} (h : fixedDigits n c = .ok (ds, d)) :
    Follows c d ∧ ds.length = n ∧ ∀ x ∈ ds, isHexDigit x = true := by
  induction n generalizing c ds with
  | zero =>
    cases h
    exact ⟨Follows.refl _, rfl, by simp⟩
  | succ n ih =>
    rw [fixedDigits] at h
    split at h
    · cases h
    · rename_i x r hr
      split at h
      · rename_i hx
        obtain ⟨⟨es, e⟩, hf, he⟩ := map_eq_ok.mp h
        cases he
        obtain ⟨h1, h2, h3⟩ := ih hf
        exact ⟨(Follows.bumpSkip c).trans h1, by rw [List.length_cons, h2], List.forall_mem_cons.mpr ⟨hx, h3⟩⟩
      · cases h

lemma bracedDigits_follows {k : Nat} {ds : List Char} (h : bracedDigits k c = .ok (ds, d)) : Follows c d := by
  induction k generalizing c ds with
  | zero =>
    cases h
    exact Follows.refl _
  | succ k ih =>
    rw [bracedDigits] at h
    split at h
    · cases h
      exact Follows.refl _
    · rename_i x r hr
      split_ifs at h with hb hx
      · cases h
        exact Follows.refl _
      · obtain ⟨⟨es, e⟩, hf, he⟩ := map_eq_ok.mp h
        cases he
        exact (Follows.bumpSkip c).trans (ih hf)
      · cases h

lemma toNat_of_charOfHex? {ds : List Char} {x : Char} (h : charOfHex? ds = some x) : x.toNat = hexValue ds := by
  unfold charOfHex? at h
  dsimp only at h
  split at h
  · rename_i hv
    cases h
    have hchar : (hexValue ds).isValidChar := by
      unfold Nat.isValidChar
      omega
    rw [Char.ofNat, dif_pos hchar]
    rfl
  · cases h

lemma readHex_ok {start : Nat} {kind : HexKind} {l : Literal} (h : readHex start kind c = .ok (l, d)) :
    Follows c d ∧ l.Escaped := by
  unfold readHex at h
  dsimp only at h
  split_ifs at h with h1 h2
  · cases h
  · obtain ⟨⟨ds, e⟩, hb, h⟩ := bind_eq_ok.mp h
    dsimp only at h
    split_ifs at h with h3 h4
    · cases h
    · cases h
    · split at h
      · cases h
        refine ⟨?_, trivial⟩
        exact (((Follows.bumpSkip c).trans (Follows.bumpSkip _)).trans (bracedDigits_follows hb)).trans
          (Follows.bumpSkip _)
      · cases h
  · obtain ⟨⟨ds, e⟩, hb, h⟩ := bind_eq_ok.mp h
    dsimp only at h
    split at h
    · rename_i x hx
      cases h
      obtain ⟨hf, hl, hd⟩ := fixedDigits_ok hb
      refine ⟨(Follows.bumpSkip c).trans hf, ?_⟩
      change x.toNat < 16 ^ kind.digits
      rw [toNat_of_charOfHex? hx, ← hl]
      exact hexValue_lt hd
    · cases h

lemma bracedName_ok {k : Nat} {name : List Char} (ht : Tight c.verbose c.rest) (h : bracedName k c = (name, d)) :
    Follows c d ∧ ∀ x ∈ name, x ≠ '\x7d' ∧ Solid c.verbose x := by
  induction k generalizing c name with
  | zero =>
    cases h
    exact ⟨Follows.refl _, by simp⟩
  | succ k ih =>
    rw [bracedName] at h
    split at h
    · cases h
      exact ⟨Follows.refl _, by simp⟩
    · rename_i x r hr
      split at h
      · cases h
        exact ⟨Follows.refl _, by simp⟩
      · rename_i hx
        have htight : Tight c.bumpSkip.verbose c.bumpSkip.rest := by
          rw [Cursor.verbose_bumpSkip, ← Cursor.verbose_bump]
          exact c.bump.tight_skip
        cases hb : bracedName k c.bumpSkip with
        | mk xs e =>
          rw [hb] at h
          cases h
          obtain ⟨h1, h2⟩ := ih htight hb
          rw [Cursor.verbose_bumpSkip] at h2
          refine ⟨(Follows.bumpSkip c).trans h1, List.forall_mem_cons.mpr ⟨⟨hx, ?_⟩, h2⟩⟩
          rw [hr] at ht
          exact tight_cons.mp ht

lemma readUnicode_ok {start : Nat} {negated : Bool} {u : UnicodeClass} (h : readUnicode start negated c = .ok (u, d)) :
    Follows c d ∧ u.kind.Written c.verbose := by
  have htight : ∀ e : Cursor, Tight e.verbose e.bumpSkip.rest := by
    intro e
    rw [← Cursor.verbose_bump]
    exact e.bump.tight_skip
  unfold readUnicode at h
  dsimp only at h
  split at h
  · cases h
  · rename_i x r hr
    split_ifs at h with h1 h2 h3
    · cases h
    · cases h
      have ht := htight c.bumpSkip
      rw [← Cursor.verbose_bumpSkip c.bumpSkip] at ht
      obtain ⟨hf, hn⟩ := bracedName_ok ht (Prod.mk.eta (p := bracedName _ _)).symm
      rw [Cursor.verbose_bumpSkip, Cursor.verbose_bumpSkip] at hn
      exact ⟨(((Follows.bumpSkip c).trans (Follows.bumpSkip _)).trans hf).trans (Follows.bump _),
        Or.inr ⟨_, rfl, hn⟩⟩
    · cases h
    · cases h
      refine ⟨(Follows.bumpSkip c).trans (Follows.bumpSkip _), Or.inl ⟨x, rfl, h1, h3, ?_⟩⟩
      have ht := htight c
      rw [hr] at ht
      exact tight_cons.mp ht

lemma boundaryName_follows {k : Nat} {name : List Char} (h : boundaryName k c = (name, d)) : Follows c d := by
  induction k generalizing c name with
  | zero =>
    cases h
    exact Follows.refl _
  | succ k ih =>
    rw [boundaryName] at h
    split at h
    · cases h
      exact Follows.refl _
    · split at h
      · cases hb : boundaryName k c.bumpSkip with
        | mk xs e =>
          rw [hb] at h
          cases h
          exact (Follows.bumpSkip c).trans (ih hb)
      · cases h
        exact Follows.refl _

lemma readBoundary_follows {start : Nat} {kind : Option AssertionKind} (h : readBoundary start c = .ok (kind, d)) :
    Follows c d := by
  unfold readBoundary at h
  dsimp only at h
  split at h
  · cases h
  · split_ifs at h with h1 h2
    · cases h
      exact Follows.refl _
    · cases h
    · split at h
      · cases h
        exact ((Follows.bumpSkip c).trans (boundaryName_follows (Prod.mk.eta (p := boundaryName _ _)).symm)).trans
          (Follows.bump _)
      · cases h

/-- What an escape stands for. -/
def Spelled (v : Bool) : Syntax → Prop
  | .literal l => l.Escaped
  | .unicode u => u.kind.Written v
  | .perl _ => True
  | .assertion _ _ => True
  | _ => False

lemma escaped_of_control {x y : Char} (h : controlChar? x = some y) (span : Span) :
    Literal.Escaped ⟨span, .control, y⟩ := by
  change controlChar? (controlLetter y) = some y
  rcases eq_of_controlChar? h with rfl | rfl | rfl | rfl | rfl | rfl <;> cases h <;> rfl

lemma readSimple_ok {start : Nat} {x : Char} {s : Syntax} (h : readSimple start x c = .ok (s, d)) :
    Follows c d ∧ Spelled c.verbose s := by
  unfold readSimple at h
  dsimp only at h
  split at h
  · rename_i h1
    cases h
    exact ⟨Follows.refl _, Or.inl h1⟩
  · split at h
    · rename_i y hy
      cases h
      exact ⟨Follows.refl _, escaped_of_control hy _⟩
    · split at h
      · split at h
        · obtain ⟨⟨kind, e⟩, hb, h⟩ := bind_eq_ok.mp h
          cases kind with
          | some kind =>
            cases h
            exact ⟨readBoundary_follows hb, trivial⟩
          | none =>
            cases h
            exact ⟨readBoundary_follows hb, trivial⟩
        · cases h
          exact ⟨Follows.refl _, trivial⟩
      · cases h
        exact ⟨Follows.refl _, trivial⟩
      · rename_i ha
        split at h
        · rename_i h2
          cases h
          refine ⟨Follows.refl _, Or.inr ⟨h2.1, by simpa using h2.2, ?_, ?_⟩⟩
          · rintro rfl
            cases ha
          · rintro rfl
            cases ha
        · cases h

/-- What is read of an escape is spelled by one. -/
theorem read_ok {s : Syntax} (h : read c = .ok (s, d)) : Follows c.bump d ∧ Spelled c.verbose s := by
  unfold read at h
  dsimp only at h
  rw [← c.verbose_bump]
  split at h
  · cases h
  · split at h
    · cases h
    · split at h
      · rename_i kind hk
        obtain ⟨a, hr, he⟩ := map_eq_ok.mp h
        cases he
        exact readHex_ok hr
      · split at h
        · obtain ⟨a, hr, he⟩ := map_eq_ok.mp h
          cases he
          exact readUnicode_ok hr
        · split at h
          · cases h
            exact ⟨Follows.bump _, trivial⟩
          · rw [← Cursor.verbose_bump c.bump]
            obtain ⟨hf, hs⟩ := readSimple_ok h
            exact ⟨(Follows.bump _).trans hf, hs⟩

end TypedPattern.Regex.Escape
