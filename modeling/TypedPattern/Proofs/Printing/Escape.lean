import TypedPattern.Proofs.Printing.Written

/-! Printed escapes are read back. -/

namespace TypedPattern.Regex.Escape

open Text

variable {v : Bool} {follow : List Char}

lemma charOfHex?_eq {ds : List Char} {c : Char} (h : hexValue ds = c.toNat) : charOfHex? ds = some c := by
  have hv : c.toNat < 0xD800 ∨ (0xDFFF < c.toNat ∧ c.toNat < 0x110000) := c.valid
  simp only [charOfHex?, h]
  rw [if_pos (by omega), Char.ofNat_toNat]

lemma fixedDigits_append {ds : List Char} (hd : ∀ d ∈ ds, isHexDigit d = true) (hf : Tight v follow) (pos : Nat) :
    fixedDigits ds.length ⟨pos, ds ++ follow, v⟩ = .ok (ds, ⟨pos + ds.length, follow, v⟩) := by
  induction ds generalizing pos with
  | nil => rfl
  | cons d ds ih =>
    have hs : ∀ e ∈ ds, isHexDigit e = true := fun e he => hd e (List.mem_cons_of_mem _ he)
    have ht : Tight v (ds ++ follow) := tight_append (fun e he => solid_of_hexDigit v (hs e he)) hf
    simp only [List.length_cons, List.cons_append, fixedDigits, hd d (List.mem_cons_self ..), if_true]
    rw [Cursor.bumpSkip_cons ht, ih hs]
    simp only [Except.map, Nat.add_comm 1, Nat.add_assoc]

lemma bracedDigits_append {ds : List Char} (hd : ∀ d ∈ ds, isHexDigit d = true) {k : Nat} (hk : ds.length < k)
    (pos : Nat) : bracedDigits k ⟨pos, ds ++ '\x7d' :: follow, v⟩ = .ok (ds, ⟨pos + ds.length, '\x7d' :: follow, v⟩) := by
  induction ds generalizing pos k with
  | nil =>
    obtain ⟨j, rfl⟩ : ∃ j, k = j + 1 := ⟨k - 1, by omega⟩
    rfl
  | cons d ds ih =>
    obtain ⟨j, rfl⟩ : ∃ j, k = j + 1 := ⟨k - 1, by omega⟩
    have hs : ∀ e ∈ ds, isHexDigit e = true := fun e he => hd e (List.mem_cons_of_mem _ he)
    have ht : Tight v (ds ++ '\x7d' :: follow) :=
      tight_append (fun e he => solid_of_hexDigit v (hs e he)) (tight_cons.mpr (solid_of_graph v rfl (by decide)))
    have hb : d ≠ '\x7d' := by
      rintro rfl
      exact absurd (hd _ (List.mem_cons_self ..)) (by decide)
    simp only [List.cons_append, bracedDigits, hb, hd d (List.mem_cons_self ..), if_true, if_false]
    rw [Cursor.bumpSkip_cons ht, ih hs (by simpa using hk)]
    simp only [Except.map, List.length_cons, Nat.add_comm 1, Nat.add_assoc]

lemma readHex_fixed (start pos : Nat) (kind : HexKind) {c : Char} (hc : c.toNat < 16 ^ kind.digits)
    (hf : Tight v follow) : ∃ stop,
      readHex start kind ⟨pos, kind.letter :: (padLeft kind.digits (upperHex c.toNat) ++ follow), v⟩ =
        .ok (⟨⟨start, stop⟩, .hexFixed kind, c⟩, ⟨stop, follow, v⟩) := by
  have hk : 0 < kind.digits := by cases kind <;> decide
  set ds := padLeft kind.digits (upperHex c.toNat) with hds
  have hl : ds.length = kind.digits := length_padLeft ((length_upperHex_le hk).mpr hc)
  have hd : ∀ d ∈ ds, isHexDigit d = true := fun d hd => mem_padLeft (fun _ => mem_upperHex) hd
  have hv : charOfHex? ds = some c := charOfHex?_eq (by rw [hds, hexValue_padLeft, hexValue_upperHex])
  have ht : Tight v (ds ++ follow) := tight_append (fun d h => solid_of_hexDigit v (hd d h)) hf
  obtain ⟨d, es, he⟩ : ∃ d es, ds = d :: es := List.exists_cons_of_ne_nil (by
    intro hn
    rw [hn] at hl
    exact absurd hl (by simpa using hk.ne))
  have hb : d ≠ '\x7b' := by
    rintro rfl
    exact absurd (hd _ (he ▸ List.mem_cons_self ..)) (by decide)
  have hend : (⟨pos + 1, ds ++ follow, v⟩ : Cursor).atEnd = false := by rw [he]; rfl
  have hat : (⟨pos + 1, ds ++ follow, v⟩ : Cursor).at? '\x7b' = false := by
    rw [he, List.cons_append, Cursor.at?_cons, beq_eq_false_iff_ne.mpr hb]
  have hr : fixedDigits kind.digits ⟨pos + 1, ds ++ follow, v⟩ = .ok (ds, ⟨pos + 1 + ds.length, follow, v⟩) :=
    hl ▸ fixedDigits_append hd hf (pos + 1)
  refine ⟨pos + 1 + ds.length, ?_⟩
  unfold readHex
  rw [Cursor.bumpSkip_cons ht]
  simp [hend, hat, hr, hv, Bind.bind, Except.bind]

lemma readHex_braced (start pos : Nat) (kind : HexKind) (c : Char) (hf : Tight v follow) : ∃ stop,
    readHex start kind ⟨pos, kind.letter :: '\x7b' :: (upperHex c.toNat ++ '\x7d' :: follow), v⟩ =
      .ok (⟨⟨start, stop⟩, .hexBraced kind, c⟩, ⟨stop, follow, v⟩) := by
  set ds := upperHex c.toNat with hds
  have hd : ∀ d ∈ ds, isHexDigit d = true := fun d => mem_upperHex
  have hv : charOfHex? ds = some c := charOfHex?_eq (hexValue_upperHex _)
  have ht : Tight v (ds ++ '\x7d' :: follow) :=
    tight_append (fun d h => solid_of_hexDigit v (hd d h)) (tight_cons.mpr (solid_of_graph v rfl (by decide)))
  have hb : Tight v ('\x7b' :: (ds ++ '\x7d' :: follow)) := tight_cons.mpr (solid_of_graph v rfl (by decide))
  have hr : ∀ k, bracedDigits (ds.length + k + 1) ⟨pos + 2, ds ++ '\x7d' :: follow, v⟩ =
      .ok (ds, ⟨pos + 2 + ds.length, '\x7d' :: follow, v⟩) :=
    fun k => bracedDigits_append hd (by omega) _
  have hn : ds ≠ [] := upperHex_ne_nil _
  refine ⟨pos + 2 + ds.length + 1, ?_⟩
  unfold readHex
  rw [Cursor.bumpSkip_cons hb]
  simp only [Cursor.atEnd_cons, Cursor.at?_cons, Cursor.bumpSkip_cons ht, List.length_cons, List.length_append]
  rw [show ds.length + (follow.length + 1) + 1 = ds.length + (follow.length + 1) + 1 from rfl, hr]
  simp [Bind.bind, Except.bind, Cursor.bumpSkip_cons hf, hn, hv]

lemma isAlphanum_of_meta {c : Char} (h : isMeta c = true) : c.isAlphanum = false := by
  simp only [isMeta, List.contains_eq_mem, decide_eq_true_eq, List.mem_cons, List.not_mem_nil, or_false] at h
  rcases h with rfl | rfl | rfl | rfl | rfl | rfl | rfl | rfl | rfl | rfl | rfl | rfl | rfl | rfl | rfl | rfl |
    rfl | rfl <;> rfl

lemma isDigit_of_not_alphanum {c : Char} (h : c.isAlphanum = false) : isDigit c = false := by
  have hd : c.isDigit = false := by
    rw [Char.isAlphanum, Bool.or_eq_false_iff] at h
    exact h.2
  simpa [Char.isDigit, isDigit, Char.le_def] using hd

lemma read_mark {c : Char} (h : isMeta c = true ∨ (c.toNat < 0x80 ∧ c.isAlphanum = false ∧ c ≠ '<' ∧ c ≠ '>'))
    (pos : Nat) : read ⟨pos, '\\' :: c :: follow, v⟩ =
      .ok (.literal ⟨⟨pos, pos + 2⟩, .escaped, c⟩, ⟨pos + 2, follow, v⟩) := by
  have ha : c.isAlphanum = false := by
    rcases h with h | h
    · exact isAlphanum_of_meta h
    · exact h.2.1
  have hn : ∀ d, d.isAlphanum = true → c ≠ d := by
    rintro d hd rfl
    rw [ha] at hd
    cases hd
  have hx : hexKind? c = none := by simp [hexKind?, hn]
  have hk : perlKind? c = none := by simp [perlKind?, hn]
  have hc : controlChar? c = none := by simp [controlChar?, hn]
  unfold read
  simp only [Cursor.bump_cons, isDigit_of_not_alphanum ha, hx, hk, hn 'p' rfl, hn 'P' rfl, or_self, if_false,
    Bool.false_eq_true, readSimple, hc]
  by_cases hm : isMeta c = true
  · rw [if_pos hm]
  · obtain ⟨hlt, -, hl, hg⟩ := h.resolve_left hm
    have hs : assertionKind? c = none := by simp [assertionKind?, hn, hl, hg]
    rw [if_neg hm, hs]
    simp [hlt, ha]

lemma eq_of_controlChar? {c d : Char} (h : controlChar? c = some d) :
    c = 'a' ∨ c = 'f' ∨ c = 't' ∨ c = 'n' ∨ c = 'r' ∨ c = 'v' := by
  by_contra hn
  simp only [not_or] at hn
  simp [controlChar?, hn] at h

lemma read_control {c d : Char} (h : controlChar? c = some d) (pos : Nat) : read ⟨pos, '\\' :: c :: follow, v⟩ =
    .ok (.literal ⟨⟨pos, pos + 2⟩, .control, d⟩, ⟨pos + 2, follow, v⟩) := by
  rcases eq_of_controlChar? h with rfl | rfl | rfl | rfl | rfl | rfl <;> cases h <;> rfl

lemma read_number {kind : HexKind} {cs : List Char} {pos stop : Nat} {l : Literal}
    (h : readHex pos kind ⟨pos + 1, kind.letter :: cs, v⟩ = .ok (l, ⟨stop, follow, v⟩)) :
    read ⟨pos, '\\' :: kind.letter :: cs, v⟩ = .ok (.literal l, ⟨stop, follow, v⟩) := by
  have hk : isDigit kind.letter = false ∧ hexKind? kind.letter = some kind := by cases kind <;> decide
  unfold read
  simp only [Cursor.bump_cons, hk, Bool.false_eq_true, if_false]
  rw [h]
  rfl

lemma read_literal {l : Literal} (h : l.Escaped) (hf : Tight v follow) (pos : Nat) : ∃ m stop,
    m.bare = l.bare ∧ read ⟨pos, l.chars ++ follow, v⟩ = .ok (.literal m, ⟨stop, follow, v⟩) := by
  obtain ⟨span, form, c⟩ := l
  cases form with
  | verbatim => cases h
  | escaped => exact ⟨⟨⟨pos, pos + 2⟩, .escaped, c⟩, pos + 2, rfl, read_mark h pos⟩
  | control => exact ⟨⟨⟨pos, pos + 2⟩, .control, c⟩, pos + 2, rfl, read_control h pos⟩
  | hexFixed kind =>
    obtain ⟨stop, hr⟩ := readHex_fixed pos (pos + 1) kind h hf
    exact ⟨⟨⟨pos, stop⟩, .hexFixed kind, c⟩, stop, rfl, read_number hr⟩
  | hexBraced kind =>
    obtain ⟨stop, hr⟩ := readHex_braced pos (pos + 1) kind c hf
    have hc : (⟨span, .hexBraced kind, c⟩ : Literal).chars ++ follow =
        '\\' :: kind.letter :: '\x7b' :: (upperHex c.toNat ++ '\x7d' :: follow) := by
      simp [Literal.chars]
    exact ⟨⟨⟨pos, stop⟩, .hexBraced kind, c⟩, stop, rfl, hc ▸ read_number hr⟩

lemma read_perl (p : PerlClass) (pos : Nat) : ∃ q stop,
    q.bare = p.bare ∧ read ⟨pos, p.chars ++ follow, v⟩ = .ok (.perl q, ⟨stop, follow, v⟩) := by
  obtain ⟨span, kind, negated⟩ := p
  cases kind <;> cases negated <;> exact ⟨⟨⟨pos, pos + 2⟩, _, _⟩, pos + 2, rfl, rfl⟩

lemma bracedName_append {name : List Char} (hn : ∀ c ∈ name, c ≠ '\x7d' ∧ Solid v c) {k : Nat} (hk : name.length < k)
    (pos : Nat) : bracedName k ⟨pos, name ++ '\x7d' :: follow, v⟩ = (name, ⟨pos + name.length, '\x7d' :: follow, v⟩) := by
  induction name generalizing pos k with
  | nil =>
    obtain ⟨j, rfl⟩ : ∃ j, k = j + 1 := ⟨k - 1, by omega⟩
    rfl
  | cons c cs ih =>
    obtain ⟨j, rfl⟩ : ∃ j, k = j + 1 := ⟨k - 1, by omega⟩
    have hs : ∀ d ∈ cs, d ≠ '\x7d' ∧ Solid v d := fun d hd => hn d (List.mem_cons_of_mem _ hd)
    have ht : Tight v (cs ++ '\x7d' :: follow) :=
      tight_append (fun d hd => (hs d hd).2) (tight_cons.mpr (solid_of_graph v rfl (by decide)))
    simp only [List.cons_append, bracedName, (hn c (List.mem_cons_self ..)).1, if_false]
    rw [Cursor.bumpSkip_cons ht, ih hs (by simpa using hk)]
    simp only [List.length_cons, Nat.add_comm 1, Nat.add_assoc]

lemma cut_eq_some {mark cs a b : List Char} (h : cut mark cs = some (a, b)) : cs = a ++ mark ++ b := by
  induction cs generalizing a with
  | nil => cases h
  | cons c cs ih =>
    rw [cut] at h
    split at h
    · rename_i hm
      cases h
      obtain ⟨t, ht⟩ := List.isPrefixOf_iff_prefix.mp hm
      rw [← ht]
      simp
    · obtain ⟨⟨a', b'⟩, hc, he⟩ := Option.map_eq_some_iff.mp h
      cases he
      rw [ih hc]
      rfl

/-- A name with its sign and value is the text that it was cut from. -/
lemma chars_unicodeKind (span : Span) (negated : Bool) (name : List Char) :
    (⟨span, negated, unicodeKind name⟩ : UnicodeClass).chars =
      '\\' :: (if negated then 'P' else 'p') :: '\x7b' :: name ++ ['\x7d'] := by
  unfold unicodeKind UnicodeClass.chars
  split
  · rename_i a b h
    simp [cut_eq_some h, ValueMark.chars]
  · split
    · rename_i a b h
      simp [cut_eq_some h, ValueMark.chars]
    · split
      · rename_i a b h
        simp [cut_eq_some h, ValueMark.chars]
      · rfl

lemma readUnicode_letter {c : Char} (hb : c ≠ '\x7b') (he : c ≠ '\\') (hs : Solid v c) (hf : Tight v follow)
    (start pos : Nat) (negated : Bool) (x : Char) :
    readUnicode start negated ⟨pos, x :: c :: follow, v⟩ =
      .ok (⟨⟨start, pos + 2⟩, negated, .letter c⟩, ⟨pos + 2, follow, v⟩) := by
  unfold readUnicode
  simp only [Cursor.bumpSkip_cons (tight_cons.mpr hs), hb, he, if_false, Cursor.bumpSkip_cons hf]

lemma readUnicode_name {name : List Char} (hn : ∀ c ∈ name, c ≠ '\x7d' ∧ Solid v c)
    (start pos : Nat) (negated : Bool) (x : Char) :
    readUnicode start negated ⟨pos, x :: '\x7b' :: (name ++ '\x7d' :: follow), v⟩ =
      .ok (⟨⟨start, pos + name.length + 3⟩, negated, unicodeKind name⟩, ⟨pos + name.length + 3, follow, v⟩) := by
  have hb : Tight v ('\x7b' :: (name ++ '\x7d' :: follow)) := tight_cons.mpr (solid_of_graph v rfl (by decide))
  have ht : Tight v (name ++ '\x7d' :: follow) :=
    tight_append (fun d hd => (hn d hd).2) (tight_cons.mpr (solid_of_graph v rfl (by decide)))
  have hr : bracedName ('\x7b' :: (name ++ '\x7d' :: follow)).length ⟨pos + 2, name ++ '\x7d' :: follow, v⟩ =
      (name, ⟨pos + 2 + name.length, '\x7d' :: follow, v⟩) := bracedName_append hn (by simp) _
  unfold readUnicode
  simp only [Cursor.bumpSkip_cons hb, Cursor.bumpSkip_cons ht, if_true, hr]
  simp only [Cursor.atEnd_cons, Bool.false_eq_true, if_false, Cursor.bump_cons]
  rw [show pos + 2 + name.length + 1 = pos + name.length + 3 by omega]

lemma read_unicode {u : UnicodeClass} (h : u.kind.Written v) (hf : Tight v follow) (pos : Nat) : ∃ w stop,
    w.bare = u.bare ∧ read ⟨pos, u.chars ++ follow, v⟩ = .ok (.unicode w, ⟨stop, follow, v⟩) := by
  obtain ⟨span, negated, kind⟩ := u
  have hp : ∀ cs, read ⟨pos, '\\' :: (if negated then 'P' else 'p') :: cs, v⟩ =
      (readUnicode pos negated ⟨pos + 1, (if negated then 'P' else 'p') :: cs, v⟩).map
        fun x => (.unicode x.1, x.2) := by
    cases negated <;> exact fun cs => rfl
  rcases h with ⟨c, hk, hb, he, hs⟩ | ⟨name, hk, hn⟩
  · cases hk
    refine ⟨⟨⟨pos, pos + 1 + 2⟩, negated, .letter c⟩, pos + 1 + 2, rfl, ?_⟩
    change read ⟨pos, '\\' :: (if negated then 'P' else 'p') :: c :: follow, v⟩ = _
    rw [hp, readUnicode_letter hb he hs hf]
    rfl
  · change kind = unicodeKind name at hk
    subst hk
    refine ⟨⟨⟨pos, pos + 1 + name.length + 3⟩, negated, unicodeKind name⟩, pos + 1 + name.length + 3, rfl, ?_⟩
    have hc : (⟨span, negated, unicodeKind name⟩ : UnicodeClass).chars ++ follow =
        '\\' :: (if negated then 'P' else 'p') :: '\x7b' :: (name ++ '\x7d' :: follow) := by
      rw [chars_unicodeKind]
      simp
    rw [hc, hp, readUnicode_name hn]
    rfl

lemma boundaryName_append {name : List Char} (hn : ∀ c ∈ name, isBoundaryLetter c = true ∧ Solid v c) {k : Nat}
    (hk : name.length < k) (pos : Nat) : boundaryName k ⟨pos, name ++ '\x7d' :: follow, v⟩ =
      (name, ⟨pos + name.length, '\x7d' :: follow, v⟩) := by
  induction name generalizing pos k with
  | nil =>
    obtain ⟨j, rfl⟩ : ∃ j, k = j + 1 := ⟨k - 1, by omega⟩
    rfl
  | cons c cs ih =>
    obtain ⟨j, rfl⟩ : ∃ j, k = j + 1 := ⟨k - 1, by omega⟩
    have hs : ∀ d ∈ cs, isBoundaryLetter d = true ∧ Solid v d := fun d hd => hn d (List.mem_cons_of_mem _ hd)
    have ht : Tight v (cs ++ '\x7d' :: follow) :=
      tight_append (fun d hd => (hs d hd).2) (tight_cons.mpr (solid_of_graph v rfl (by decide)))
    simp only [List.cons_append, boundaryName, (hn c (List.mem_cons_self ..)).1, if_true]
    rw [Cursor.bumpSkip_cons ht, ih hs (by simpa using hk)]
    simp only [List.length_cons, Nat.add_comm 1, Nat.add_assoc]

/-- The text behind an expression does not go on with a brace and a letter. -/
def NoBoundary (follow : List Char) : Prop :=
  ∀ cs, follow = '\x7b' :: cs → ∃ d ds, cs = d :: ds ∧ isDigit d = true

lemma not_boundaryLetter_of_digit {d : Char} (h : isDigit d = true) : isBoundaryLetter d = false := by
  have hd := isDigit_iff.mp h
  rw [← Bool.not_eq_true]
  intro hb
  simp only [isBoundaryLetter, Bool.or_eq_true, Bool.and_eq_true, decide_eq_true_eq, char_le_iff, beq_iff_eq] at hb
  rcases hb with (⟨hb, -⟩ | ⟨hb, -⟩) | rfl
  · change 0x41 ≤ _ at hb
    omega
  · change 0x61 ≤ _ at hb
    omega
  · exact absurd h (by decide)

lemma read_wordBoundary (hb : NoBoundary follow) (pos : Nat) : ∃ sp,
    read ⟨pos, '\\' :: 'b' :: follow, v⟩ = .ok (.assertion sp .wordBoundary, ⟨pos + 2, follow, v⟩) := by
  refine ⟨⟨pos, pos + 2⟩, ?_⟩
  have hr : read ⟨pos, '\\' :: 'b' :: follow, v⟩ = readSimple pos 'b' ⟨pos + 2, follow, v⟩ := rfl
  have hm : isMeta 'b' = false ∧ controlChar? 'b' = none ∧ assertionKind? 'b' = some .wordBoundary := by decide
  rw [hr, readSimple]
  simp only [hm, Bool.false_eq_true, if_false]
  by_cases hf : follow.head? = some '\x7b'
  · obtain ⟨cs, rfl⟩ : ∃ cs, follow = '\x7b' :: cs := List.head?_eq_some_iff.mp hf
    obtain ⟨d, ds, rfl, hd⟩ := hb cs rfl
    have ht : Tight v (d :: ds) := tight_cons.mpr (solid_of_digit v hd)
    simp [readBoundary, Cursor.bumpSkip_cons ht, not_boundaryLetter_of_digit hd, Bind.bind, Except.bind]
  · rw [Cursor.at?_eq_false hf]
    rfl

lemma read_namedBoundary {name : List Char} {kind : AssertionKind}
    (hn : ∀ c ∈ name, isBoundaryLetter c = true ∧ Solid v c) (hk : boundaryKind? name = some kind) (hne : name ≠ [])
    (pos : Nat) : ∃ sp stop, read ⟨pos, '\\' :: 'b' :: '\x7b' :: (name ++ '\x7d' :: follow), v⟩ =
      .ok (.assertion sp kind, ⟨stop, follow, v⟩) := by
  refine ⟨⟨pos, pos + 2 + 1 + name.length + 1⟩, pos + 2 + 1 + name.length + 1, ?_⟩
  have hm : isMeta 'b' = false ∧ controlChar? 'b' = none ∧ assertionKind? 'b' = some .wordBoundary := by decide
  have ht : Tight v (name ++ '\x7d' :: follow) :=
    tight_append (fun d hd => (hn d hd).2) (tight_cons.mpr (solid_of_graph v rfl (by decide)))
  have hr : boundaryName (name ++ '\x7d' :: follow).length ⟨pos + 2 + 1, name ++ '\x7d' :: follow, v⟩ =
      (name, ⟨pos + 2 + 1 + name.length, '\x7d' :: follow, v⟩) := boundaryName_append hn (by simp) _
  have hb : readBoundary pos ⟨pos + 2, '\x7b' :: (name ++ '\x7d' :: follow), v⟩ =
      .ok (some kind, ⟨pos + 2 + 1 + name.length + 1, follow, v⟩) := by
    obtain ⟨c, cs, rfl⟩ := List.exists_cons_of_ne_nil hne
    unfold readBoundary
    rw [Cursor.bumpSkip_cons ht]
    simp only [List.cons_append] at hr ⊢
    rw [hr]
    simp [(hn c (List.mem_cons_self ..)).1, hk]
  change readSimple pos 'b' ⟨pos + 2, '\x7b' :: (name ++ '\x7d' :: follow), v⟩ = _
  rw [readSimple]
  simp [hm, hb, Bind.bind, Except.bind]

lemma read_assertion {kind : AssertionKind} (hs : kind ≠ .lineStart) (he : kind ≠ .lineEnd)
    (hb : NoBoundary follow) (pos : Nat) : ∃ sp stop,
      read ⟨pos, kind.chars ++ follow, v⟩ = .ok (.assertion sp kind, ⟨stop, follow, v⟩) := by
  have hl : ∀ name ∈ ["start".toList, "end".toList, "start-half".toList, "end-half".toList],
      (name.all fun c => isBoundaryLetter c && asciiGraph.contains c && c != '#') = true := by decide
  have hn : ∀ name ∈ ["start".toList, "end".toList, "start-half".toList, "end-half".toList],
      ∀ c ∈ name, isBoundaryLetter c = true ∧ Solid v c := fun name hm c hc => by
    have h := List.all_eq_true.mp (hl name hm) c hc
    simp only [Bool.and_eq_true, bne_iff_ne] at h
    exact ⟨h.1.1, solid_of_graph v h.1.2 h.2⟩
  cases kind with
  | lineStart => exact absurd rfl hs
  | lineEnd => exact absurd rfl he
  | wordBoundary =>
    obtain ⟨sp, h⟩ := read_wordBoundary (v := v) hb pos
    exact ⟨sp, _, h⟩
  | wordStart => exact read_namedBoundary (hn "start".toList (by decide)) rfl (by decide) pos
  | wordEnd => exact read_namedBoundary (hn "end".toList (by decide)) rfl (by decide) pos
  | wordStartHalf => exact read_namedBoundary (hn "start-half".toList (by decide)) rfl (by decide) pos
  | wordEndHalf => exact read_namedBoundary (hn "end-half".toList (by decide)) rfl (by decide) pos
  | _ => exact ⟨⟨pos, pos + 2⟩, pos + 2, rfl⟩

end TypedPattern.Regex.Escape
