import TypedPattern.Proofs.Number.Whole

/-! Whole numbers and decimals are printed as numerals that are converted back to them. -/

namespace TypedPattern

open Text (Digits isDigit decimalValue)

namespace WholeNumeral

def ofInt (i : ℤ) : WholeNumeral :=
  ⟨.ofNegative (i < 0), .ofNat i.natAbs⟩

lemma toText_ofInt (i : ℤ) : (ofInt i).toText = Integer.toText i := by
  by_cases hneg : i < 0 <;>
    simp [ofInt, toText, chars, Integer.toText, Sign.ofNegative, Sign.chars, Digits.ofNat, hneg]

lemma value_ofInt (i : ℤ) : (ofInt i).value = i := by
  by_cases hneg : i < 0 <;>
    simp only [ofInt, value, Sign.factor, Sign.negative_ofNegative, Digits.value_ofNat, hneg, decide_true, decide_false,
      if_true, if_false, Bool.false_eq_true] <;>
    omega

end WholeNumeral

namespace Decimal

variable {d : Decimal}

/-- A decimal as it is kept: within its bits and its places, and without a sign if it is zero. -/
structure Proper (d : Decimal) : Prop where
  fits : d.coefficient < 2 ^ 96
  places : d.scale ≤ maxScale
  negative : d.negative = (d.negative && d.coefficient != 0)

lemma Rounds.proper {negative : Bool} {x : ℚ} {limit : ℕ} (h : d.Rounds negative x limit) (hlimit : limit ≤ maxScale) :
    d.Proper where
  fits := h.fits
  places := h.places.trans hlimit
  negative := by
    rw [h.negative, Bool.and_assoc, Bool.and_self]

/-- What a decimal without places is printed as. -/
def whole (d : Decimal) : WholeNumeral :=
  ⟨.ofNegative d.negative, .ofNat d.coefficient⟩

lemma toText_of_whole (h : d.scale = 0) : d.toText = d.whole.toText := by
  have hpad : Text.padLeft 1 (Text.decimal d.coefficient) = Text.decimal d.coefficient := by
    have hpos := List.length_pos_iff.mpr (Text.decimal_ne_nil d.coefficient)
    simp [Text.padLeft, Nat.sub_eq_zero_of_le (Nat.succ_le_of_lt hpos)]
  cases hneg : d.negative <;>
    simp [whole, toText, h, hpad, hneg, WholeNumeral.toText, WholeNumeral.chars, Sign.ofNegative, Sign.chars,
      Digits.ofNat]

lemma value_whole (h : d.scale = 0) : (d.whole.value : ℚ) = d.value := by
  cases hneg : d.negative <;> simp [whole, value, numerator, h, hneg, WholeNumeral.value, Sign.factor]

/-- With places, the last digits as many as they are stand behind a point. -/
lemma exists_numeral (d : Decimal) : ∃ n : Numeral, n.toText = d.toText ∧ n.sign.negative = d.negative ∧
    n.places = d.scale ∧ n.magnitude = d.coefficient / 10 ^ d.scale := by
  rcases Nat.eq_zero_or_pos d.scale with hzero | hpos
  · refine ⟨d.whole.numeral, (toText_of_whole hzero).symm, Sign.negative_ofNegative _, hzero.symm, ?_⟩
    simp [whole, WholeNumeral.numeral, Numeral.magnitude, hzero]
  · obtain ⟨front, last, hsplit, hlength⟩ : ∃ front last,
        front ++ last = Text.padLeft (d.scale + 1) (Text.decimal d.coefficient) ∧ last.length = d.scale := by
      refine ⟨_, _, List.take_append_drop
        ((Text.padLeft (d.scale + 1) (Text.decimal d.coefficient)).length - d.scale) _, ?_⟩
      rw [List.length_drop, Text.padLeft, List.length_append, List.length_replicate]
      omega
    have hdigits : ∀ c ∈ front ++ last, isDigit c = true :=
      hsplit ▸ Text.isDigit_of_mem_padLeft fun _ => Text.isDigit_of_mem_decimal
    obtain ⟨ws, rfl⟩ := exists_digits (List.forall_mem_append.mp hdigits).1 (Nat.zero_le _)
    obtain ⟨ds, rfl⟩ := exists_digits (List.forall_mem_append.mp hdigits).2 (hlength ▸ hpos)
    have hvalue : ws.value * 10 ^ d.scale + ds.value = d.coefficient := by
      rw [← Text.decimalValue_decimal d.coefficient, ← Text.decimalValue_padLeft (d.scale + 1), ← hsplit,
        Text.decimalValue_append, hlength]
      rfl
    refine ⟨⟨.ofNegative d.negative, some ws, ds⟩, ?_, Sign.negative_ofNegative _, hlength, ?_⟩
    · have hne := ds.chars_ne_nil
      simp only [toText, ← hsplit, List.length_append, hlength, Nat.add_sub_cancel, List.take_left, List.drop_left]
      cases hneg : d.negative <;>
        simp [hne, Numeral.toText, Numeral.chars, Numeral.body, Sign.ofNegative, Sign.chars]
    · rw [← hvalue, Numeral.magnitude, hlength]
      push_cast
      field_simp

lemma Proper.decimal_toText (h : d.Proper) : Converter.decimal d.toText = .ok (.decimal d) := by
  obtain ⟨n, htext, hsign, hplaces, hmagnitude⟩ := d.exists_numeral
  rw [← htext, Converter.decimal_eq_decimal_iff, hsign, hplaces, hmagnitude, Nat.min_eq_left h.places]
  refine ⟨Nat.le_refl _, ?_, h.fits, fun p hp hlt => absurd hp (Nat.not_le.mpr hlt), h.negative⟩
  rw [div_mul_cancel₀ _ (by positivity), floor_add_half]

end Decimal

namespace Converter

variable {v : Value}

lemma decimal_of_ok {raw : String} (h : decimal raw = .ok v) : (∃ d, v = .decimal d) ∨ ∃ x, v = .float x := by
  unfold decimal at h
  split at h
  · exact Or.inl ⟨_, (Except.ok.inj h).symm⟩
  · unfold float at h
    split at h
    · exact Or.inr ⟨_, (Except.ok.inj h).symm⟩
    · cases h

lemma decimal_printed {n : Numeral} (h : decimal n.toText = .ok v) (hv : ∀ x, v ≠ .float x) :
    decimal v.toText = .ok v := by
  rcases decimal_of_ok h with ⟨d, rfl⟩ | ⟨x, rfl⟩
  · exact (((decimal_eq_decimal_iff n).mp h).proper (Nat.min_le_right _ _)).decimal_toText
  · exact absurd rfl (hv x)

lemma int_printed {n : WholeNumeral} (h : int n.toText = .ok v) (hv : ∀ x, v ≠ .float x) : int v.toText = .ok v := by
  rcases int_cases n with ⟨hint, hn⟩ | ⟨hint, habs, hn⟩ | ⟨habs, x, hn⟩
  · obtain rfl := Except.ok.inj (h.symm.trans hn)
    have hread := int_of_fits (n := .ofInt n.value) (by rw [WholeNumeral.value_ofInt]; omega)
    rwa [WholeNumeral.toText_ofInt, WholeNumeral.value_ofInt] at hread
  · obtain rfl := Except.ok.inj (h.symm.trans hn)
    -- what is printed denotes the same number, and so does not fit 64 bits either
    have hrounds := (decimal_eq_decimal_iff n.numeral).mp ((int_of_not_fits (by omega)).symm.trans hn)
    have hvalue : (Decimal.make n.sign.negative n.digits.value 0).whole.value = n.value := by
      exact_mod_cast (Decimal.value_whole rfl).trans value_make_whole
    have hread := (hrounds.proper (Nat.min_le_right _ _)).decimal_toText
    rw [Decimal.toText_of_whole rfl] at hread
    rw [Value.toText, Decimal.toText_of_whole rfl, int_of_not_fits (by omega), hread]
  · exact absurd (Except.ok.inj (h.symm.trans hn)) (hv x)

end Converter

end TypedPattern
