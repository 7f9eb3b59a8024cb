import TypedPattern.Proofs.Conversion
import TypedPattern.Proofs.Number.Rounding

/-! Whole numbers are kept exactly as far as 64 bits, or else 96 bits, hold them. -/

namespace TypedPattern

open Regex (Core)
open Text (Digits isDigit)

/-- A whole number in decimal notation. -/
structure WholeNumeral where
  sign : Sign
  digits : Digits 1 none

namespace WholeNumeral

variable (n : WholeNumeral)

def numeral : Numeral :=
  ⟨n.sign, none, n.digits⟩

def chars : List Char :=
  n.sign.chars ++ n.digits.chars

def toText : String :=
  String.ofList n.chars

def value : ℤ :=
  n.sign.factor * n.digits.value

lemma toText_numeral : n.numeral.toText = n.toText :=
  rfl

lemma natAbs_value : n.value.natAbs = n.digits.value := by
  rw [value, Int.natAbs_mul, Int.natAbs_natCast, Sign.factor]
  split <;> simp

end WholeNumeral

namespace Integer

lemma read_append {min : ℕ} {max : Option ℕ} (s : Sign) (ds : Digits (min + 1) max) (bits : ℕ) :
    read bits (s.chars ++ ds.chars) =
    if s.negative then if ds.value ≤ 2 ^ (bits - 1) then .ok (-ds.value) else .error .tooSmall
    else if ds.value < 2 ^ (bits - 1) then .ok ds.value
    else .error .tooLarge := by
  obtain ⟨c, cs, hcs⟩ := List.exists_cons_of_ne_nil ds.chars_ne_nil
  have hall : (c :: cs).all isDigit = true := hcs ▸ List.all_eq_true.mpr ds.digit
  have hc := ds.digit c (hcs ▸ List.mem_cons_self)
  have hminus : c ≠ '-' := Text.ne_of_isDigit hc (by decide)
  have hplus : c ≠ '+' := Text.ne_of_isDigit hc (by decide)
  have hpower : twoTo (bits - 1) = 2 ^ (bits - 1) := rfl
  rw [Digits.value, hcs]
  cases s <;> simp [read, Sign.chars, Sign.negative, hminus, hplus, hall, hpower]

lemma read_eq_ok_iff (n : WholeNumeral) (bits : ℕ) {i : ℤ} : read bits n.chars = .ok i ↔
    i = n.value ∧ -2 ^ (bits - 1) ≤ n.value ∧ n.value < 2 ^ (bits - 1) := by
  have hpower : (0 : ℤ) < 2 ^ (bits - 1) := by positivity
  have hcast : ((2 ^ (bits - 1) : ℕ) : ℤ) = 2 ^ (bits - 1) := by push_cast; rfl
  rw [WholeNumeral.chars, read_append, WholeNumeral.value, Sign.factor]
  split_ifs with hsign hfits hfits
  · simp only [Except.ok.injEq]
    constructor
    · rintro rfl
      omega
    · omega
  · simp only [false_iff]
    omega
  · simp only [Except.ok.injEq]
    omega
  · simp only [false_iff]
    omega

end Integer

namespace Converter

variable {n : WholeNumeral}

lemma int_of_fits (h : -2 ^ 63 ≤ n.value ∧ n.value < 2 ^ 63) : int n.toText = .ok (.int n.value) := by
  have hread := (Integer.read_eq_ok_iff n 64).mpr ⟨rfl, h⟩
  rw [int, WholeNumeral.toText, String.toList_ofList, hread]

lemma int_of_not_fits (h : ¬(-2 ^ 63 ≤ n.value ∧ n.value < 2 ^ 63)) : int n.toText = decimal n.toText := by
  rw [int, WholeNumeral.toText, String.toList_ofList]
  split
  · rename_i i hi
    exact absurd ((Integer.read_eq_ok_iff n 64).mp hi).2 h
  · rfl

lemma decimal_of_whole (h : n.digits.value < 2 ^ 96) :
    decimal n.toText = .ok (.decimal (.make n.sign.negative n.digits.value 0)) := by
  rw [← n.toText_numeral, decimal_eq_decimal_iff]
  refine Decimal.rounds_make (Nat.zero_le _) h ?_ fun p hp hlt => absurd hp ?_
  · rw [pow_zero, mul_one]
    exact Decimal.floor_add_half _
  · rw [show n.numeral.places = 0 from rfl]
    omega

lemma decimal_of_large_whole (h : 2 ^ 96 ≤ n.digits.value) : decimal n.toText = float n.toText := by
  rw [← n.toText_numeral]
  exact decimal_of_too_large _ (h.trans (Decimal.floor_add_half _).ge)

lemma value_make_whole : (Decimal.make n.sign.negative n.digits.value 0).value = n.value := by
  by_cases hzero : n.digits.value = 0
  · simp [Decimal.value, Decimal.numerator, Decimal.make, WholeNumeral.value, hzero]
  · cases hsign : n.sign.negative <;>
      simp [Decimal.value, Decimal.numerator, Decimal.make, WholeNumeral.value, Sign.factor, hzero, hsign]

variable (n)

lemma int_cases :
    ((-2 ^ 63 ≤ n.value ∧ n.value ≤ 2 ^ 63 - 1) ∧ int n.toText = .ok (.int n.value)) ∨
    (¬(-2 ^ 63 ≤ n.value ∧ n.value ≤ 2 ^ 63 - 1) ∧ |n.value| ≤ 2 ^ 96 - 1 ∧
      int n.toText = .ok (.decimal (.make n.sign.negative n.digits.value 0))) ∨
    (2 ^ 96 - 1 < |n.value| ∧ ∃ x, int n.toText = .ok (.float x)) := by
  have habs : |n.value| = n.digits.value := by rw [Int.abs_eq_natAbs, n.natAbs_value]
  by_cases hint : -2 ^ 63 ≤ n.value ∧ n.value < 2 ^ 63
  · exact Or.inl ⟨by omega, int_of_fits hint⟩
  · rcases Nat.lt_or_ge n.digits.value (2 ^ 96) with hdecimal | hlarge
    · exact Or.inr (Or.inl ⟨by omega, by omega, (int_of_not_fits hint).trans (decimal_of_whole hdecimal)⟩)
    · obtain ⟨x, hx⟩ := exists_float n.numeral
      exact Or.inr (Or.inr ⟨by omega, x, (int_of_not_fits hint).trans ((decimal_of_large_whole hlarge).trans hx)⟩)

end Converter

namespace Fragment

lemma spells_whole {w : List Char} (h : wholeNumberCore.Spells w) : ∃ n : WholeNumeral, n.chars = w := by
  obtain ⟨sign, digits, hsign, hdigits, rfl⟩ := h
  obtain ⟨hlength, hall⟩ := spells_digitsCore hdigits
  obtain ⟨s, rfl⟩ := Sign.exists_of_chars (spells_signCore hsign)
  obtain ⟨ds, rfl⟩ := exists_digits hall hlength
  exact ⟨⟨s, ds⟩, rfl⟩

end Fragment

namespace Registry

/-- The texts of the type `int` are whole numbers. They become integers where 64 bits hold them, or else decimals
without places where 96 bits hold them, or else floats. -/
theorem int_classifies (origin : ℕ) : ∃ t, (builtin origin).find? "int" = some t ∧ ∀ caseInsensitive, ∃ core,
    t.tree.meaning caseInsensitive = .ok core ∧ ∀ text : String, core.Accepts text.toList →
      ∃ n : WholeNumeral, text = n.toText ∧
        (t.converter text = .ok (.int n.value) ↔ -2 ^ 63 ≤ n.value ∧ n.value ≤ 2 ^ 63 - 1) ∧
        ((∃ d : Decimal, t.converter text = .ok (.decimal d) ∧ d.scale = 0 ∧ d.value = n.value) ↔
          ¬(-2 ^ 63 ≤ n.value ∧ n.value ≤ 2 ^ 63 - 1) ∧ |n.value| ≤ 2 ^ 96 - 1) ∧
        ((∃ x, t.converter text = .ok (.float x)) ↔ 2 ^ 96 - 1 < |n.value|) := by
  obtain ⟨t, hf, hconverter, hmeaning⟩ := exists_builtin_meaning origin List.mem_cons_self Fragment.means_wholeNumber
  refine ⟨t, hf, fun caseInsensitive => ⟨_, hmeaning caseInsensitive, fun text htext => ?_⟩⟩
  obtain ⟨n, hn⟩ := Fragment.spells_whole (Core.spells_of_accepts htext)
  obtain rfl : text = n.toText := by rw [WholeNumeral.toText, hn, String.ofList_toList]
  refine ⟨n, rfl, ?_⟩
  rw [hconverter]
  rcases Converter.int_cases n with ⟨hint, h⟩ | ⟨hint, habs, h⟩ | ⟨habs, x, h⟩
  · have : |n.value| ≤ 2 ^ 63 := abs_le.mpr ⟨hint.1, by omega⟩
    rw [h]
    refine ⟨iff_of_true rfl hint, iff_of_false (by simp) fun hnot => hnot.1 hint, iff_of_false (by simp) ?_⟩
    omega
  · rw [h]
    refine ⟨iff_of_false (by simp) hint, iff_of_true ⟨_, rfl, rfl, Converter.value_make_whole⟩ ⟨hint, habs⟩, ?_⟩
    exact iff_of_false (by simp) (Int.not_lt.mpr habs)
  · have hint : ¬(-2 ^ 63 ≤ n.value ∧ n.value ≤ 2 ^ 63 - 1) := fun hint => by
      have : |n.value| ≤ 2 ^ 63 := abs_le.mpr ⟨hint.1, by omega⟩
      omega
    rw [h]
    refine ⟨iff_of_false (by simp) hint, iff_of_false (by simp) fun hnot => ?_, iff_of_true ⟨x, rfl⟩ habs⟩
    exact absurd habs (Int.not_lt.mpr hnot.2)

/-- The number below the least that 64 bits hold, with a zero in front. -/
theorem int_classifies_below_least : ∃ (t : GroupType) (core : Core) (n : WholeNumeral) (d : Decimal),
    (builtin 0).find? "int" = some t ∧ t.tree.meaning false = .ok core ∧
      core.Accepts "-09223372036854775809".toList ∧ "-09223372036854775809" = n.toText ∧
        n.value = -9223372036854775809 ∧ t.converter "-09223372036854775809" = .ok (.decimal d) ∧
          d.value = n.value := by
  obtain ⟨t, ht, h⟩ := int_classifies 0
  obtain ⟨hconverter, hmeaning⟩ := builtin_meaning List.mem_cons_self Fragment.means_wholeNumber ht
  obtain ⟨core, hcore, h⟩ := h false
  obtain rfl := hmeaning hcore
  have haccepts : Fragment.wholeNumberCore.Accepts "-09223372036854775809".toList := by decide +kernel
  have hvalue : t.converter "-09223372036854775809" = .ok (.decimal ⟨true, 9223372036854775809, 0⟩) := by
    rw [hconverter]
    decide +kernel
  obtain ⟨n, hn, hint, hdecimal, hfloat⟩ := h "-09223372036854775809" haccepts
  simp only [hvalue, Except.ok.injEq, reduceCtorEq, exists_false, false_iff, not_lt] at hint hfloat
  obtain ⟨d, hd, -, hsame⟩ := hdecimal.mpr ⟨hint, hfloat⟩
  have hnumber : (n.value : ℚ) = -9223372036854775809 := by
    obtain rfl := Value.decimal.inj (Except.ok.inj (hvalue.symm.trans hd))
    rw [← hsame]
    simp [Decimal.value, Decimal.numerator]
  exact ⟨t, _, n, d, ht, hcore, haccepts, hn, by exact_mod_cast hnumber, hd, hsame⟩

end Registry

end TypedPattern
