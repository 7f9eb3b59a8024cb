import TypedPattern.Text.Digits
import TypedPattern.Number.Power
import TypedPattern.Proofs.Unicode.Apart

/-! Numbers that are printed in decimal or hexadecimal digits are read back. -/

namespace TypedPattern

namespace Text

lemma decimalValue_decimal (n : Nat) : decimalValue (decimal n) = n :=
  Nat.ofDigitChars_ten_toDigits

lemma isDigit_of_mem_decimal {n : Nat} {c : Char} (h : c ∈ decimal n) : isDigit c = true := by
  have hd := Nat.isDigit_of_mem_toDigits (by omega) (by omega) h
  simpa [Char.isDigit, isDigit, Char.le_def] using hd

lemma decimal_ne_nil (n : Nat) : decimal n ≠ [] :=
  Nat.toDigits_ne_nil

def hexChar (d : Nat) : Char :=
  asciiUpper (Nat.digitChar d)

lemma upperHex_eq (n : Nat) :
    upperHex n = if n < 16 then [hexChar n] else upperHex (n / 16) ++ [hexChar (n % 16)] := by
  unfold upperHex lowerHex
  rw [Nat.toDigits_eq_if (by omega)]
  split
  · rfl
  · rw [List.map_append]
    rfl

lemma hexChar_spec : ∀ d < 16, isHexDigit (hexChar d) = true ∧ hexDigitValue (hexChar d) = d := by
  decide

lemma mem_upperHex {n : Nat} {c : Char} (h : c ∈ upperHex n) : isHexDigit c = true := by
  induction n using Nat.strong_induction_on with
  | _ n ih =>
    rw [upperHex_eq] at h
    split at h
    · rename_i hn
      rw [List.mem_singleton.mp h]
      exact (hexChar_spec n hn).1
    · rename_i hn
      rcases List.mem_append.mp h with h | h
      · exact ih (n / 16) (by omega) h
      · rw [List.mem_singleton.mp h]
        exact (hexChar_spec _ (Nat.mod_lt _ (by omega))).1

lemma upperHex_ne_nil (n : Nat) : upperHex n ≠ [] := by
  rw [upperHex_eq]
  split <;> simp

lemma hexValue_append (cs : List Char) (c : Char) : hexValue (cs ++ [c]) = 16 * hexValue cs + hexDigitValue c := by
  simp [hexValue]

lemma hexValue_upperHex (n : Nat) : hexValue (upperHex n) = n := by
  induction n using Nat.strong_induction_on with
  | _ n ih =>
    rw [upperHex_eq]
    split
    · rename_i hn
      have hd := (hexChar_spec n hn).2
      simp [hexValue, hd]
    · rename_i hn
      rw [hexValue_append, ih (n / 16) (by omega), (hexChar_spec _ (Nat.mod_lt _ (by omega))).2]
      omega

lemma hexValue_padLeft (width : Nat) (cs : List Char) : hexValue (padLeft width cs) = hexValue cs := by
  unfold padLeft hexValue
  rw [List.foldl_append]
  congr 1
  induction width - cs.length with
  | zero => rfl
  | succ k ih =>
    rw [List.replicate_succ, List.foldl_cons]
    exact ih

lemma mem_padLeft {width : Nat} {cs : List Char} (h : ∀ c ∈ cs, isHexDigit c = true) {c : Char}
    (hc : c ∈ padLeft width cs) : isHexDigit c = true := by
  rcases List.mem_append.mp hc with hc | hc
  · rw [List.eq_of_mem_replicate hc]
    rfl
  · exact h c hc

lemma length_upperHex_le {n width : Nat} (hw : 0 < width) : (upperHex n).length ≤ width ↔ n < 16 ^ width := by
  rw [upperHex, List.length_map]
  exact Nat.length_toDigits_le_iff (by omega) hw

lemma length_padLeft {width : Nat} {cs : List Char} (h : cs.length ≤ width) : (padLeft width cs).length = width := by
  rw [padLeft, List.length_append, List.length_replicate]
  omega

end Text

/-- The ASCII characters that leave a mark. -/
def asciiGraph : CharSet :=
  .range 0x21 0x7E

lemma asciiGraph_apart : asciiGraph.apart Unicode.whiteSpace = true := by
  decide

lemma not_white_of_graph {c : Char} (h : asciiGraph.contains c = true) : isWhite c = false :=
  CharSet.not_contains_of_apart asciiGraph_apart h

lemma contains_asciiGraph {c : Char} : asciiGraph.contains c = true ↔ 0x21 ≤ c.toNat ∧ c.toNat ≤ 0x7E := by
  simp [asciiGraph, CharSet.range, CharSet.contains, CharSet.containsCode, CharRange.contains]

lemma char_le_iff {a b : Char} : a ≤ b ↔ a.toNat ≤ b.toNat := by
  rw [Char.le_def, UInt32.le_iff_toNat_le]
  exact Iff.rfl

lemma isDigit_iff {c : Char} : Text.isDigit c = true ↔ 0x30 ≤ c.toNat ∧ c.toNat ≤ 0x39 := by
  rw [Text.isDigit, Bool.and_eq_true, decide_eq_true_eq, decide_eq_true_eq, char_le_iff, char_le_iff]
  exact Iff.rfl

lemma isHexDigit_iff {c : Char} : Text.isHexDigit c = true ↔ (0x30 ≤ c.toNat ∧ c.toNat ≤ 0x39) ∨
    (0x61 ≤ c.toNat ∧ c.toNat ≤ 0x66) ∨ (0x41 ≤ c.toNat ∧ c.toNat ≤ 0x46) := by
  simp only [Text.isHexDigit, Bool.or_eq_true, Bool.and_eq_true, decide_eq_true_eq, char_le_iff, isDigit_iff, or_assoc]
  exact Iff.rfl

lemma graph_of_hexDigit {c : Char} (h : Text.isHexDigit c = true) : asciiGraph.contains c = true ∧ c ≠ '#' := by
  have hr := isHexDigit_iff.mp h
  refine ⟨contains_asciiGraph.mpr (by omega), ?_⟩
  rintro rfl
  exact absurd h (by decide)

end TypedPattern
