import TypedPattern.Proofs.Converting
import TypedPattern.Proofs.Text.Digits

/-! Numbers in decimal notation, and what they denote. -/

namespace TypedPattern

open Text (Digits isDigit decimalValue)

/-- What is written in front of a number. -/
inductive Sign where
  | bare
  | plus
  | minus
  deriving DecidableEq

namespace Sign

def chars : Sign → List Char
  | bare => []
  | plus => ['+']
  | minus => ['-']

def negative (s : Sign) : Bool :=
  s == minus

def factor (s : Sign) : ℤ :=
  if s.negative then -1 else 1

def ofNegative (negative : Bool) : Sign :=
  if negative then minus else bare

@[simp] lemma negative_ofNegative (negative : Bool) : (ofNegative negative).negative = negative := by
  cases negative <;> rfl

lemma chars_cases (s : Sign) : s.chars = [] ∨ s.chars = ['+'] ∨ s.chars = ['-'] := by
  cases s <;> simp [chars]

lemma exists_of_chars {cs : List Char} (h : cs = [] ∨ cs = ['+'] ∨ cs = ['-']) : ∃ s : Sign, s.chars = cs := by
  rcases h with rfl | rfl | rfl
  · exact ⟨bare, rfl⟩
  · exact ⟨plus, rfl⟩
  · exact ⟨minus, rfl⟩

end Sign

/-- A sign, the digits in front of a point if there is one, and the last digits. -/
structure Numeral where
  sign : Sign
  before : Option (Digits 0 none)
  digits : Digits 1 none

namespace Numeral

variable (n : Numeral)

def body : List Char :=
  match n.before with
  | none => n.digits.chars
  | some ds => ds.chars ++ '.' :: n.digits.chars

def chars : List Char :=
  n.sign.chars ++ n.body

def toText : String :=
  String.ofList n.chars

def places : ℕ :=
  match n.before with
  | none => 0
  | some _ => n.digits.chars.length

def magnitude : ℚ :=
  match n.before with
  | none => n.digits.value
  | some ds => ds.value + n.digits.value / 10 ^ n.digits.chars.length

def value : ℚ :=
  n.sign.factor * n.magnitude

lemma toList_toText : n.toText.toList = n.chars :=
  String.toList_ofList

lemma magnitude_nonneg : 0 ≤ n.magnitude := by
  unfold magnitude
  split <;> positivity

lemma isMagnitude_body : IsMagnitude n.body := by
  unfold body
  split
  · exact ⟨[], n.digits.chars, rfl, Or.inl rfl, n.digits.chars_ne_nil, n.digits.digit⟩
  · rename_i ds _
    exact ⟨ds.chars ++ ['.'], n.digits.chars, by simp, Or.inr ⟨ds.chars, rfl, ds.digit⟩, n.digits.chars_ne_nil,
      n.digits.digit⟩

lemma isNumeral_chars : IsNumeral n.chars :=
  ⟨n.sign.chars, n.body, rfl, n.sign.chars_cases, n.isMagnitude_body⟩

end Numeral

lemma exists_digits {cs : List Char} {min : ℕ} (h : ∀ c ∈ cs, isDigit c = true) (hmin : min ≤ cs.length) :
    ∃ ds : Digits min none, ds.chars = cs :=
  ⟨⟨cs, h, hmin, by simp⟩, rfl⟩

lemma isNumeral_iff {cs : List Char} : IsNumeral cs ↔ ∃ n : Numeral, n.chars = cs := by
  constructor
  · rintro ⟨sign, magnitude, rfl, hsign, front, digits, rfl, hfront, hne, hdigits⟩
    obtain ⟨s, rfl⟩ := Sign.exists_of_chars hsign
    obtain ⟨ds, rfl⟩ := exists_digits hdigits (List.length_pos_iff.mpr hne)
    rcases hfront with rfl | ⟨whole, rfl, hwhole⟩
    · exact ⟨⟨s, none, ds⟩, rfl⟩
    · obtain ⟨ws, rfl⟩ := exists_digits hwhole (Nat.zero_le _)
      exact ⟨⟨s, some ws, ds⟩, by simp [Numeral.chars, Numeral.body]⟩
  · rintro ⟨n, rfl⟩
    exact n.isNumeral_chars

namespace Decimal

/-- The number that a decimal is. -/
def value (d : Decimal) : ℚ :=
  d.numerator / 10 ^ d.scale

lemma value_eq (d : Decimal) : d.value = (if d.negative then -1 else 1) * (d.coefficient / 10 ^ d.scale) := by
  unfold value numerator
  split <;> push_cast <;> ring

end Decimal

end TypedPattern
