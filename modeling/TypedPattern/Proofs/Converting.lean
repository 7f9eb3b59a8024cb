import TypedPattern.Converter
import TypedPattern.Proofs.Matching.Words

/-! What the expressions of numbers and identifiers take up is what their converters accept. -/

namespace TypedPattern

open Regex (Core)
open Text (isDigit isHexDigit asciiLower)

/-- Digits with a point in front of the last ones of them perhaps. -/
def IsMagnitude (cs : List Char) : Prop :=
  ∃ front digits, cs = front ++ digits ∧ (front = [] ∨ ∃ whole, front = whole ++ ['.'] ∧ ∀ c ∈ whole, isDigit c = true) ∧
    digits ≠ [] ∧ ∀ c ∈ digits, isDigit c = true

/-- A magnitude, behind a sign perhaps. -/
def IsNumeral (cs : List Char) : Prop :=
  ∃ sign magnitude, cs = sign ++ magnitude ∧ (sign = [] ∨ sign = ['+'] ∨ sign = ['-']) ∧ IsMagnitude magnitude

/-- A number of hexadecimal digits, with hyphens among them. -/
structure Hyphenated (count : Nat) (cs : List Char) : Prop where
  length : (cs.filter (· != '-')).length = count
  digit : ∀ c ∈ cs, c = '-' ∨ isHexDigit (asciiLower c) = true

lemma Hyphenated.append {m n : Nat} {cs ds : List Char} (h : Hyphenated m cs) (h' : Hyphenated n ds) :
    Hyphenated (m + n) (cs ++ ds) where
  length := by rw [List.filter_append, List.length_append, h.length, h'.length]
  digit := List.forall_mem_append.mpr ⟨h.digit, h'.digit⟩

namespace Binary64

lemma span_digits {ds rest : List Char} (h : ∀ c ∈ ds, isDigit c = true) (hr : ∀ c ∈ rest.head?, isDigit c = false) :
    (ds ++ rest).takeWhile isDigit = ds ∧ (ds ++ rest).dropWhile isDigit = rest := by
  rw [List.takeWhile_append_of_pos h, List.dropWhile_append_of_pos h]
  cases rest with
  | nil => simp
  | cons c rest => simp [hr c rfl]

lemma exists_readMagnitude {cs : List Char} (h : IsMagnitude cs) (negative : Bool) :
    ∃ x, readMagnitude negative cs = some x := by
  obtain ⟨front, digits, rfl, hfront, hne, hdigits⟩ := h
  obtain ⟨htake, hdrop⟩ := @span_digits digits [] hdigits (fun c hc => absurd hc (by simp))
  rw [List.append_nil] at htake hdrop
  have hempty : digits.isEmpty = false := List.isEmpty_eq_false_iff.mpr hne
  unfold readMagnitude
  dsimp only
  rcases hfront with rfl | ⟨whole, rfl, hwhole⟩
  · rw [List.nil_append, htake, hdrop, hempty, Bool.false_and, if_neg Bool.false_ne_true]
    split_ifs <;> exact ⟨_, rfl⟩
  · obtain ⟨htake', hdrop'⟩ := @span_digits whole ('.' :: digits) hwhole (fun c hc => by
      obtain rfl := Option.some.inj hc
      rfl)
    rw [List.append_assoc, List.singleton_append, htake', hdrop']
    simp only [htake, hdrop, hempty, Bool.and_false, if_neg Bool.false_ne_true]
    split_ifs <;> exact ⟨_, rfl⟩

lemma head_ne_sign {cs : List Char} (h : IsMagnitude cs) : ∀ c ∈ cs.head?, c ≠ '-' ∧ c ≠ '+' := by
  have hdigit : ∀ c, isDigit c = true → c ≠ '-' ∧ c ≠ '+' := fun c hc =>
    ⟨fun h => absurd (h ▸ hc) (by decide), fun h => absurd (h ▸ hc) (by decide)⟩
  obtain ⟨front, digits, rfl, hfront, hne, hdigits⟩ := h
  intro c hc
  rcases hfront with rfl | ⟨whole, rfl, hwhole⟩
  · exact hdigit c (hdigits c (List.mem_of_head? hc))
  · cases whole with
    | nil =>
      obtain rfl := Option.some.inj hc
      decide
    | cons d whole =>
      obtain rfl := Option.some.inj hc
      exact hdigit d (hwhole d List.mem_cons_self)

lemma sign_append {cs sign : List Char} (hs : sign = [] ∨ sign = ['+'] ∨ sign = ['-']) (h : IsMagnitude cs) :
    (Binary64.sign (sign ++ cs)).2 = cs := by
  rcases hs with rfl | rfl | rfl
  · have hhead := head_ne_sign h
    rw [List.nil_append]
    unfold Binary64.sign
    split
    · exact absurd rfl (hhead '-' rfl).1
    · exact absurd rfl (hhead '+' rfl).2
    · rfl
  · rfl
  · rfl

lemma exists_read {cs : List Char} (h : IsNumeral cs) : ∃ x, read cs = .ok x := by
  obtain ⟨sign, magnitude, rfl, hsign, h⟩ := h
  obtain ⟨x, hx⟩ := exists_readMagnitude h (Binary64.sign (sign ++ magnitude)).1
  have hne : (sign ++ magnitude).isEmpty = false := by
    obtain ⟨front, digits, rfl, -, hne, -⟩ := h
    simp [hne]
  refine ⟨x, ?_⟩
  rw [read, hne]
  dsimp only
  rw [sign_append hsign h, hx]
  rfl

end Binary64

namespace Converter

lemma float_ok {raw : String} (h : IsNumeral raw.toList) : ∃ v, float raw = .ok v := by
  obtain ⟨x, hx⟩ := Binary64.exists_read h
  rw [float, hx]
  exact ⟨_, rfl⟩

lemma decimal_ok {raw : String} (h : IsNumeral raw.toList) : ∃ v, decimal raw = .ok v := by
  unfold decimal
  split
  · exact ⟨_, rfl⟩
  · exact float_ok h

lemma int_ok {raw : String} (h : IsNumeral raw.toList) : ∃ v, int raw = .ok v := by
  unfold int
  split
  · exact ⟨_, rfl⟩
  · exact decimal_ok h

lemma uuid_ok {raw : String} (h : Hyphenated 32 raw.toList) : ∃ v, uuid raw = .ok v := by
  unfold uuid
  dsimp only
  rw [if_pos]
  · exact ⟨_, rfl⟩
  · refine ⟨by rw [List.length_map, h.length], List.all_eq_true.mpr fun d hd => ?_⟩
    obtain ⟨c, hc, rfl⟩ := List.mem_map.mp hd
    obtain ⟨hc, hne⟩ := List.mem_filter.mp hc
    exact (h.digit c hc).resolve_left (bne_iff_ne.mp hne)

end Converter

end TypedPattern
