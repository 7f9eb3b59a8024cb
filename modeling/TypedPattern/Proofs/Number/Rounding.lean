import TypedPattern.Proofs.Number.Numeral
import Mathlib.Data.List.TakeWhile

/-!
Decimals are read by rounding. What does not fit is rounded half up to the last place where it does, so that a number
that a decimal can hold comes out exactly, and any other one changed.
-/

namespace TypedPattern

open Text (Digits isDigit digitValue decimalValue)

namespace Decimal

/-- A number rounded half up to the last of some places where that fits 96 bits. -/
structure Rounds (negative : Bool) (x : ℚ) (limit : ℕ) (d : Decimal) : Prop where
  places : d.scale ≤ limit
  coefficient : d.coefficient = ⌊x * 10 ^ d.scale + 1 / 2⌋₊
  fits : d.coefficient < 2 ^ 96
  last : ∀ p ≤ limit, d.scale < p → 2 ^ 96 ≤ ⌊x * 10 ^ p + 1 / 2⌋₊
  negative : d.negative = (negative && d.coefficient != 0)

/-- What is read of a number: its rounding, or nothing where its whole part does not fit. -/
def Rounding (negative : Bool) (x : ℚ) (limit : ℕ) : Option Decimal → Prop
  | some d => d.Rounds negative x limit
  | none => 2 ^ 96 ≤ ⌊x + 1 / 2⌋₊

variable {negative : Bool} {x : ℚ} {limit coefficient scale : ℕ} {d e : Decimal}

lemma le_maxCoefficient {n : ℕ} : n ≤ maxCoefficient ↔ n < 2 ^ 96 := by
  rw [show maxCoefficient = 2 ^ 96 - 1 from rfl]
  omega

lemma floor_mono (hx : 0 ≤ x) {p q : ℕ} (h : p ≤ q) : ⌊x * 10 ^ p + 1 / 2⌋₊ ≤ ⌊x * 10 ^ q + 1 / 2⌋₊ := by
  apply Nat.floor_mono
  gcongr
  norm_num

lemma floor_add_half (n : ℕ) : ⌊(n : ℚ) + 1 / 2⌋₊ = n := by
  rw [Nat.floor_eq_iff (by positivity)]
  constructor <;> linarith

lemma Rounds.unique (hd : d.Rounds negative x limit) (he : e.Rounds negative x limit) : d = e := by
  have hscale : d.scale = e.scale := by
    rcases Nat.lt_trichotomy d.scale e.scale with hlt | heq | hlt
    · have := hd.last e.scale he.places hlt
      have := he.coefficient ▸ he.fits
      omega
    · exact heq
    · have := he.last d.scale hd.places hlt
      have := hd.coefficient ▸ hd.fits
      omega
  have hcoefficient : d.coefficient = e.coefficient := by rw [hd.coefficient, he.coefficient, hscale]
  have hnegative : d.negative = e.negative := by rw [hd.negative, he.negative, hcoefficient]
  cases d
  cases e
  congr

lemma Rounds.whole_lt (h : d.Rounds negative x limit) (hx : 0 ≤ x) : ⌊x + 1 / 2⌋₊ < 2 ^ 96 := by
  have hmono := floor_mono hx (Nat.zero_le d.scale)
  rw [pow_zero, mul_one, ← h.coefficient] at hmono
  exact hmono.trans_lt h.fits

lemma Rounding.eq_some_iff {o : Option Decimal} (h : Rounding negative x limit o) (hx : 0 ≤ x) :
    o = some d ↔ d.Rounds negative x limit := by
  cases o with
  | none => exact iff_of_false (by simp) fun hd => absurd (hd.whole_lt hx) (Nat.not_lt.mpr h)
  | some e => exact ⟨fun he => Option.some.inj he ▸ h, fun hd => congrArg some (Rounds.unique h hd)⟩

lemma Rounding.eq_none_iff {o : Option Decimal} (h : Rounding negative x limit o) (hx : 0 ≤ x) :
    o = none ↔ 2 ^ 96 ≤ ⌊x + 1 / 2⌋₊ := by
  cases o with
  | none => exact iff_of_true rfl h
  | some d => exact iff_of_false (by simp) (Nat.not_le.mpr (h.whole_lt hx))

lemma rounds_make (hs : scale ≤ limit) (hc : coefficient < 2 ^ 96) (hx : ⌊x * 10 ^ scale + 1 / 2⌋₊ = coefficient)
    (hlast : ∀ p ≤ limit, scale < p → 2 ^ 96 ≤ ⌊x * 10 ^ p + 1 / 2⌋₊) :
    (make negative coefficient scale).Rounds negative x limit :=
  ⟨hs, hx.symm, hc, hlast, rfl⟩

lemma floor_half_up {c : Char} {f : ℚ} (hdigit : isDigit c = true) (hlo : (digitValue c : ℚ) / 10 ≤ f)
    (hhi : f < (digitValue c + 1) / 10) (n : ℕ) :
    ⌊n + f + 1 / 2⌋₊ = if 5 ≤ digitValue c then n + 1 else n := by
  have hnine := Text.digitValue_le hdigit
  have hf : 0 ≤ f := hlo.trans' (by positivity)
  rw [Nat.floor_eq_iff (by positivity)]
  split
  · rename_i hfive
    have : (5 : ℚ) ≤ digitValue c := by exact_mod_cast hfive
    have : (digitValue c : ℚ) ≤ 9 := by exact_mod_cast hnine
    push_cast
    constructor <;> linarith
  · rename_i hfive
    have : (digitValue c : ℚ) ≤ 4 := by exact_mod_cast (by omega : digitValue c ≤ 4)
    constructor <;> linarith

lemma rounds_full {f : ℚ} {k : ℕ} (hk : k ≤ limit) (hx : x * 10 ^ (k + 1) = (2 ^ 96 - 1 : ℕ) + f) (hlo : 1 / 2 ≤ f)
    (hhi : f < 1) (hlast : ∀ p ≤ limit, k < p → 2 ^ 96 ≤ ⌊x * 10 ^ p + 1 / 2⌋₊) :
    (make negative ((2 ^ 96 + 4) / 10) k).Rounds negative x limit := by
  have htenth : x * 10 ^ k = ((2 ^ 96 - 1 : ℕ) + f) / 10 := by
    rw [← hx, pow_succ]
    ring
  refine rounds_make hk (by norm_num) ?_ hlast
  rw [htenth, Nat.floor_eq_iff (by positivity)]
  norm_num
  constructor <;> linarith

/-- The last digits of a number, from the first one that does not fit on. -/
lemma rounding_roundLast {c : Char} {f : ℚ} (hdigit : isDigit c = true) (hc : coefficient < 2 ^ 96) (hs : scale ≤ limit)
    (hx : x * 10 ^ scale = coefficient + f) (hlo : (digitValue c : ℚ) / 10 ≤ f) (hhi : f < (digitValue c + 1) / 10)
    (hlast : ∀ p ≤ limit, scale < p → 2 ^ 96 ≤ ⌊x * 10 ^ p + 1 / 2⌋₊) :
    Rounding negative x limit (roundLast negative coefficient scale c) := by
  have hround := floor_half_up hdigit hlo hhi coefficient
  rw [← hx] at hround
  unfold roundLast
  simp only [hdigit, if_true, le_maxCoefficient, ← hround]
  split
  · rename_i hfits
    exact rounds_make hs hfits rfl hlast
  · rename_i hfits
    -- all 96 bits are in use, and the last digit is dropped with them
    obtain ⟨rfl, hfive⟩ : coefficient = 2 ^ 96 - 1 ∧ 5 ≤ digitValue c := by
      rw [hround] at hfits
      split at hfits <;> omega
    rw [if_pos hfive] at hround
    split
    · rename_i hzero
      rw [hzero, pow_zero, mul_one] at hround
      exact hround.ge
    · rename_i hzero
      obtain ⟨k, rfl⟩ := Nat.exists_eq_succ_of_ne_zero hzero
      have hfive : (5 : ℚ) ≤ digitValue c := by exact_mod_cast hfive
      have hnine : (digitValue c : ℚ) ≤ 9 := by exact_mod_cast Text.digitValue_le hdigit
      rw [hround]
      refine rounds_full (Nat.le_of_succ_le hs) hx (by linarith) (by linarith) fun p hp hk => ?_
      rcases Nat.eq_or_lt_of_le hk with rfl | hlt
      · exact hround.ge
      · exact hlast p hp hlt

lemma readFrom_digit {point started : Bool} {c : Char} {cs : List Char} (hdigit : isDigit c = true) :
    readFrom negative point started coefficient scale (c :: cs) =
      if point = true ∧ started = true ∧ maxScale ≤ scale then roundLast negative coefficient scale c
      else if 10 * coefficient + digitValue c < 2 ^ 96 then
        readFrom negative point true (10 * coefficient + digitValue c) (if point then scale + 1 else scale) cs
      else if point then roundLast negative coefficient scale c
      else none := by
  rw [readFrom, if_pos hdigit]
  simp only [Bool.and_eq_true, decide_eq_true_eq, and_assoc, le_maxCoefficient]

lemma fraction_cons (c : Char) (ds : List Char) : (decimalValue (c :: ds) : ℚ) / 10 ^ (c :: ds).length =
    (digitValue c + decimalValue ds / 10 ^ ds.length) / 10 := by
  rw [Text.decimalValue_cons, List.length_cons, pow_succ]
  push_cast
  field_simp

lemma fraction_lt_one {ds : List Char} (h : ∀ c ∈ ds, isDigit c = true) : (decimalValue ds : ℚ) / 10 ^ ds.length < 1 := by
  rw [div_lt_one (by positivity)]
  exact_mod_cast Text.decimalValue_lt h

/-- Digits behind the point. What has been read, with all of them put behind it, is the number at any time. -/
lemma rounding_readFrom {ds : List Char} (hds : ∀ c ∈ ds, isDigit c = true) (hc : coefficient < 2 ^ 96)
    (hs : scale ≤ maxScale) (hx : x * 10 ^ scale = coefficient + decimalValue ds / 10 ^ ds.length) :
    Rounding negative x (min (scale + ds.length) maxScale) (readFrom negative true true coefficient scale ds) := by
  induction ds generalizing coefficient scale with
  | nil =>
    have hexact : x * 10 ^ scale = coefficient := by simpa [decimalValue] using hx
    rw [List.length_nil, Nat.add_zero, min_eq_left hs]
    refine rounds_make (Nat.le_refl _) hc ?_ fun p hp hlt => absurd hp (Nat.not_le.mpr hlt)
    rw [hexact, floor_add_half]
  | cons c ds ih =>
    obtain ⟨hdigit, hrest⟩ := List.forall_mem_cons.mp hds
    have hbehind : (0 : ℚ) ≤ decimalValue ds / 10 ^ ds.length := by positivity
    have hbelow := fraction_lt_one hrest
    have hlo : (digitValue c : ℚ) / 10 ≤ (digitValue c + decimalValue ds / 10 ^ ds.length) / 10 := by linarith
    have hhi : ((digitValue c : ℚ) + decimalValue ds / 10 ^ ds.length) / 10 < (digitValue c + 1) / 10 := by linarith
    rw [fraction_cons] at hx
    have hnext : x * 10 ^ (scale + 1) = (10 * coefficient + digitValue c : ℕ) + decimalValue ds / 10 ^ ds.length := by
      rw [pow_succ, ← mul_assoc, hx]
      push_cast
      ring
    have hnonneg : 0 ≤ x := by
      have : 0 ≤ x * 10 ^ scale := by
        rw [hx]
        positivity
      exact nonneg_of_mul_nonneg_left this (by positivity)
    simp only [readFrom_digit hdigit, true_and, if_true]
    split_ifs with hplaces hfits
    · -- there are no places left
      obtain rfl := Nat.le_antisymm hs hplaces
      exact rounding_roundLast hdigit hc (by omega) hx hlo hhi fun p hp hp' => absurd hp (by omega)
    · have hstep := ih hrest hfits (Nat.lt_of_not_le hplaces) hnext
      rwa [Nat.succ_add_eq_add_succ] at hstep
    · -- there are no bits left
      refine rounding_roundLast hdigit hc (by omega) hx hlo hhi fun p _ hp => ?_
      refine (Nat.le_of_not_lt hfits).trans ((Nat.le_floor ?_).trans (floor_mono hnonneg hp))
      rw [Nat.succ_eq_add_one, hnext]
      linarith

lemma readFrom_whole {started : Bool} {ds rest : List Char} (hds : ∀ c ∈ ds, isDigit c = true)
    (hc : coefficient < 2 ^ 96) : readFrom negative false started coefficient 0 (ds ++ rest) =
      if coefficient * 10 ^ ds.length + decimalValue ds < 2 ^ 96 then
        readFrom negative false (started || !ds.isEmpty) (coefficient * 10 ^ ds.length + decimalValue ds) 0 rest
      else none := by
  induction ds generalizing coefficient started with
  | nil => rw [if_pos (by simpa [decimalValue] using hc)]; simp [decimalValue]
  | cons c ds ih =>
    obtain ⟨hdigit, hrest⟩ := List.forall_mem_cons.mp hds
    have hvalue : coefficient * 10 ^ (c :: ds).length + decimalValue (c :: ds) =
        (10 * coefficient + digitValue c) * 10 ^ ds.length + decimalValue ds := by
      rw [Text.decimalValue_cons, List.length_cons, pow_succ]
      ring
    rw [hvalue, List.cons_append]
    simp only [readFrom_digit hdigit, Bool.false_eq_true, false_and, if_false]
    split_ifs with hfits htotal htotal
    · rw [ih hrest hfits, if_pos htotal]
      simp
    · rw [ih hrest hfits, if_neg htotal]
    · have : 1 ≤ 10 ^ ds.length := Nat.one_le_pow' _ _
      exact absurd (by nlinarith : 10 * coefficient + digitValue c < 2 ^ 96) hfits
    · rfl

lemma readFrom_point {cs : List Char} : readFrom negative false true coefficient 0 ('.' :: cs) =
    readFrom negative true true coefficient 0 cs := by
  rw [readFrom]
  rfl

lemma read_of_plain {cs : List Char} (h : ∀ c ∈ cs, c ≠ 'e' ∧ c ≠ 'E') : read cs = readPlain cs := by
  have hnone : cs.dropWhile (fun c => !(c == 'e' || c == 'E')) = [] :=
    List.dropWhile_eq_nil_iff.mpr fun c hc => by simp [h c hc]
  simp only [read, hnone]

lemma readPlain_sign {cs : List Char} (h : ∀ c ∈ cs.head?, c ≠ '-' ∧ c ≠ '+') (negative : Bool) :
    readPlain ((if negative then ['-'] else []) ++ cs) = readFrom negative false false 0 0 cs := by
  cases negative
  · unfold readPlain
    split
    · exact absurd rfl (h '-' (by simp_all)).1
    · exact absurd rfl (h '+' (by simp_all)).2
    · rfl
  · rfl

/-- A number that some decimal is. -/
def Held (q : ℚ) : Prop :=
  ∃ d : Decimal, d.coefficient < 2 ^ 96 ∧ d.scale ≤ maxScale ∧ d.value = q

end Decimal

namespace Numeral

open Decimal (Rounding Rounds Held maxScale readFrom)

variable (n : Numeral)

/-- The body with a zero in front of a point that it begins with. -/
def led : List Char :=
  if n.body.head? = some '.' then '0' :: n.body else n.body

lemma head_body : ∀ c ∈ n.body.head?, c ≠ '-' ∧ c ≠ '+' :=
  Binary64.head_ne_sign n.isMagnitude_body

lemma head_led : ∀ c ∈ n.led.head?, c ≠ '-' ∧ c ≠ '+' := by
  unfold led
  split
  · simp
  · exact n.head_body

lemma mem_body : ∀ c ∈ n.body, isDigit c = true ∨ c = '.' := by
  unfold body
  split
  · exact fun c hc => Or.inl (n.digits.digit c hc)
  · rename_i ds _
    simp only [List.forall_mem_append, List.forall_mem_cons, or_true, true_and]
    exact ⟨fun c hc => Or.inl (ds.digit c hc), fun c hc => Or.inl (n.digits.digit c hc)⟩

lemma readDecimal_eq : Converter.readDecimal n.chars = readFrom n.sign.negative false false 0 0 n.led := by
  have hexponent : ∀ c ∈ (if n.sign.negative then ['-'] else []) ++ n.led, c ≠ 'e' ∧ c ≠ 'E' := by
    have hbody : ∀ c ∈ n.body, c ≠ 'e' ∧ c ≠ 'E' := fun c hc => by
      rcases n.mem_body c hc with h | rfl
      · exact ⟨Text.ne_of_isDigit h (by decide), Text.ne_of_isDigit h (by decide)⟩
      · decide
    rw [List.forall_mem_append]
    constructor
    · cases n.sign.negative <;> simp
    · unfold led
      split
      · simpa using hbody
      · exact hbody
  rw [← Decimal.readPlain_sign n.head_led, ← Decimal.read_of_plain hexponent]
  have hsign : ∀ s : Sign, Converter.readDecimal (s.chars ++ n.body) =
      Decimal.read ((if s.negative then ['-'] else []) ++ n.led) := by
    intro s
    cases s with
    | bare =>
      have hhead := n.head_body
      unfold led
      rw [show Sign.bare.chars ++ n.body = n.body from rfl]
      cases hbody : n.body with
      | nil => rfl
      | cons c cs =>
        rw [hbody] at hhead
        have hc := hhead c rfl
        split_ifs <;> simp_all [Converter.readDecimal, Sign.negative]
    | plus =>
      unfold led
      split_ifs <;> simp_all [Converter.readDecimal, Sign.chars, Sign.negative]
    | minus =>
      unfold led
      split_ifs <;> simp_all [Converter.readDecimal, Sign.chars, Sign.negative]
  exact hsign n.sign

variable {n} in
lemma led_of_whole (h : n.before = none) : n.led = n.digits.chars := by
  have hbody : n.body = n.digits.chars := by simp [body, h]
  rw [led, hbody, if_neg]
  intro hpoint
  exact absurd (n.digits.digit _ (List.mem_of_head? hpoint)) (by decide)

variable {n} in
lemma exists_led {ws : Digits 0 none} (h : n.before = some ws) : ∃ whole, n.led = whole ++ '.' :: n.digits.chars ∧
    (∀ c ∈ whole, isDigit c = true) ∧ whole ≠ [] ∧ decimalValue whole = ws.value := by
  have hbody : n.body = ws.chars ++ '.' :: n.digits.chars := by simp [body, h]
  rw [led, hbody]
  by_cases hempty : ws.chars = []
  · exact ⟨['0'], by simp [hempty], List.forall_mem_singleton.mpr rfl, by simp, by rw [Digits.value, hempty]; rfl⟩
  · refine ⟨ws.chars, if_neg ?_, ws.digit, hempty, rfl⟩
    rw [List.head?_append_of_ne_nil _ hempty]
    intro hpoint
    exact absurd (ws.digit _ (List.mem_of_head? hpoint)) (by decide)

lemma rounding_readDecimal :
    Rounding n.sign.negative n.magnitude (min n.places maxScale) (Converter.readDecimal n.chars) := by
  rw [readDecimal_eq]
  cases hbefore : n.before with
  | none =>
    have hled : n.led = n.digits.chars ++ [] := (led_of_whole hbefore).trans (List.append_nil _).symm
    have hmagnitude : n.magnitude = n.digits.value := by simp [magnitude, hbefore]
    have hplaces : n.places = 0 := by simp [places, hbefore]
    rw [hled, Decimal.readFrom_whole n.digits.digit (by norm_num), Nat.zero_mul, Nat.zero_add, hmagnitude, hplaces,
      Nat.zero_min]
    split_ifs with hfits
    · have hstarted : (false || !n.digits.chars.isEmpty) = true := by simp [n.digits.chars_ne_nil]
      rw [hstarted]
      refine Decimal.rounds_make (Nat.le_refl 0) hfits ?_ fun p hp hlt => absurd hp (Nat.not_le.mpr hlt)
      rw [pow_zero, mul_one, Decimal.floor_add_half]
      rfl
    · exact (Nat.le_of_not_lt hfits).trans (Decimal.floor_add_half _).ge
  | some ws =>
    obtain ⟨whole, hled, hdigits, hne, hvalue⟩ := exists_led hbefore
    have hmagnitude : n.magnitude = ws.value + n.digits.value / 10 ^ n.digits.chars.length := by
      simp [magnitude, hbefore]
    have hplaces : n.places = 0 + n.digits.chars.length := by simp [places, hbefore]
    have hstarted : (false || !whole.isEmpty) = true := by simp [hne]
    rw [hled, Decimal.readFrom_whole hdigits (by norm_num), Nat.zero_mul, Nat.zero_add, hvalue, hmagnitude, hplaces,
      hstarted, Decimal.readFrom_point]
    split_ifs with hfits
    · refine Decimal.rounding_readFrom n.digits.digit hfits (Nat.zero_le _) ?_
      rw [pow_zero, mul_one]
      rfl
    · -- the whole part alone does not fit
      refine (Nat.le_of_not_lt hfits).trans (Nat.le_floor ?_)
      have : (0 : ℚ) ≤ n.digits.value / 10 ^ n.digits.chars.length := by positivity
      linarith

lemma exists_scaled : ∃ k : ℕ, n.magnitude * 10 ^ n.places = k := by
  unfold magnitude places
  cases n.before with
  | none => exact ⟨n.digits.value, by simp⟩
  | some ws =>
    refine ⟨ws.value * 10 ^ n.digits.chars.length + n.digits.value, ?_⟩
    push_cast
    field_simp

/-- A number that some decimal is has a multiple by a power of ten that is whole and fits, with no more places than are
written. -/
lemma exists_scaled_of_held (h : Held n.value) :
    ∃ p ≤ min n.places maxScale, ∃ k : ℕ, k < 2 ^ 96 ∧ n.magnitude * 10 ^ p = k := by
  obtain ⟨e, hfits, hscale, hvalue⟩ := h
  have hscaled : n.magnitude * 10 ^ e.scale = e.coefficient := by
    have habs := congrArg abs hvalue
    have hsign : ∀ b : Bool, |if b then (-1 : ℚ) else 1| = 1 := by simp
    have hfactor : |(n.sign.factor : ℚ)| = 1 := by
      unfold Sign.factor
      split <;> simp
    rw [Decimal.value_eq, value, abs_mul, abs_mul, hsign, hfactor, one_mul, one_mul, abs_of_nonneg n.magnitude_nonneg,
      abs_of_nonneg (by positivity)] at habs
    rw [← habs]
    field_simp
  rcases Nat.le_total e.scale n.places with hle | hle
  · exact ⟨e.scale, le_min hle hscale, e.coefficient, hfits, hscaled⟩
  · obtain ⟨k, hk⟩ := n.exists_scaled
    refine ⟨n.places, le_min (Nat.le_refl _) (hle.trans hscale), k, ?_, hk⟩
    have hmono : n.magnitude * 10 ^ n.places ≤ n.magnitude * 10 ^ e.scale := by
      have := n.magnitude_nonneg
      gcongr
      norm_num
    rw [hk, hscaled, Nat.cast_le] at hmono
    exact hmono.trans_lt hfits

lemma value_of_rounds {d : Decimal} (h : d.Rounds n.sign.negative n.magnitude (min n.places maxScale))
    (hheld : Held n.value) : d.value = n.value := by
  obtain ⟨p, hp, k, hk, hscaled⟩ := n.exists_scaled_of_held hheld
  have hle : p ≤ d.scale := by
    by_contra hlt
    have hlast := h.last p hp (Nat.lt_of_not_le hlt)
    rw [hscaled, Decimal.floor_add_half] at hlast
    omega
  have hwhole : n.magnitude * 10 ^ d.scale = (k * 10 ^ (d.scale - p) : ℕ) := by
    rw [← Nat.add_sub_cancel' hle, pow_add, ← mul_assoc, hscaled, Nat.add_sub_cancel_left]
    push_cast
    rfl
  have hcoefficient : n.magnitude * 10 ^ d.scale = d.coefficient := by
    rw [h.coefficient, hwhole, Decimal.floor_add_half]
  have hmagnitude : (d.coefficient : ℚ) / 10 ^ d.scale = n.magnitude := by
    rw [← hcoefficient]
    field_simp
  rw [Decimal.value_eq, hmagnitude, value, h.negative]
  by_cases hzero : d.coefficient = 0
  · rw [← hmagnitude, hzero]
    simp
  · simp [hzero, Sign.factor]

end Numeral

namespace Converter

open Decimal (Held maxScale)

variable (n : Numeral)

lemma exists_float : ∃ x, float n.toText = .ok (.float x) := by
  obtain ⟨x, hx⟩ := Binary64.exists_read n.isNumeral_chars
  exact ⟨x, by rw [float, n.toList_toText, hx]⟩

lemma decimal_of_readDecimal_some {d : Decimal} (h : readDecimal n.chars = some d) :
    decimal n.toText = .ok (.decimal d) := by
  rw [decimal, n.toList_toText, h]

lemma decimal_of_readDecimal_none (h : readDecimal n.chars = none) : decimal n.toText = float n.toText := by
  rw [decimal, n.toList_toText, h]

lemma decimal_eq_decimal_iff {d : Decimal} : decimal n.toText = .ok (.decimal d) ↔
    d.Rounds n.sign.negative n.magnitude (min n.places maxScale) := by
  rw [← n.rounding_readDecimal.eq_some_iff n.magnitude_nonneg]
  constructor
  · intro h
    cases hread : readDecimal n.chars with
    | some e =>
      rw [decimal_of_readDecimal_some n hread] at h
      cases h
      rfl
    | none =>
      obtain ⟨x, hx⟩ := exists_float n
      rw [decimal_of_readDecimal_none n hread, hx] at h
      cases h
  · exact decimal_of_readDecimal_some n

lemma decimal_of_too_large (h : 2 ^ 96 ≤ ⌊n.magnitude + 1 / 2⌋₊) : decimal n.toText = float n.toText :=
  decimal_of_readDecimal_none n ((n.rounding_readDecimal.eq_none_iff n.magnitude_nonneg).mpr h)

lemma exists_rounds (h : ⌊n.magnitude + 1 / 2⌋₊ < 2 ^ 96) : ∃ d : Decimal, decimal n.toText = .ok (.decimal d) ∧
    d.Rounds n.sign.negative n.magnitude (min n.places maxScale) := by
  cases hread : readDecimal n.chars with
  | some d =>
    exact ⟨d, decimal_of_readDecimal_some n hread, (n.rounding_readDecimal.eq_some_iff n.magnitude_nonneg).mp hread⟩
  | none => exact absurd ((n.rounding_readDecimal.eq_none_iff n.magnitude_nonneg).mp hread) (Nat.not_le.mpr h)

/-- A number is converted to the decimal that it is, if there is one. Any other number that fits 96 bits when it is
rounded to a whole one becomes the decimal that comes of rounding it half up, which is not that number; larger ones
become floats. -/
theorem decimal_rounds_half_up :
    (⌊n.magnitude + 1 / 2⌋₊ < 2 ^ 96 → ∃ d : Decimal, decimal n.toText = .ok (.decimal d) ∧
      d.Rounds n.sign.negative n.magnitude (min n.places maxScale) ∧ (d.value = n.value ↔ Held n.value)) ∧
    (2 ^ 96 ≤ ⌊n.magnitude + 1 / 2⌋₊ → ∃ x, decimal n.toText = .ok (.float x) ∧ float n.toText = .ok (.float x)) ∧
    (Held n.value → ∃ d : Decimal, decimal n.toText = .ok (.decimal d) ∧ d.value = n.value) := by
  have hexact : ∀ d : Decimal, d.Rounds n.sign.negative n.magnitude (min n.places maxScale) →
      (d.value = n.value ↔ Held n.value) := fun d hd =>
    ⟨fun hvalue => ⟨d, hd.fits, hd.places.trans (Nat.min_le_right _ _), hvalue⟩, n.value_of_rounds hd⟩
  refine ⟨fun hfits => ?_, fun hlarge => ?_, fun hheld => ?_⟩
  · obtain ⟨d, hd, hrounds⟩ := exists_rounds n hfits
    exact ⟨d, hd, hrounds, hexact d hrounds⟩
  · obtain ⟨x, hx⟩ := exists_float n
    exact ⟨x, (decimal_of_too_large n hlarge).trans hx, hx⟩
  · obtain ⟨p, hp, k, hk, hscaled⟩ := n.exists_scaled_of_held hheld
    have hfits : ⌊n.magnitude + 1 / 2⌋₊ < 2 ^ 96 := by
      have hmono := Decimal.floor_mono n.magnitude_nonneg (Nat.zero_le p)
      rw [pow_zero, mul_one, hscaled, Decimal.floor_add_half] at hmono
      exact hmono.trans_lt hk
    obtain ⟨d, hd, hrounds⟩ := exists_rounds n hfits
    exact ⟨d, hd, (hexact d hrounds).mpr hheld⟩

/-- An amount that a decimal holds, and one that is too large. -/
theorem decimal_rounds_half_up_amounts : ∃ n m : Numeral,
    (n.toText = "-1234.50" ∧ ⌊n.magnitude + 1 / 2⌋₊ < 2 ^ 96 ∧ Held n.value ∧
      (∃ d : Decimal, decimal n.toText = .ok (.decimal d) ∧ (d.value = n.value ↔ Held n.value)) ∧
      ∃ d : Decimal, decimal n.toText = .ok (.decimal d) ∧ d.value = n.value) ∧
    m.toText = "79228162514264337593543950335.5" ∧ 2 ^ 96 ≤ ⌊m.magnitude + 1 / 2⌋₊ ∧
      ∃ x, decimal m.toText = .ok (.float x) := by
  let n : Numeral := ⟨.minus, some (.literal ['1', '2', '3', '4'] (by decide)), .literal ['5', '0'] (by decide)⟩
  let m : Numeral := ⟨.bare, some (.literal "79228162514264337593543950335".toList (by decide +kernel)),
    .literal ['5'] (by decide)⟩
  have hn : n.magnitude = 2469 / 2 := by
    simp [n, Numeral.magnitude, Digits.value, Digits.literal, decimalValue, digitValue]
    norm_num
  have hm : m.magnitude = (2 ^ 97 - 1) / 2 := by
    simp [m, Numeral.magnitude, Digits.value, Digits.literal, decimalValue, digitValue]
    norm_num
  have hfits : ⌊n.magnitude + 1 / 2⌋₊ < 2 ^ 96 := by
    rw [hn]
    norm_num
  have hlarge : 2 ^ 96 ≤ ⌊m.magnitude + 1 / 2⌋₊ := by
    rw [hm]
    norm_num
  have hheld : Held n.value := by
    refine ⟨⟨true, 123450, 2⟩, by norm_num, by decide, ?_⟩
    rw [Numeral.value, hn]
    simp [n, Decimal.value, Decimal.numerator, Sign.factor, Sign.negative]
    norm_num
  obtain ⟨d, hd, -, hexact⟩ := (decimal_rounds_half_up n).1 hfits
  obtain ⟨x, hx, -⟩ := (decimal_rounds_half_up m).2.1 hlarge
  exact ⟨n, m, ⟨by decide +kernel, hfits, hheld, ⟨d, hd, hexact⟩, (decimal_rounds_half_up n).2.2 hheld⟩,
    by decide +kernel, hlarge, x, hx⟩

/-- More digits behind the point than a decimal has places: the last ones are rounded away, where a float was due. -/
theorem decimal_changes_long_fraction : ∃ (n : Numeral) (d : Decimal),
    n.toText = "1.12345678901234567890123456789" ∧ ¬Held n.value ∧ decimal n.toText = .ok (.decimal d) ∧
      d.value ≠ n.value := by
  let n : Numeral := ⟨.bare, some (.literal ['1'] (by decide)),
    .literal "12345678901234567890123456789".toList (by decide +kernel)⟩
  let d : Decimal := ⟨false, 11234567890123456789012345679, 28⟩
  have hd : decimal n.toText = .ok (.decimal d) := by decide +kernel
  have hne : d.value ≠ n.value := by
    simp [d, n, Decimal.value, Decimal.numerator, Numeral.value, Numeral.magnitude, Sign.factor, Sign.negative,
      Digits.value, Digits.literal, decimalValue, digitValue]
    norm_num
  have hheld : ¬Held n.value := fun hheld => hne (n.value_of_rounds ((decimal_eq_decimal_iff n).mp hd) hheld)
  exact ⟨n, d, by decide +kernel, hheld, hd, hne⟩

end Converter

end TypedPattern
