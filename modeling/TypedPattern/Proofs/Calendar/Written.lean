import TypedPattern.Calendar.Reader
import TypedPattern.Proofs.Number.Whole

/-! Dates, times and offsets as they are written in digits, and what is read of them. -/

namespace TypedPattern.Calendar

open Text (Digits isDigit decimalValue)

lemma ite_bind {ε α β : Type} {p : Prop} [Decidable p] {a : α} {e : ε} {f : α → Except ε β} :
    ((if p then Except.ok a else .error e) >>= f) = if p then f a else .error e := by
  split_ifs <;> rfl

lemma ok_bind {ε α β : Type} {a : α} {f : α → Except ε β} : (Except.ok a >>= f) = f a :=
  rfl

section Fields

variable {cs rest : List Char} {lo hi width : ℕ}

lemma number_append (hcs : ∀ c ∈ cs, isDigit c = true) (hne : cs ≠ []) (hle : cs.length ≤ width) (hw : width ≤ 18)
    (hrest : cs.length = width ∨ ∀ c ∈ rest.head?, isDigit c = false) :
    number (some width) (cs ++ rest) = .ok (decimalValue cs, rest) := by
  have htake : ((cs ++ rest).takeWhile isDigit).take width = cs := by
    rw [List.takeWhile_append_of_pos hcs]
    rcases hrest with hlength | hrest
    · rw [← hlength, List.take_left]
    · rw [show rest.takeWhile isDigit = [] by cases rest <;> simp_all, List.append_nil, List.take_of_length_le hle]
  have hsmall : ¬maxInt64 < decimalValue cs := by
    have hlt := Text.decimalValue_lt hcs
    have hpow : 10 ^ cs.length ≤ 10 ^ 18 := Nat.pow_le_pow_right (by omega) (hle.trans hw)
    rw [show maxInt64 = 2 ^ 63 - 1 from rfl]
    omega
  simp [number, htake, hne, hsmall]

lemma skipWhite_digits (hcs : ∀ c ∈ cs, isDigit c = true) (hne : cs ≠ []) : skipWhite (cs ++ rest) = cs ++ rest := by
  obtain ⟨c, ds, rfl⟩ := List.exists_cons_of_ne_nil hne
  have hwhite := (not_white_of_graph (graph_of_hexDigit (isHexDigit_iff.mpr (Or.inl (isDigit_iff.mp
    (hcs c List.mem_cons_self))))).1)
  simp [skipWhite, hwhite]

lemma field_append (ds : Digits 1 (some 2)) (hrest : ∀ c ∈ rest.head?, isDigit c = false) :
    field lo hi (ds.chars ++ rest) =
      if lo ≤ ds.value ∧ ds.value ≤ hi then .ok (ds.value, rest) else .error .outOfRange := by
  rw [field, skipWhite_digits ds.digit ds.chars_ne_nil,
    number_append ds.digit ds.chars_ne_nil (ds.most 2 rfl) (by omega) (Or.inr hrest)]
  rfl

lemma field_end (ds : Digits 1 (some 2)) :
    field lo hi ds.chars = if lo ≤ ds.value ∧ ds.value ≤ hi then .ok (ds.value, []) else .error .outOfRange := by
  rw [← List.append_nil ds.chars]
  exact field_append ds (by simp)

lemma mark_cons (c : Char) : mark c (c :: rest) = .ok rest :=
  if_pos rfl

lemma year_append (ds : Digits 4 (some 4)) : year (ds.chars ++ rest) = .ok (ds.value, rest) := by
  have hlt := ds.value_lt
  have hlength : ds.chars.length = 4 := Nat.le_antisymm (ds.most 4 rfl) ds.least
  have hnumber : number (some 4) (ds.chars ++ rest) = .ok (ds.value, rest) :=
    number_append ds.digit ds.chars_ne_nil hlength.le (by omega) (Or.inl hlength)
  have hrange : -(twoTo 31 : ℤ) ≤ ds.value ∧ (ds.value : ℤ) < twoTo 31 := by
    rw [show twoTo 31 = 2 ^ 31 from rfl]
    omega
  obtain ⟨c, cs, hcs⟩ := List.exists_cons_of_ne_nil ds.chars_ne_nil
  have hc := ds.digit c (hcs ▸ List.mem_cons_self)
  have hminus : c ≠ '-' := Text.ne_of_isDigit hc (by decide)
  have hplus : c ≠ '+' := Text.ne_of_isDigit hc (by decide)
  rw [hcs, List.cons_append] at hnumber
  rw [year, skipWhite_digits ds.digit ds.chars_ne_nil, hcs, List.cons_append]
  simp [hminus, hplus, hnumber, Except.map, Bind.bind, Except.bind, hrange]

end Fields

/-- A date of four, one or two, and one or two digits. -/
structure WrittenDate where
  year : Digits 4 (some 4)
  month : Digits 1 (some 2)
  day : Digits 1 (some 2)

/-- A day of the calendar. -/
def Date.Exists (d : Date) : Prop :=
  1 ≤ d.month ∧ d.month ≤ 12 ∧ 1 ≤ d.day ∧ d.day ≤ daysInMonth d.year d.month

instance (d : Date) : Decidable d.Exists := by
  unfold Date.Exists
  infer_instance

lemma daysInMonth_le (year : ℤ) (month : ℕ) : daysInMonth year month ≤ 31 := by
  unfold daysInMonth
  split_ifs <;> omega

namespace WrittenDate

variable (w : WrittenDate)

def chars : List Char :=
  w.year.chars ++ '-' :: (w.month.chars ++ '-' :: w.day.chars)

def date : Date :=
  ⟨w.year.value, w.month.value, w.day.value⟩

lemma year_mem : 0 ≤ w.date.year ∧ w.date.year ≤ 9999 :=
  ⟨Int.natCast_nonneg _, Int.lt_add_one_iff.mp (Nat.cast_lt.mpr w.year.value_lt)⟩

lemma mem_chars : ∀ c ∈ w.chars, isDigit c = true ∨ c = '-' := by
  intro c hc
  simp only [chars, List.mem_append, List.mem_cons] at hc
  grind [Digits.digit]

lemma valid_iff : w.date.Valid ↔ w.date.Exists := by
  have hyear := w.year_mem
  simp only [Date.Valid, Date.Exists, minYear, maxYear]
  omega

lemma readDate_chars : readDate w.chars = if w.date.Exists then .ok w.date else .error .outOfRange := by
  have hmonth : field 1 12 (w.month.chars ++ '-' :: w.day.chars) =
      if 1 ≤ w.month.value ∧ w.month.value ≤ 12 then .ok (w.month.value, '-' :: w.day.chars) else .error .outOfRange :=
    field_append w.month (by simp; decide)
  simp only [readDate, chars, year_append, mark_cons, hmonth, field_end, finish, ok_bind, ite_bind, ← ite_and]
  refine if_congr ?_ rfl rfl
  have hday := daysInMonth_le w.date.year w.date.month
  change _ ∧ _ ∧ w.date.Valid ↔ _
  rw [w.valid_iff, Date.Exists]
  simp only [date] at hday ⊢
  omega

end WrittenDate

end TypedPattern.Calendar
