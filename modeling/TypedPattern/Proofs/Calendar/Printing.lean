import TypedPattern.Proofs.Calendar.Existence

/-! Dates and moments are printed in a form that is read back to them. -/

namespace TypedPattern.Calendar

open Text (Digits isDigit)

def twoDigitsOf {min : ℕ} (n : ℕ) (hmin : min ≤ 2) (hn : n < 100) : Digits min (some 2) :=
  .padded 2 n hmin (by simp) (by omega) hn

section TwoDigits

variable {min n : ℕ} {hmin : min ≤ 2} {hn : n < 100}

@[simp] lemma chars_twoDigitsOf : (twoDigitsOf n hmin hn).chars = twoDigits n :=
  rfl

@[simp] lemma value_twoDigitsOf : (twoDigitsOf n hmin hn).value = n :=
  Digits.value_padded hmin _ _ hn

end TwoDigits

lemma Date.exists_written {d : Date} (hyear : 0 ≤ d.year ∧ d.year ≤ 9999) (h : d.Exists) :
    ∃ w : WrittenDate, w.chars = d.chars ∧ w.date = d := by
  obtain ⟨year, month, day⟩ := d
  obtain ⟨y, rfl⟩ := Int.eq_ofNat_of_zero_le hyear.1
  have hy : y < 10 ^ 4 := by
    have := hyear.2
    dsimp only at this
    omega
  have hday := h.2.2.2.trans (daysInMonth_le _ _)
  have hmonth := h.2.1
  dsimp only at hday hmonth
  have htext : yearText y = Text.padLeft 4 (Text.decimal y) := by
    simp only [yearText, Int.natAbs_natCast]
    rw [if_neg (by omega), if_neg (by omega)]
  refine ⟨⟨.padded 4 y (by omega) (by simp) (by omega) hy, twoDigitsOf month (by omega) (by omega),
    twoDigitsOf day (by omega) (by omega)⟩, ?_, ?_⟩
  · simp [WrittenDate.chars, Date.chars, htext, Digits.padded]
  · simp [WrittenDate.date, Digits.value_padded]

section Fractions

variable {n width : ℕ}

lemma exists_fraction_digits (hpos : 0 < width) (hwidth : width ≤ 9) (hn : n < 10 ^ 9) (h : n % 10 ^ (9 - width) = 0) :
    ∃ f : WrittenFraction, f.chars = '.' :: Text.padLeft width (Text.decimal (n / 10 ^ (9 - width))) ∧
      f.nanosecond = n := by
  have hpower : 10 ^ 9 = 10 ^ (9 - width) * 10 ^ width := by rw [← pow_add, Nat.sub_add_cancel hwidth]
  have hlt : n / 10 ^ (9 - width) < 10 ^ width := Nat.div_lt_of_lt_mul (hpower ▸ hn)
  refine ⟨⟨false, .padded width _ hpos (fun m hm => ?_) hpos hlt⟩, rfl, ?_⟩
  · obtain rfl := Option.some.inj hm
    omega
  · rw [WrittenFraction.nanosecond, Digits.value_padded, Digits.padded, Text.length_padded hpos hlt, hpower,
      ← mul_assoc, Nat.div_mul_cancel (Nat.dvd_of_mod_eq_zero h), Nat.mul_div_cancel _ (by positivity)]

lemma exists_writtenFraction (hn : n < 10 ^ 9) : ∃ f : Option WrittenFraction,
    f.elim [] WrittenFraction.chars = fractionText n ∧ f.elim 0 WrittenFraction.nanosecond = n := by
  unfold fractionText
  split_ifs with hzero hmilli hmicro
  · exact ⟨none, rfl, hzero.symm⟩
  · obtain ⟨f, hf⟩ := exists_fraction_digits (show 0 < 3 by omega) (by omega) hn hmilli
    exact ⟨some f, hf⟩
  · obtain ⟨f, hf⟩ := exists_fraction_digits (show 0 < 6 by omega) (by omega) hn hmicro
    exact ⟨some f, hf⟩
  · obtain ⟨f, hf⟩ := exists_fraction_digits (show 0 < 9 by omega) (by omega) hn (Nat.mod_one n)
    rw [Nat.sub_self, pow_zero, Nat.div_one] at hf
    exact ⟨some f, hf⟩

end Fractions

lemma Clock.exists_written {t : Clock} (h : t.Valid) : ∃ w : WrittenClock, w.chars = t.chars ∧ w.clock = t := by
  obtain ⟨hour, minute, second, nanosecond⟩ := t
  obtain ⟨hhour, hminute, hsecond, hnanosecond⟩ := h
  obtain ⟨f, hchars, hvalue⟩ := exists_writtenFraction hnanosecond
  dsimp only at hhour hminute hsecond
  refine ⟨⟨twoDigitsOf hour (by omega) (by omega), twoDigitsOf minute (by omega) (by omega),
    some ⟨twoDigitsOf second (by omega) (by omega), f⟩⟩, ?_, ?_⟩
  · simp [WrittenClock.chars, WrittenSecond.chars, Clock.chars, hchars]
  · simp [WrittenClock.clock, WrittenSecond.nanosecond, hvalue]

lemma exists_writtenOffset {n : ℕ} {offset : ℤ} (hn : n < 1440) (h : offset.natAbs = 60 * n) :
    ∃ o : WrittenOffset, o.chars = offsetChars offset ∧ o.seconds = offset ∧ o.minutes = n := by
  have hhours : offset.natAbs / 3600 = n / 60 := by omega
  have hminutes : offset.natAbs / 60 % 60 = n % 60 := by omega
  refine ⟨.shift (offset < 0) (twoDigitsOf (n / 60) (by omega) (by omega))
    (some (true, twoDigitsOf (n % 60) (by omega) (by omega))), ?_, ?_, ?_⟩
  · simp [WrittenOffset.chars, WrittenOffset.shiftChars, offsetChars, hhours, hminutes]
  · simp only [WrittenOffset.seconds, value_twoDigitsOf, Option.elim_some, decide_eq_true_eq]
    split_ifs <;> omega
  · simp only [WrittenOffset.minutes, value_twoDigitsOf, Option.elim_some]
    omega

namespace WrittenMoment

lemma exists_printed {w : WrittenMoment} (h : w.Exists) :
    ∃ w' : WrittenMoment, w'.toText = w.value.toText ∧ w'.Exists ∧ w'.value = w.value := by
  obtain ⟨hexists, hhour, hminute, hsecond, hoffset⟩ := h
  obtain ⟨d, hdchars, hdate⟩ := Date.exists_written w.date.year_mem hexists
  obtain ⟨c, hcchars, hclock⟩ := Clock.exists_written ⟨hhour, hminute, hsecond, w.clock.nanosecond_lt⟩
  have hchars : d.chars ++ 'T' :: c.chars = w.moment.chars := by rw [hdchars, hcchars, Moment.chars, moment]
  rw [← hdate] at hexists
  rw [← hclock] at hhour hminute hsecond
  cases ho : w.offset with
  | none =>
    refine ⟨⟨d, 'T', rfl, c, none⟩, ?_, ⟨hexists, hhour, hminute, hsecond, by simp⟩, ?_⟩
    · simp only [value, ho, Value.toText, toText, Moment.toText, ← hchars, chars, Option.elim_none, List.append_nil]
    · simp only [value, ho, moment, hdate, hclock]
  | some o =>
    obtain ⟨o', hochars, hseconds, hminutes⟩ := exists_writtenOffset (hoffset o ho) o.natAbs_seconds
    refine ⟨⟨d, 'T', rfl, c, some o'⟩, ?_, ⟨hexists, hhour, hminute, hsecond, ?_⟩, ?_⟩
    · simp only [value, ho, Value.toText, toText, ZonedMoment.toText, ← hchars, ← hochars, chars, Option.elim_some,
        List.append_assoc, List.cons_append]
    · rintro o'' ho''
      obtain rfl := Option.some.inj ho''
      exact hminutes ▸ hoffset o ho
    · simp only [value, ho, moment, hdate, hclock, hseconds]

end WrittenMoment

end TypedPattern.Calendar

namespace TypedPattern.Converter

open Calendar

lemma date_printed {w : WrittenDate} {v : Value} (h : date w.toText = .ok v) : date v.toText = .ok v := by
  rw [date_toText] at h
  split_ifs at h with hexists
  obtain rfl := Except.ok.inj h
  obtain ⟨w', hchars, hdate⟩ := Date.exists_written w.year_mem hexists
  have htext : (Value.date w.date).toText = w'.toText := by rw [WrittenDate.toText, hchars]; rfl
  rw [htext, date_toText, hdate, if_pos hexists]

lemma datetime_printed {w : WrittenMoment} {v : Value} (h : datetime w.toText = .ok v) : datetime v.toText = .ok v := by
  have hexists := exists_of_datetime_toText h
  obtain rfl := Except.ok.inj ((datetime_toText_of_exists hexists).symm.trans h)
  obtain ⟨w', htext, hexists', hvalue⟩ := WrittenMoment.exists_printed hexists
  rw [← htext, datetime_toText_of_exists hexists', hvalue]

end TypedPattern.Converter
