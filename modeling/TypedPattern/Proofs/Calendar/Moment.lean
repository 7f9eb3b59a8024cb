import TypedPattern.Proofs.Calendar.Written
import TypedPattern.Proofs.Text.Bytes

/-! Times of day, offsets and moments as they are written, and what is read of them. -/

namespace TypedPattern

open Text (Digits isDigit decimalValue)

namespace Text.Digits

variable {min : ℕ} {max : Option ℕ} (ds : Digits min max)

lemma ne_of_mem {c d : Char} (h : c ∈ ds.chars) (hd : isDigit d = false) : c ≠ d :=
  ne_of_isDigit (ds.digit c h) hd

lemma not_mem {d : Char} (hd : isDigit d = false) : d ∉ ds.chars :=
  fun h => ds.ne_of_mem h hd rfl

lemma byteLength_chars : byteLength ds.chars = ds.chars.length := by
  have hall : ∀ cs : List Char, (∀ c ∈ cs, isDigit c = true) → byteLength cs = cs.length := by
    intro cs hcs
    induction cs with
    | nil => rfl
    | cons c cs ih =>
      obtain ⟨hc, hcs⟩ := List.forall_mem_cons.mp hcs
      have hsize : c.utf8Size = 1 := by
        rw [Char.utf8Size_eq_one_iff, UInt32.le_iff_toNat_le]
        exact (isDigit_iff.mp hc).2.trans (by decide)
      rw [byteLength, ih hcs, hsize, List.length_cons, Nat.add_comm]
  exact hall ds.chars ds.digit

end Text.Digits

namespace Calendar

/-- A point in the place of a comma. -/
def point (c : Char) : Char :=
  if c = ',' then '.' else c

@[simp] lemma map_point_digits {min : ℕ} {max : Option ℕ} (ds : Digits min max) : ds.chars.map point = ds.chars := by
  conv_rhs => rw [← List.map_id ds.chars]
  exact List.map_congr_left fun c hc => if_neg (ds.ne_of_mem hc (by decide))

@[simp] lemma filter_colon_digits {min : ℕ} {max : Option ℕ} (ds : Digits min max) :
    ds.chars.filter (· != ':') = ds.chars :=
  List.filter_eq_self.mpr fun c hc => bne_iff_ne.mpr (ds.ne_of_mem hc (by decide))

@[simp] lemma count_colon_digits {min : ℕ} {max : Option ℕ} (ds : Digits min max) : ds.chars.count ':' = 0 :=
  List.count_eq_zero.mpr (ds.not_mem (by decide))

/-- A comma or a point, and the digits behind it. -/
structure WrittenFraction where
  comma : Bool
  digits : Digits 1 (some 12)

namespace WrittenFraction

variable (w : WrittenFraction)

def chars : List Char :=
  (if w.comma then ',' else '.') :: w.digits.chars

/-- What is less than a nanosecond is cut off. -/
def nanosecond : ℕ :=
  w.digits.value * 10 ^ 9 / 10 ^ w.digits.chars.length

lemma nanosecond_lt : w.nanosecond < 10 ^ 9 := by
  apply Nat.div_lt_of_lt_mul
  gcongr
  exact Text.decimalValue_lt w.digits.digit

lemma fraction_digits : fraction ('.' :: w.digits.chars) = .ok (w.nanosecond, []) := by
  -- nine digits are read at most, and what is behind them is skipped
  obtain ⟨front, back, hsplit, hfront, hback⟩ : ∃ front back, front ++ back = w.digits.chars ∧ front.length ≤ 9 ∧
      (front.length = 9 ∨ back = []) := by
    refine ⟨w.digits.chars.take 9, w.digits.chars.drop 9, List.take_append_drop 9 _, List.length_take_le 9 _, ?_⟩
    simp only [List.length_take, List.drop_eq_nil_iff]
    omega
  obtain ⟨hdigits, hrest⟩ := List.forall_mem_append.mp (hsplit ▸ w.digits.digit)
  have hne : front ≠ [] := by
    rintro rfl
    rcases hback with hlength | rfl
    · cases hlength
    · exact w.digits.chars_ne_nil hsplit.symm
  have hnumber : number (some 9) (front ++ back) = .ok (decimalValue front, back) :=
    number_append hdigits hne hfront (by omega) (hback.imp_right fun h => by simp [h])
  have hskip : back.dropWhile isDigit = [] := List.dropWhile_eq_nil_iff.mpr hrest
  have hvalue : w.nanosecond = decimalValue front * 10 ^ (9 - front.length) := by
    have hlt := Text.decimalValue_lt hrest
    rw [nanosecond, Digits.value, ← hsplit, Text.decimalValue_append, List.length_append]
    rcases hback with hlength | rfl
    · rw [hlength, pow_add, mul_comm (10 ^ 9), Nat.mul_div_mul_right _ _ (by positivity), Nat.add_comm,
        Nat.add_mul_div_right _ _ (by positivity), Nat.div_eq_of_lt hlt, Nat.zero_add, Nat.sub_self, pow_zero, mul_one]
    · rw [List.length_nil, Nat.add_zero, pow_zero, mul_one, ← Nat.sub_add_cancel hfront, pow_add, ← mul_assoc,
        Nat.mul_div_cancel _ (by positivity), Nat.add_sub_cancel]
      rfl
  have hpower : tenTo (9 - front.length) = 10 ^ (9 - front.length) := rfl
  rw [fraction, ← hsplit, hnumber, hvalue]
  simp [ok_bind, hskip, hpower]

end WrittenFraction

/-- A colon, one or two digits, and a fraction perhaps. -/
structure WrittenSecond where
  digits : Digits 1 (some 2)
  fraction : Option WrittenFraction

namespace WrittenSecond

variable (w : WrittenSecond)

def chars : List Char :=
  ':' :: (w.digits.chars ++ w.fraction.elim [] WrittenFraction.chars)

def nanosecond : ℕ :=
  w.fraction.elim 0 WrittenFraction.nanosecond

end WrittenSecond

/-- Hours and minutes, and seconds perhaps. -/
structure WrittenClock where
  hour : Digits 1 (some 2)
  minute : Digits 1 (some 2)
  second : Option WrittenSecond

namespace WrittenClock

variable (w : WrittenClock)

def chars : List Char :=
  w.hour.chars ++ ':' :: (w.minute.chars ++ w.second.elim [] WrittenSecond.chars)

def clock : Clock :=
  ⟨w.hour.value, w.minute.value, w.second.elim 0 (·.digits.value), w.second.elim 0 (·.nanosecond)⟩

lemma nanosecond_lt : w.clock.nanosecond < 10 ^ 9 := by
  obtain ⟨hour, minute, _ | ⟨digits, _ | f⟩⟩ := w
  · exact Nat.pow_pos (by omega)
  · exact Nat.pow_pos (by omega)
  · exact f.nanosecond_lt

lemma mem_chars : ∀ c ∈ w.chars, isDigit c = true ∨ c = ':' ∨ c = ',' ∨ c = '.' := by
  intro c hc
  obtain ⟨hour, minute, _ | ⟨digits, _ | f⟩⟩ := w <;>
    simp only [chars, WrittenSecond.chars, WrittenFraction.chars, Option.elim_none, Option.elim_some, List.mem_append,
      List.mem_cons, List.not_mem_nil] at hc <;>
    grind [Digits.digit]

lemma readClock_chars : readClock ((w.chars.map point).count ':' == 2) (w.chars.map point) =
    if w.clock.hour ≤ 23 ∧ w.clock.minute ≤ 59 ∧ w.clock.second ≤ 60 then .ok w.clock else .error .outOfRange := by
  obtain ⟨hour, minute, second⟩ := w
  have hcolon : ∀ {lo hi : ℕ} (ds : Digits 1 (some 2)) rest, field lo hi (ds.chars ++ ':' :: rest) =
      if lo ≤ ds.value ∧ ds.value ≤ hi then .ok (ds.value, ':' :: rest) else .error .outOfRange :=
    fun ds rest => field_append ds (by simp; decide)
  have hpoint : point ':' = ':' := by decide
  -- a second colon tells that there are seconds
  rcases second with _ | ⟨digits, _ | f⟩
  · simp [chars, clock, hpoint, readClock, hcolon, field_end, mark_cons, finish, ok_bind, ite_bind, ← ite_and]
  · have hend : fraction [] = .ok (0, []) := rfl
    simp [chars, clock, hpoint, WrittenSecond.chars, WrittenSecond.nanosecond, readClock, hcolon, field_end, mark_cons,
      hend, finish, ok_bind, ite_bind, ← ite_and]
    rfl
  · have hmark : point (if f.comma = true then ',' else '.') = '.' := by split <;> decide
    have hsecond : field 0 60 (digits.chars ++ '.' :: f.digits.chars) =
        if 0 ≤ digits.value ∧ digits.value ≤ 60 then .ok (digits.value, '.' :: f.digits.chars)
        else .error .outOfRange :=
      field_append digits (by simp; decide)
    simp [chars, clock, hpoint, WrittenSecond.chars, WrittenSecond.nanosecond, WrittenFraction.chars, hmark, readClock,
      hcolon, hsecond, mark_cons, f.fraction_digits, finish, ok_bind, ite_bind, ← ite_and]
    rfl

end WrittenClock

/-- A letter for universal time, or a sign, hours and, behind a colon perhaps, minutes. -/
inductive WrittenOffset where
  | universal (lower : Bool)
  | shift (negative : Bool) (hours : Digits 2 (some 2)) (rest : Option (Bool × Digits 2 (some 2)))

namespace WrittenOffset

def shiftChars (hours : Digits 2 (some 2)) (rest : Option (Bool × Digits 2 (some 2))) : List Char :=
  hours.chars ++ rest.elim [] fun (colon, ds) => if colon then ':' :: ds.chars else ds.chars

def chars : WrittenOffset → List Char
  | universal lower => [if lower then 'z' else 'Z']
  | shift negative hours rest => (if negative then '-' else '+') :: shiftChars hours rest

def minutes : WrittenOffset → ℕ
  | universal _ => 0
  | shift _ hours rest => 60 * hours.value + rest.elim 0 (·.2.value)

def seconds : WrittenOffset → ℤ
  | universal _ => 0
  | shift negative hours rest => (if negative then -1 else 1) * (3600 * hours.value + 60 * rest.elim 0 (·.2.value) : ℕ)

lemma natAbs_seconds (o : WrittenOffset) : o.seconds.natAbs = 60 * o.minutes := by
  cases o with
  | universal => rfl
  | shift negative hours rest =>
    cases negative <;> simp [seconds, minutes] <;> omega

lemma mem_shiftChars {hours : Digits 2 (some 2)} {rest : Option (Bool × Digits 2 (some 2))} :
    ∀ c ∈ shiftChars hours rest, isDigit c = true ∨ c = ':' := by
  intro c hc
  rcases rest with _ | ⟨_ | _, ds⟩ <;> simp [shiftChars] at hc <;> grind [Digits.digit]

lemma read_twoDigits (ds : Digits 2 (some 2)) : Integer.read 32 ds.chars = .ok (ds.value : ℤ) := by
  have hlt := ds.value_lt
  have h := Integer.read_append .bare ds 32
  simpa [Sign.chars, Sign.negative, show ds.value < 2147483648 by omega] using h

/-- Two bytes of hours, and then the minutes, once the colons are gone. -/
lemma readOffset_of_read {negative : Bool} {cs hs ms : List Char} {h m : ℤ} (hcs : cs.filter (· != ':') = hs ++ ms)
    (hlength : Text.byteLength hs = 2) (hhours : Integer.read 32 hs = .ok h)
    (hminutes : ms = [] ∧ m = 0 ∨ Integer.read 32 ms = .ok m) :
    readOffset negative cs = if -86400 < (if negative then -1 else 1) * (h * 3600 + m * 60) ∧
      (if negative then -1 else 1) * (h * 3600 + m * 60) < 86400 then
        .ok ((if negative then -1 else 1) * (h * 3600 + m * 60)) else .error .offsetRange := by
  have htake := Text.takeBytes_append hs ms
  have hdrop := Text.dropBytes_append hs ms
  rw [hlength] at htake hdrop
  simp only [readOffset, hcs, htake, hdrop, hhours, Option.getD_some, Except.mapError, ok_bind]
  rcases hminutes with ⟨rfl, rfl⟩ | hminutes
  · rfl
  · cases ms with
    | nil => cases hminutes
    | cons c ms => simp only [hminutes, ok_bind]

lemma readOffset_shiftChars (negative : Bool) (hours : Digits 2 (some 2)) (rest : Option (Bool × Digits 2 (some 2))) :
    readOffset negative (shiftChars hours rest) = if (shift negative hours rest).minutes < 1440 then
      .ok (shift negative hours rest).seconds else .error .offsetRange := by
  have hlength : Text.byteLength hours.chars = 2 :=
    hours.byteLength_chars.trans (Nat.le_antisymm (hours.most 2 rfl) hours.least)
  have hfilter : (shiftChars hours rest).filter (· != ':') = hours.chars ++ rest.elim [] (·.2.chars) := by
    rcases rest with _ | ⟨_ | _, ds⟩ <;> simp [shiftChars]
  have hminutes : rest.elim [] (·.2.chars) = [] ∧ (rest.elim 0 (·.2.value) : ℕ) = (0 : ℤ) ∨
      Integer.read 32 (rest.elim [] (·.2.chars)) = .ok ((rest.elim 0 (·.2.value) : ℕ) : ℤ) := by
    rcases rest with _ | ⟨_, ds⟩
    · exact Or.inl ⟨rfl, rfl⟩
    · exact Or.inr (read_twoDigits ds)
  rw [readOffset_of_read hfilter hlength (read_twoDigits hours) hminutes]
  refine if_congr ?_ (congrArg _ ?_) rfl
  · rw [minutes]
    cases negative <;> simp <;> omega
  · rw [seconds]
    push_cast
    ring

end WrittenOffset

namespace WrittenClock

variable (w : WrittenClock) (o : WrittenOffset)

lemma ne_of_mem {d : Char} (h : isDigit d = false ∧ d ≠ ':' ∧ d ≠ ',' ∧ d ≠ '.') : ∀ c ∈ w.chars, c ≠ d := by
  intro c hc
  rcases w.mem_chars c hc with hc | rfl | rfl | rfl
  exacts [Text.ne_of_isDigit hc h.1, h.2.1.symm, h.2.2.1.symm, h.2.2.2.symm]

lemma not_sign_of_mem : ∀ c ∈ w.chars, (!isSign c) = true := fun c hc => by
  simp [isSign, w.ne_of_mem (d := '+') (by decide) c hc, w.ne_of_mem (d := '-') (by decide) c hc]

lemma not_letter_of_mem : ∀ c ∈ w.chars, c ≠ 'Z' ∧ c ≠ 'z' :=
  fun c hc => ⟨w.ne_of_mem (d := 'Z') (by decide) c hc, w.ne_of_mem (d := 'z') (by decide) c hc⟩

lemma not_universal {cs : List Char} (h : ∀ c ∈ cs, c ≠ 'Z' ∧ c ≠ 'z') :
    ¬(cs.getLast? = some 'Z' ∨ cs.getLast? = some 'z') := by
  rintro (hlast | hlast)
  · exact (h _ (List.mem_of_getLast? hlast)).1 rfl
  · exact (h _ (List.mem_of_getLast? hlast)).2 rfl

lemma cutOffset_chars : cutOffset w.chars = .ok (w.chars, none) := by
  have hnone : w.chars.dropWhile (fun c => !isSign c) = [] := List.dropWhile_eq_nil_iff.mpr w.not_sign_of_mem
  simp only [cutOffset, not_universal w.not_letter_of_mem, hnone, if_false]

lemma cutOffset_append : cutOffset (w.chars ++ o.chars) =
    if o.minutes < 1440 then .ok (w.chars, some o.seconds) else .error .offsetRange := by
  cases o with
  | universal lower => simp [cutOffset, WrittenOffset.chars, WrittenOffset.minutes, WrittenOffset.seconds]
  | shift negative hours rest =>
    have hletter : ∀ c ∈ w.chars ++ (WrittenOffset.shift negative hours rest).chars, c ≠ 'Z' ∧ c ≠ 'z' := by
      refine List.forall_mem_append.mpr ⟨w.not_letter_of_mem, List.forall_mem_cons.mpr ⟨?_, fun c hc => ?_⟩⟩
      · cases negative <;> decide
      · rcases WrittenOffset.mem_shiftChars c hc with hdigit | rfl
        · exact ⟨Text.ne_of_isDigit hdigit (by decide), Text.ne_of_isDigit hdigit (by decide)⟩
        · decide
    have hsign : isSign (if negative then '-' else '+') = true := by cases negative <;> rfl
    have hminus : ((if negative then '-' else '+') == '-') = negative := by cases negative <;> rfl
    -- the first sign is that of the offset
    simp only [cutOffset, not_universal hletter, if_false]
    rw [WrittenOffset.chars, List.takeWhile_append_of_pos w.not_sign_of_mem,
      List.dropWhile_append_of_pos w.not_sign_of_mem]
    simp [hsign, hminus, WrittenOffset.readOffset_shiftChars]
    split_ifs <;> rfl

end WrittenClock

lemma WrittenDate.not_timeMark_of_mem (w : WrittenDate) : ∀ c ∈ w.chars, (!isTimeMark c) = true := fun c hc => by
  rcases w.mem_chars c hc with hdigit | rfl
  · simp [isTimeMark, Text.ne_of_isDigit hdigit (d := 'T') (by decide), Text.ne_of_isDigit hdigit (d := 't') (by decide),
      Text.ne_of_isDigit hdigit (d := ' ') (by decide)]
  · decide

/-- A date and a time of day, with a mark between them, and an offset perhaps. -/
structure WrittenMoment where
  date : WrittenDate
  mark : Char
  isTimeMark_mark : isTimeMark mark = true
  clock : WrittenClock
  offset : Option WrittenOffset

namespace WrittenMoment

variable (w : WrittenMoment)

def chars : List Char :=
  w.date.chars ++ w.mark :: (w.clock.chars ++ w.offset.elim [] WrittenOffset.chars)

def moment : Moment :=
  ⟨w.date.date, w.clock.clock⟩

lemma dayNumber_mem {d : Date} (hyear : 0 ≤ d.year ∧ d.year ≤ 9999) (hmonth : d.month ≤ 12) (hday : d.day ≤ 31) :
    -400 ≤ d.dayNumber ∧ d.dayNumber ≤ 3652500 := by
  simp only [Date.dayNumber, daysBeforeMarch]
  split <;> dsimp only <;> omega

/-- The years of four digits are far from the ends of those that the calendar covers. -/
lemma covered {seconds : ℤ} (hdate : w.date.date.Exists) (hhour : w.clock.clock.hour ≤ 23)
    (hminute : w.clock.clock.minute ≤ 59) (hseconds : seconds.natAbs < 86400) :
    (ZonedMoment.mk w.moment seconds).Covered := by
  have hdays := dayNumber_mem w.date.year_mem hdate.2.1 (hdate.2.2.2.trans (daysInMonth_le _ _))
  have hfirst : (Date.mk minYear 1 1).dayNumber = -95745823 := by decide +kernel
  have hlast : (Date.mk maxYear 12 31).dayNumber = 95745705 := by decide +kernel
  simp only [ZonedMoment.Covered, Moment.seconds, moment, hfirst, hlast]
  omega

lemma readMoment_chars : readMoment w.chars =
    if w.date.date.Exists then
      if w.offset.elim 0 WrittenOffset.minutes < 1440 then
        if w.clock.clock.hour ≤ 23 ∧ w.clock.clock.minute ≤ 59 ∧ w.clock.clock.second ≤ 60 then
          .ok (w.moment, w.offset.map WrittenOffset.seconds)
        else .error .outOfRange
      else .error .offsetRange
    else .error .outOfRange := by
  have hdate := w.date.not_timeMark_of_mem
  have hcut : cutOffset (w.clock.chars ++ w.offset.elim [] WrittenOffset.chars) =
      if w.offset.elim 0 WrittenOffset.minutes < 1440 then .ok (w.clock.chars, w.offset.map WrittenOffset.seconds)
      else .error .offsetRange := by
    cases w.offset with
    | none => simpa using w.clock.cutOffset_chars
    | some o => exact w.clock.cutOffset_append o
  have hpoint : (fun c => if c = ',' then '.' else c) = point := rfl
  have hdrop : w.chars.dropWhile (fun c => !isTimeMark c) =
      w.mark :: (w.clock.chars ++ w.offset.elim [] WrittenOffset.chars) := by
    rw [chars, List.dropWhile_append_of_pos hdate, List.dropWhile_cons_of_neg (by simp [w.isTimeMark_mark])]
  have htake : w.chars.takeWhile (fun c => !isTimeMark c) = w.date.chars := by
    rw [chars, List.takeWhile_append_of_pos hdate, List.takeWhile_cons_of_neg (by simp [w.isTimeMark_mark]),
      List.append_nil]
  simp only [readMoment, hdrop, htake, w.date.readDate_chars, ite_bind, hcut, hpoint, w.clock.readClock_chars]
  -- the offset of a time of day that exists never leads out of the calendar
  refine ite_congr rfl (fun hexists => ite_congr rfl (fun hminutes => ite_congr rfl (fun hclock => ?_) fun _ => rfl)
    fun _ => rfl) fun _ => rfl
  cases hoffset : w.offset with
  | none => rfl
  | some o =>
    have hless : 60 * o.minutes < 86400 := by
      simp only [hoffset, Option.elim_some] at hminutes
      omega
    exact if_pos (w.covered hexists hclock.1 hclock.2.1 (o.natAbs_seconds ▸ hless))

end WrittenMoment

end Calendar

end TypedPattern
