import TypedPattern.Proofs.Conversion
import TypedPattern.Proofs.Calendar.Moment

/-! Dates and moments are converted exactly if they exist, to what is written. -/

namespace TypedPattern

open Regex (Core)
open Text (Digits isDigit)
open Calendar

namespace Fragment

def someDigitsCore (min more : ℕ) : Core :=
  .repetition min (some more) true (.chars ⟨[⟨48, 57⟩]⟩)

def optionalCore (body : Core) : Core :=
  .repetition 0 (some 1) true body

def hyphenMark : Core :=
  .literal ['-']

def colonMark : Core :=
  .literal [':']

def dateCore : Core :=
  [hyphenMark, someDigitsCore 1 1, hyphenMark, someDigitsCore 1 1].foldl .seq (someDigitsCore 4 0)

def timeMarkCore (caseInsensitive : Bool) : Core :=
  .chars (if caseInsensitive then ⟨[⟨32, 32⟩, ⟨84, 84⟩, ⟨116, 116⟩]⟩ else ⟨[⟨32, 32⟩, ⟨84, 84⟩]⟩)

def fractionCore : Core :=
  .seq (.chars ⟨[⟨44, 44⟩, ⟨46, 46⟩]⟩) (someDigitsCore 1 11)

def secondCore : Core :=
  .seq (.seq colonMark (someDigitsCore 1 1)) (optionalCore fractionCore)

def universalCore (caseInsensitive : Bool) : Core :=
  if caseInsensitive then .chars ⟨[⟨90, 90⟩, ⟨122, 122⟩]⟩ else .literal ['Z']

def shiftCore : Core :=
  .seq (.seq (.chars ⟨[⟨43, 43⟩, ⟨45, 45⟩]⟩) (someDigitsCore 2 0))
    (optionalCore (.seq (optionalCore colonMark) (someDigitsCore 2 0)))

def datetimeCore (caseInsensitive : Bool) : Core :=
  [timeMarkCore caseInsensitive, someDigitsCore 1 1, colonMark, someDigitsCore 1 1, optionalCore secondCore,
    optionalCore (.alt (universalCore caseInsensitive) shiftCore)].foldl .seq dateCore

lemma means_date : Means date fun _ r => r == dateCore :=
  means_of_spelled ⟨_, rfl⟩ (by decide +kernel)

lemma means_datetime : Means datetime fun caseInsensitive r => r == datetimeCore caseInsensitive :=
  means_of_spelled spelledDatetime (by decide +kernel)

variable {w : List Char} {caseInsensitive : Bool}

lemma spells_someDigitsCore {min more : ℕ} (h : (someDigitsCore min more).Spells w) :
    ∃ ds : Digits min (some (min + more)), ds.chars = w := by
  obtain ⟨hmin, hmax, hall⟩ := h.repeated_chars
  refine ⟨⟨w, fun c hc => CharSet.forall_contains (by decide) (hall c hc), hmin, fun m hm => ?_⟩, rfl⟩
  exact Option.some.inj hm ▸ hmax more rfl

lemma spells_dateCore (h : dateCore.Spells w) : ∃ d : WrittenDate, d.chars = w := by
  obtain ⟨_, _, ⟨_, _, ⟨_, _, ⟨_, _, hyear, rfl, rfl⟩, hmonth, rfl⟩, rfl, rfl⟩, hday, rfl⟩ := h
  obtain ⟨year, rfl⟩ := spells_someDigitsCore hyear
  obtain ⟨month, rfl⟩ := spells_someDigitsCore hmonth
  obtain ⟨day, rfl⟩ := spells_someDigitsCore hday
  exact ⟨⟨year, month, day⟩, by simp [WrittenDate.chars]⟩

lemma spells_optionalCore {α : Type} {chars : α → List Char} {body : Core}
    (hbody : ∀ {w}, body.Spells w → ∃ a, chars a = w) (h : (optionalCore body).Spells w) :
    ∃ o : Option α, o.elim [] chars = w := by
  rcases h.maybe with rfl | h
  · exact ⟨none, rfl⟩
  · obtain ⟨a, ha⟩ := hbody h
    exact ⟨some a, ha⟩

lemma exists_flag {set : CharSet} {a b c : Char} (h : (set.ranges.all fun r =>
    (List.range' r.lo (r.hi + 1 - r.lo)).all fun n => Char.ofNat n == a || Char.ofNat n == b) = true)
    (hc : set.contains c = true) : ∃ flag : Bool, (if flag then a else b) = c := by
  have hc := CharSet.forall_contains (f := fun c => c == a || c == b) h hc
  rw [Bool.or_eq_true, beq_iff_eq, beq_iff_eq] at hc
  rcases hc with rfl | rfl
  · exact ⟨true, rfl⟩
  · exact ⟨false, rfl⟩

lemma spells_fractionCore (h : fractionCore.Spells w) : ∃ f : WrittenFraction, f.chars = w := by
  obtain ⟨_, _, ⟨c, hc, rfl⟩, hdigits, rfl⟩ := h
  obtain ⟨ds, rfl⟩ := spells_someDigitsCore hdigits
  obtain ⟨comma, rfl⟩ := exists_flag (a := ',') (b := '.') (by decide) hc
  exact ⟨⟨comma, ds⟩, rfl⟩

lemma spells_secondCore (h : secondCore.Spells w) : ∃ s : WrittenSecond, s.chars = w := by
  obtain ⟨_, _, ⟨_, _, rfl, hdigits, rfl⟩, hfraction, rfl⟩ := h
  obtain ⟨ds, rfl⟩ := spells_someDigitsCore hdigits
  obtain ⟨fraction, rfl⟩ := spells_optionalCore spells_fractionCore hfraction
  exact ⟨⟨ds, fraction⟩, rfl⟩

lemma spells_offset (h : (Core.alt (universalCore caseInsensitive) shiftCore).Spells w) :
    ∃ o : WrittenOffset, o.chars = w := by
  rcases h with h | ⟨_, _, ⟨_, _, ⟨c, hc, rfl⟩, hhours, rfl⟩, hrest, rfl⟩
  · cases caseInsensitive with
    | false => exact ⟨.universal false, h.symm⟩
    | true =>
      obtain ⟨c, hc, rfl⟩ := h
      obtain ⟨lower, rfl⟩ := exists_flag (a := 'z') (b := 'Z') (by decide) hc
      exact ⟨.universal lower, rfl⟩
  · obtain ⟨hours, rfl⟩ := spells_someDigitsCore hhours
    obtain ⟨negative, rfl⟩ := exists_flag (a := '-') (b := '+') (by decide) hc
    rcases hrest.maybe with rfl | ⟨_, _, hcolon, hminutes, rfl⟩
    · exact ⟨.shift negative hours none, rfl⟩
    · obtain ⟨ds, rfl⟩ := spells_someDigitsCore hminutes
      rcases hcolon.maybe with rfl | rfl
      · exact ⟨.shift negative hours (some (false, ds)), rfl⟩
      · exact ⟨.shift negative hours (some (true, ds)), rfl⟩

lemma spells_datetimeCore (h : (datetimeCore caseInsensitive).Spells w) : ∃ m : WrittenMoment, m.chars = w := by
  obtain ⟨_, _, ⟨_, _, ⟨_, _, ⟨_, _, ⟨_, _, ⟨_, _, hdate, ⟨mark, hmark, rfl⟩, rfl⟩, hhour, rfl⟩, rfl, rfl⟩,
    hminute, rfl⟩, hsecond, rfl⟩, hoffset, rfl⟩ := h
  obtain ⟨date, rfl⟩ := spells_dateCore hdate
  obtain ⟨hour, rfl⟩ := spells_someDigitsCore hhour
  obtain ⟨minute, rfl⟩ := spells_someDigitsCore hminute
  have hmark : isTimeMark mark = true := CharSet.forall_contains (by cases caseInsensitive <;> decide) hmark
  obtain ⟨second, rfl⟩ := spells_optionalCore spells_secondCore hsecond
  obtain ⟨offset, rfl⟩ := spells_optionalCore spells_offset hoffset
  exact ⟨⟨date, mark, hmark, ⟨hour, minute, second⟩, offset⟩, by simp [WrittenMoment.chars, WrittenClock.chars]⟩

end Fragment

namespace Calendar

def WrittenDate.toText (w : WrittenDate) : String :=
  String.ofList w.chars

namespace WrittenMoment

variable (w : WrittenMoment)

def toText : String :=
  String.ofList w.chars

/-- A moment with an offset if one is written, or a letter for universal time. -/
def value : Value :=
  match w.offset with
  | none => .moment w.moment
  | some o => .zoned ⟨w.moment, o.seconds⟩

/-- There are such a date, such a time of day and such an offset. -/
def Exists : Prop :=
  w.date.date.Exists ∧ w.clock.clock.hour ≤ 23 ∧ w.clock.clock.minute ≤ 59 ∧ w.clock.clock.second ≤ 60 ∧
    ∀ o, w.offset = some o → o.minutes < 1440

end WrittenMoment

end Calendar

namespace Converter

lemma date_toText (w : WrittenDate) : date w.toText =
    if w.date.Exists then .ok (.date w.date) else .error (.calendar .outOfRange) := by
  rw [date, WrittenDate.toText, String.toList_ofList, w.readDate_chars]
  split_ifs <;> rfl

lemma datetime_toText_of_exists {w : WrittenMoment} (h : w.Exists) : datetime w.toText = .ok w.value := by
  obtain ⟨hdate, hhour, hminute, hsecond, hoffset⟩ := h
  have hminutes : w.offset.elim 0 WrittenOffset.minutes < 1440 := by
    cases ho : w.offset with
    | none => simp
    | some o => exact hoffset o ho
  rw [datetime, WrittenMoment.toText, String.toList_ofList, w.readMoment_chars, if_pos hdate, if_pos hminutes,
    if_pos ⟨hhour, hminute, hsecond⟩, WrittenMoment.value]
  cases w.offset <;> rfl

lemma exists_of_datetime_toText {w : WrittenMoment} {v : Value} (h : datetime w.toText = .ok v) : w.Exists := by
  rw [datetime, WrittenMoment.toText, String.toList_ofList, w.readMoment_chars] at h
  split_ifs at h with hdate hminutes hclock
  refine ⟨hdate, hclock.1, hclock.2.1, hclock.2.2, fun o ho => ?_⟩
  simpa [ho] using hminutes

end Converter

namespace Registry

variable (origin : ℕ)

lemma mem_date : ("date", Fragment.date, Converter.date) ∈ builtinTypes := by
  simp [builtinTypes]

lemma mem_datetime : ("datetime", Fragment.datetime, Converter.datetime) ∈ builtinTypes := by
  simp [builtinTypes]

/-- Dates are converted exactly if the calendar has them, and moments exactly if besides the time of day exists and the
offset's hours and minutes make less than a day. The value is what is written, with an offset where there is one. -/
theorem dates_convert_if_exist :
    (∃ t, (builtin origin).find? "date" = some t ∧ ∀ caseInsensitive, ∃ core,
      t.tree.meaning caseInsensitive = .ok core ∧ ∀ text : String, core.Accepts text.toList →
        (∃ w : WrittenDate, w.toText = text) ∧ ∀ w : WrittenDate, w.toText = text →
          ((∃ v, t.converter text = .ok v) ↔ w.date.Exists) ∧ ∀ v, t.converter text = .ok v → v = .date w.date) ∧
    ∃ t, (builtin origin).find? "datetime" = some t ∧ ∀ caseInsensitive, ∃ core,
      t.tree.meaning caseInsensitive = .ok core ∧ ∀ text : String, core.Accepts text.toList →
        (∃ w : WrittenMoment, w.toText = text) ∧ ∀ w : WrittenMoment, w.toText = text →
          ((∃ v, t.converter text = .ok v) ↔ w.Exists) ∧ ∀ v, t.converter text = .ok v → v = w.value := by
  obtain ⟨t, ht, hconverter, hmeaning⟩ := exists_builtin_meaning origin mem_date Fragment.means_date
  obtain ⟨u, hu, hconverter', hmeaning'⟩ := exists_builtin_meaning origin mem_datetime Fragment.means_datetime
  constructor
  · refine ⟨t, ht, fun caseInsensitive => ⟨_, hmeaning caseInsensitive, fun text htext => ⟨?_, ?_⟩⟩⟩
    · obtain ⟨w, hw⟩ := Fragment.spells_dateCore (Core.spells_of_accepts htext)
      exact ⟨w, by rw [WrittenDate.toText, hw, String.ofList_toList]⟩
    · rintro w rfl
      rw [hconverter, Converter.date_toText]
      split_ifs with hexists <;> simp [hexists]
  · refine ⟨u, hu, fun caseInsensitive => ⟨_, hmeaning' caseInsensitive, fun text htext => ⟨?_, ?_⟩⟩⟩
    · obtain ⟨w, hw⟩ := Fragment.spells_datetimeCore (Core.spells_of_accepts htext)
      exact ⟨w, by rw [WrittenMoment.toText, hw, String.ofList_toList]⟩
    · rintro w rfl
      rw [hconverter']
      refine ⟨⟨fun ⟨v, hv⟩ => Converter.exists_of_datetime_toText hv,
        fun hexists => ⟨w.value, Converter.datetime_toText_of_exists hexists⟩⟩, fun v hv => ?_⟩
      have hvalue := Converter.datetime_toText_of_exists (Converter.exists_of_datetime_toText hv)
      exact Except.ok.inj (hv.symm.trans hvalue)

/-- A leap day, and a leap second at the end of it, half an hour past five hours west of universal time. -/
theorem dates_convert_if_exist_leap :
    (∃ (t : GroupType) (core : Core), (builtin 0).find? "date" = some t ∧ t.tree.meaning false = .ok core ∧
      core.Accepts "2020-2-29".toList ∧ t.converter "2020-2-29" = .ok (.date ⟨2020, 2, 29⟩)) ∧
    ∃ (t : GroupType) (core : Core), (builtin 0).find? "datetime" = some t ∧ t.tree.meaning true = .ok core ∧
      core.Accepts "2020-02-29t23:59:60,1234567899-0530".toList ∧
        t.converter "2020-02-29t23:59:60,1234567899-0530" =
          .ok (.zoned ⟨⟨⟨2020, 2, 29⟩, ⟨23, 59, 60, 123456789⟩⟩, -19800⟩) := by
  obtain ⟨⟨t, ht, hdate⟩, u, hu, hmoment⟩ := dates_convert_if_exist 0
  constructor
  · obtain ⟨core, hcore, h⟩ := hdate false
    obtain rfl := (builtin_meaning mem_date Fragment.means_date ht).2 hcore
    have haccepts : Fragment.dateCore.Accepts "2020-2-29".toList := by decide +kernel
    let w : WrittenDate := ⟨.literal ['2', '0', '2', '0'] (by decide), .literal ['2'] (by decide),
      .literal ['2', '9'] (by decide)⟩
    obtain ⟨-, h⟩ := h "2020-2-29" haccepts
    obtain ⟨hconverts, hvalue⟩ := h w (by decide +kernel)
    obtain ⟨v, hv⟩ := hconverts.mpr (by decide)
    obtain rfl := hvalue v hv
    exact ⟨t, _, ht, hcore, haccepts, hv⟩
  · obtain ⟨core, hcore, h⟩ := hmoment true
    obtain rfl := (builtin_meaning mem_datetime Fragment.means_datetime hu).2 hcore
    have haccepts : (Fragment.datetimeCore true).Accepts "2020-02-29t23:59:60,1234567899-0530".toList := by
      decide +kernel
    let w : WrittenMoment := ⟨⟨.literal ['2', '0', '2', '0'] (by decide), .literal ['0', '2'] (by decide),
      .literal ['2', '9'] (by decide)⟩, 't', rfl, ⟨.literal ['2', '3'] (by decide), .literal ['5', '9'] (by decide),
      some ⟨.literal ['6', '0'] (by decide),
        some ⟨true, .literal ['1', '2', '3', '4', '5', '6', '7', '8', '9', '9'] (by decide)⟩⟩⟩,
      some (.shift true (.literal ['0', '5'] (by decide)) (some (false, .literal ['3', '0'] (by decide))))⟩
    obtain ⟨-, h⟩ := h "2020-02-29t23:59:60,1234567899-0530" haccepts
    obtain ⟨hconverts, hvalue⟩ := h w (by decide +kernel)
    have hminutes : ∀ o, w.offset = some o → o.minutes < 1440 := by
      rintro o ho
      obtain rfl := Option.some.inj ho
      decide
    obtain ⟨v, hv⟩ := hconverts.mpr ⟨by decide, by decide, by decide, by decide, hminutes⟩
    obtain rfl := hvalue v hv
    exact ⟨u, _, hu, hcore, haccepts, hv⟩

/-- Sixty minutes make an offset that the hours and minutes of a clock do not. -/
theorem datetime_converts_sixty_minutes : ∃ (t : GroupType) (core : Core) (w : WrittenMoment)
    (hours minutes : Digits 2 (some 2)), (builtin 0).find? "datetime" = some t ∧ t.tree.meaning false = .ok core ∧
      core.Accepts "2021-01-15T08:30+00:60".toList ∧ w.toText = "2021-01-15T08:30+00:60" ∧
        w.offset = some (.shift false hours (some (true, minutes))) ∧ ¬minutes.value ≤ 59 ∧
          ∃ v, t.converter "2021-01-15T08:30+00:60" = .ok v := by
  obtain ⟨t, ht, hconverter, hmeaning⟩ := exists_builtin_meaning 0 mem_datetime Fragment.means_datetime
  let w : WrittenMoment := ⟨⟨.literal ['2', '0', '2', '1'] (by decide), .literal ['0', '1'] (by decide),
    .literal ['1', '5'] (by decide)⟩, 'T', rfl,
    ⟨.literal ['0', '8'] (by decide), .literal ['3', '0'] (by decide), none⟩,
    some (.shift false (.literal ['0', '0'] (by decide)) (some (true, .literal ['6', '0'] (by decide))))⟩
  refine ⟨t, _, w, _, _, ht, hmeaning false, by decide +kernel, by decide +kernel, rfl, by decide, ?_⟩
  rw [hconverter]
  exact ⟨.zoned ⟨⟨⟨2021, 1, 15⟩, ⟨8, 30, 0, 0⟩⟩, 3600⟩, by decide +kernel⟩

end Registry

end TypedPattern
