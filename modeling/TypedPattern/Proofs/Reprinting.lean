import TypedPattern.Proofs.Number.Printing
import TypedPattern.Proofs.Calendar.Printing

/-! A value that is printed and converted again is the same value. -/

namespace TypedPattern

open Regex (Core)
open Text (isHexDigit asciiLower)

lemma Text.asciiLower_asciiLower (c : Char) : asciiLower (asciiLower c) = asciiLower c := by
  have h : ¬(c.toLower.val ≥ 'A'.val ∧ c.toLower.val ≤ 'Z'.val) := by
    unfold Char.toLower
    split <;> grind [UInt32.toNat_add, Char.toNat_val]
  exact dif_neg h

namespace Value

variable {v : Value}

/-- What the value is printed as is converted to the same value, which is printed as that again. -/
def Reprints (converter : Converter) (v : Value) : Prop :=
  ∃ u, converter v.toText = .ok u ∧ u.same v = true ∧ u.toText = v.toText

lemma same_self (hv : ∀ x, v ≠ .float x) : v.same v = true := by
  cases v <;> simp [same, Decimal.numericEq, Calendar.ZonedMoment.sameInstant]
  exact absurd rfl (hv _)

lemma reprints_of_ok {converter : Converter} (h : converter v.toText = .ok v) (hv : ∀ x, v ≠ .float x) :
    v.Reprints converter :=
  ⟨v, h, same_self hv, rfl⟩

end Value

namespace Converter

variable {v : Value}

lemma filter_hyphenate {ds : List Char} (h : ∀ c ∈ ds, (c != '-') = true) :
    (hyphenate ds).filter (· != '-') = ds := by
  have hfrom : ∀ start, (ds.drop start).filter (· != '-') = ds.drop start := fun start =>
    List.filter_eq_self.mpr fun c hc => h c (List.mem_of_mem_drop hc)
  have hpart : ∀ start count, ((ds.drop start).take count).filter (· != '-') = (ds.drop start).take count :=
    fun start count => List.filter_eq_self.mpr fun c hc => h c (List.mem_of_mem_drop (List.mem_of_mem_take hc))
  have hnext : ∀ start count, (ds.drop start).take count ++ ds.drop (start + count) = ds.drop start := by
    intro start count
    rw [← List.drop_drop, List.take_append_drop]
  simp only [hyphenate, List.filter_append, List.filter_cons, bne_self_eq_false, Bool.false_eq_true, if_false, hpart,
    hfrom, List.append_assoc, List.cons_append]
  rw [hnext 16 4, hnext 12 4, hnext 8 4, hnext 0 8, List.drop_zero]

lemma uuid_printed {raw : String} (h : uuid raw = .ok v) : uuid v.toText = .ok v := by
  unfold uuid at h
  dsimp only at h
  split_ifs at h with hdigits
  obtain rfl := Except.ok.inj h
  have hhyphen : ∀ c ∈ (raw.toList.filter (· != '-')).map asciiLower, (c != '-') = true := fun c hc => by
    have hhex := List.all_eq_true.mp hdigits.2 c hc
    exact bne_iff_ne.mpr fun heq => absurd (heq ▸ hhex) (by decide)
  unfold uuid
  simp only [Value.toText, String.toList_ofList, filter_hyphenate hhyphen, List.map_map, Function.comp_def,
    Text.asciiLower_asciiLower]
  exact if_pos hdigits

end Converter

namespace Registry

variable (origin : ℕ)

lemma reprints_of {name fragment : String} {converter : Converter} {core : Bool → Core}
    (he : (name, fragment, converter) ∈ builtinTypes)
    (hm : Fragment.Means fragment fun caseInsensitive r => r == core caseInsensitive)
    (hc : ∀ caseInsensitive (text : String) v, (core caseInsensitive).Spells text.toList → converter text = .ok v →
      (∀ x, v ≠ .float x) → converter v.toText = .ok v) :
    ∃ t, (builtin origin).find? name = some t ∧ ∀ caseInsensitive, ∃ core,
      t.tree.meaning caseInsensitive = .ok core ∧ ∀ text : String, core.Accepts text.toList →
        ∀ v, t.converter text = .ok v → (∀ x, v ≠ .float x) → v.Reprints t.converter := by
  obtain ⟨t, ht, hconverter, hmeaning⟩ := exists_builtin_meaning origin he hm
  refine ⟨t, ht, fun caseInsensitive => ⟨_, hmeaning caseInsensitive, fun text htext v hv hfloat => ?_⟩⟩
  rw [hconverter] at hv ⊢
  exact Value.reprints_of_ok (hc _ text v (Core.spells_of_accepts htext) hv hfloat) hfloat

/-- What a built-in type of numbers, identifiers or dates makes of a text is printed as a text of which it makes the
same value again, if it is not a float. -/
theorem builtin_types_reprint : ∀ name ∈ ["int", "decimal", "uuid", "date", "datetime"],
    ∃ t, (builtin origin).find? name = some t ∧ ∀ caseInsensitive, ∃ core,
      t.tree.meaning caseInsensitive = .ok core ∧ ∀ text : String, core.Accepts text.toList →
        ∀ v, t.converter text = .ok v → (∀ x, v ≠ .float x) → v.Reprints t.converter := by
  simp only [List.forall_mem_cons, List.not_mem_nil, false_implies, implies_true, and_true]
  refine ⟨?int, ?decimal, ?uuid, ?date, ?datetime⟩
  case int =>
    refine reprints_of origin List.mem_cons_self Fragment.means_wholeNumber fun _ text v hspells hv hfloat => ?_
    obtain ⟨n, hn⟩ := Fragment.spells_whole hspells
    obtain rfl : n.toText = text := by rw [WholeNumeral.toText, hn, String.ofList_toList]
    exact Converter.int_printed hv hfloat
  case decimal =>
    have he : ("decimal", Fragment.number, Converter.decimal) ∈ builtinTypes := by simp [builtinTypes]
    refine reprints_of origin he Fragment.means_number fun _ text v hspells hv hfloat => ?_
    obtain ⟨n, hn⟩ := isNumeral_iff.mp (Fragment.spells_numberCore hspells)
    obtain rfl : n.toText = text := by rw [Numeral.toText, hn, String.ofList_toList]
    exact Converter.decimal_printed hv hfloat
  case uuid =>
    have he : ("uuid", Fragment.uuid, Converter.uuid) ∈ builtinTypes := by simp [builtinTypes]
    exact reprints_of origin he Fragment.means_uuid fun _ text v _ hv _ => Converter.uuid_printed hv
  case date =>
    refine reprints_of origin mem_date Fragment.means_date fun _ text v hspells hv _ => ?_
    obtain ⟨w, hw⟩ := Fragment.spells_dateCore hspells
    obtain rfl : w.toText = text := by rw [Calendar.WrittenDate.toText, hw, String.ofList_toList]
    exact Converter.date_printed hv
  case datetime =>
    refine reprints_of origin mem_datetime Fragment.means_datetime fun _ text v hspells hv _ => ?_
    obtain ⟨w, hw⟩ := Fragment.spells_datetimeCore hspells
    obtain rfl : w.toText = text := by rw [Calendar.WrittenMoment.toText, hw, String.ofList_toList]
    exact Converter.datetime_printed hv

/-- Short fields, a comma and an offset without a colon are all printed in another form. -/
theorem builtin_types_reprint_short_fields : ∃ (t : GroupType) (core : Core) (v : Value),
    (builtin 0).find? "datetime" = some t ∧ t.tree.meaning false = .ok core ∧
      core.Accepts "2021-1-5 8:30:05,2500-0530".toList ∧ t.converter "2021-1-5 8:30:05,2500-0530" = .ok v ∧
        v.toText = "2021-01-05T08:30:05.250-05:30" ∧
          ∃ u, t.converter "2021-01-05T08:30:05.250-05:30" = .ok u ∧ u.same v = true ∧
            u.toText = "2021-01-05T08:30:05.250-05:30" := by
  obtain ⟨t, ht, h⟩ := builtin_types_reprint 0 "datetime" (by decide)
  obtain ⟨hconverter, hmeaning⟩ := builtin_meaning mem_datetime Fragment.means_datetime ht
  obtain ⟨core, hcore, h⟩ := h false
  obtain rfl := hmeaning hcore
  have haccepts : (Fragment.datetimeCore false).Accepts "2021-1-5 8:30:05,2500-0530".toList := by decide +kernel
  let v : Value := .zoned ⟨⟨⟨2021, 1, 5⟩, ⟨8, 30, 5, 250000000⟩⟩, -19800⟩
  have hv : t.converter "2021-1-5 8:30:05,2500-0530" = .ok v := by
    rw [hconverter]
    decide +kernel
  have htext : v.toText = "2021-01-05T08:30:05.250-05:30" := by decide +kernel
  have hagain := h _ haccepts v hv (by simp [v])
  rw [Value.Reprints, htext] at hagain
  exact ⟨t, _, v, ht, hcore, haccepts, hv, htext, hagain⟩

end Registry

end TypedPattern
