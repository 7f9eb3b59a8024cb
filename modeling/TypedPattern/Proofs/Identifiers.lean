import TypedPattern.Proofs.Capturing
import TypedPattern.Proofs.Reprinting
import TypedPattern.Proofs.Text.Encoding

/-! The normal form of identifiers: which texts have one, which texts share one, and that it is an identifier itself. -/

namespace TypedPattern

namespace Text

variable {c : Char} {cs : List Char}

def isHexByte (b : UInt8) : Bool :=
  isHexDigit (Char.ofUInt8 b)

lemma forall_ascii {p : Char → Bool} (h : ((List.range 128).all fun n => p (Char.ofNat n)) = true)
    (hc : c.toNat < 128) : p c = true := by
  have hp := List.all_eq_true.mp h c.toNat (List.mem_range.mpr hc)
  rwa [Char.ofNat_toNat] at hp

lemma toNat_lt_of_isHexDigit (h : isHexDigit c = true) : c.toNat < 128 := by
  simp only [isHexDigit, isDigit, Bool.or_eq_true, Bool.and_eq_true, decide_eq_true_eq, Char.le_def,
    UInt32.le_iff_toNat_le, Char.toNat_val] at h
  rcases h with (⟨-, h⟩ | ⟨-, h⟩) | ⟨-, h⟩ <;> exact h.trans_lt (by decide)

lemma isHexDigit_asciiLower (c : Char) : isHexDigit (asciiLower c) = isHexDigit c := by
  by_cases hc : c.toNat < 128
  · exact beq_iff_eq.mp (forall_ascii (p := fun c => isHexDigit (asciiLower c) == isHexDigit c) (by decide) hc)
  · have hlower : asciiLower c = c :=
      dif_neg fun h => hc (Nat.lt_of_le_of_lt (UInt32.le_iff_toNat_le.mp h.2) (by decide))
    rw [hlower]

lemma all_utf8EncodeChar (c : Char) : (String.utf8EncodeChar c).all isHexByte = isHexDigit c := by
  by_cases hc : c.toNat < 128
  · exact beq_iff_eq.mp (forall_ascii (p := fun c => (String.utf8EncodeChar c).all isHexByte == isHexDigit c)
      (by decide) hc)
  · have hdigit : isHexDigit c = false := Bool.eq_false_iff.mpr fun h => hc (toNat_lt_of_isHexDigit h)
    have hhigh : ∀ n < 256, 128 ≤ n → isHexByte (UInt8.ofNat n) = false := by
      intro n hn hle
      refine Bool.eq_false_iff.mpr fun h => Nat.not_lt.mpr hle ?_
      exact (UInt8.toNat_ofNat_of_lt' hn).symm.trans_lt (toNat_lt_of_isHexDigit h)
    have hv : ¬c.val.toNat ≤ 127 := fun h => hc (Nat.lt_succ_of_le h)
    rw [hdigit, String.utf8EncodeChar.eq_1, if_neg hv]
    split_ifs <;> rw [List.all_cons, hhigh _ (by omega) (by omega), Bool.false_and]

lemma all_utf8 (cs : List Char) : (utf8 cs).all isHexByte = cs.all isHexDigit := by
  rw [utf8, List.all_flatMap]
  exact congrArg cs.all (funext all_utf8EncodeChar)

lemma byteLength_hex (h : ∀ c ∈ cs, isHexDigit c = true) : byteLength cs = cs.length := by
  induction cs with
  | nil => rfl
  | cons c cs ih =>
    obtain ⟨hc, hcs⟩ := List.forall_mem_cons.mp h
    have hsize : c.utf8Size = 1 :=
      Char.utf8Size_eq_one_iff.mpr (UInt32.le_iff_toNat_le.mpr (Nat.le_of_lt_succ (toNat_lt_of_isHexDigit hc)))
    rw [byteLength, ih hcs, hsize, List.length_cons, Nat.add_comm]

/-- Digits are cut at bytes where they are cut at characters. -/
lemma slice_hex (h : ∀ c ∈ cs, isHexDigit c = true) {start stop : Nat} (hle : start ≤ stop)
    (hstop : stop ≤ cs.length) : slice start stop cs = .ok ((cs.drop start).take (stop - start)) := by
  have hlength : ∀ n ≤ cs.length, byteLength (cs.take n) = n := by
    intro n hn
    rw [byteLength_hex fun c hc => h c (List.mem_of_mem_take hc), List.length_take_of_le hn]
  have htake : cs.take start ++ (cs.drop start).take (stop - start) = cs.take stop := by
    rw [← List.take_add, Nat.add_sub_cancel' hle]
  have hslice := slice_append (cs.take start) ((cs.drop start).take (stop - start)) (cs.drop stop)
  rwa [htake, List.take_append_drop, hlength start (hle.trans hstop), hlength stop hstop] at hslice

end Text

open Regex (Core)
open Text (CutFault isHexDigit isHexByte asciiLower utf8)

namespace Converter

variable {raw a b : String} {v w : Value} {ds : List Char}

/-- What counts of the text of an identifier. -/
def unhyphened (raw : String) : List Char :=
  raw.toList.filter (· != '-')

/-- What counts of it but for case. -/
def normalDigits (raw : String) : List Char :=
  (unhyphened raw).map asciiLower

/-- The converter of identifiers where digits are counted and cut into parts by the bytes of their text. -/
def uuidByBytes (raw : String) : Except CutFault (Except ConvertError Value) :=
  let hex := normalDigits raw
  if (utf8 hex).length = 32 ∧ (utf8 hex).all isHexByte then do
    let parts ← [(0, 8), (8, 12), (12, 16), (16, 20), (20, (utf8 hex).length)].mapM fun (start, stop) =>
      Text.slice start stop hex
    return .ok (.text (String.ofList (['-'].intercalate parts)))
  else return .error .notHexadecimal

def part (ds : List Char) (start count : Nat) : List Char :=
  (ds.drop start).take count

lemma mem_of_mem_part {c : Char} {start count : Nat} (h : c ∈ part ds start count) : c ∈ ds :=
  List.mem_of_mem_drop (List.mem_of_mem_take h)

lemma length_part {start count : Nat} (hle : start + count ≤ ds.length) : (part ds start count).length = count := by
  rw [part, List.length_take, List.length_drop]
  omega

lemma hyphenate_eq (h : ds.length = 32) : hyphenate ds =
    part ds 0 8 ++ '-' :: part ds 8 4 ++ '-' :: part ds 12 4 ++ '-' :: part ds 16 4 ++ '-' :: part ds 20 12 := by
  have hlast : part ds 20 12 = ds.drop 20 := List.take_of_length_le (by rw [List.length_drop, h])
  rw [hlast]
  rfl

/-- The text of 32 hexadecimal digits with hyphens anywhere among them. -/
def IsIdentifier (raw : String) : Prop :=
  (unhyphened raw).length = 32 ∧ ∀ c ∈ unhyphened raw, isHexDigit c = true

instance (raw : String) : Decidable (IsIdentifier raw) :=
  decidable_of_iff ((unhyphened raw).length = 32 ∧ (unhyphened raw).all isHexDigit = true)
    (and_congr_right' List.all_eq_true)

lemma isIdentifier_iff :
    IsIdentifier raw ↔ (normalDigits raw).length = 32 ∧ (normalDigits raw).all isHexDigit = true := by
  rw [IsIdentifier, normalDigits, List.length_map, List.all_map, List.all_eq_true]
  simp only [Function.comp_apply, Text.isHexDigit_asciiLower]

lemma uuid_eq (raw : String) : uuid raw =
    if (normalDigits raw).length = 32 ∧ (normalDigits raw).all isHexDigit then
      .ok (.text (String.ofList (hyphenate (normalDigits raw))))
    else .error .notHexadecimal :=
  rfl

lemma uuid_ok_iff : uuid raw = .ok v ↔
    IsIdentifier raw ∧ v = .text (String.ofList (hyphenate (normalDigits raw))) := by
  rw [uuid_eq, isIdentifier_iff]
  split_ifs with h
  · simp [h, eq_comm]
  · exact ⟨nofun, fun hv => absurd hv.1 h⟩

lemma uuidByBytes_eq (raw : String) : uuidByBytes raw = .ok (uuid raw) := by
  rw [uuidByBytes, uuid_eq]
  dsimp only
  rw [Text.length_utf8, Text.all_utf8]
  by_cases hdigits : (normalDigits raw).all isHexDigit = true
  · have hhex := List.all_eq_true.mp hdigits
    rw [Text.byteLength_hex hhex]
    split_ifs with h
    · have hslice : ∀ start stop, start ≤ stop → stop ≤ 32 →
          Text.slice start stop (normalDigits raw) = .ok (part (normalDigits raw) start (stop - start)) :=
        fun start stop hle hstop => Text.slice_hex hhex hle (hstop.trans_eq h.1.symm)
      simp only [h.1, List.mapM_cons, List.mapM_nil, hslice, Nat.le_refl, Nat.reduceLeDiff, Nat.reduceSub, bind,
        Except.bind, pure, Except.pure, hyphenate_eq h.1]
      simp [List.intercalate]
    · rfl
  · rw [if_neg fun h => hdigits h.2, if_neg fun h => hdigits h.2]
    rfl

lemma ne_hyphen_of_isHexDigit {c : Char} (h : isHexDigit c = true) : (c != '-') = true :=
  bne_iff_ne.mpr fun heq => absurd (heq ▸ h) (by decide)

lemma hyphenate_inj {ds es : List Char} (hds : ∀ c ∈ ds, isHexDigit c = true) (hes : ∀ c ∈ es, isHexDigit c = true) :
    hyphenate ds = hyphenate es ↔ ds = es := by
  refine ⟨fun h => ?_, congrArg hyphenate⟩
  rw [← filter_hyphenate fun c hc => ne_hyphen_of_isHexDigit (hds c hc), h,
    filter_hyphenate fun c hc => ne_hyphen_of_isHexDigit (hes c hc)]

lemma byteLength_hyphenate (hlength : ds.length = 32) (h : ∀ c ∈ ds, isHexDigit c = true) :
    Text.byteLength (hyphenate ds) = 36 := by
  have hpart : ∀ start count, start + count ≤ 32 → Text.byteLength (part ds start count) = count := by
    intro start count hle
    exact (Text.byteLength_hex fun c hc => h c (mem_of_mem_part hc)).trans (length_part (hle.trans_eq hlength.symm))
  have hhyphen : '-'.utf8Size = 1 := by decide
  simp only [hyphenate_eq hlength, Text.byteLength_append, Text.byteLength, hhyphen]
  rw [hpart 0 8 (by omega), hpart 8 4 (by omega), hpart 12 4 (by omega), hpart 16 4 (by omega), hpart 20 12 (by omega)]

lemma uuid_eq_iff (hv : uuid a = .ok v) (hw : uuid b = .ok w) : v = w ↔ normalDigits a = normalDigits b := by
  obtain ⟨ha, rfl⟩ := uuid_ok_iff.mp hv
  obtain ⟨hb, rfl⟩ := uuid_ok_iff.mp hw
  have ha := List.all_eq_true.mp (isIdentifier_iff.mp ha).2
  have hb := List.all_eq_true.mp (isIdentifier_iff.mp hb).2
  rw [Value.text.injEq, String.ofList_inj, hyphenate_inj ha hb]

end Converter

namespace Fragment

variable {w ds : List Char} {c : Char}

lemma spells_of_hexCore {caseInsensitive : Bool} {count : Nat} (hlength : w.length = count)
    (h : ∀ c ∈ w, (hexSet caseInsensitive).contains c = true) : (hexCore caseInsensitive count).Spells w := by
  refine Core.spells_repeated_chars.mpr ⟨hlength.ge, fun m hm => ?_, h⟩
  exact hlength.le.trans (Nat.le_add_right _ _)

lemma spells_of_hyphenCore {caseInsensitive : Bool} {first : Core} {count : Nat} {u : List Char}
    (hu : first.Spells u) (hw : (hexCore caseInsensitive count).Spells w) :
    (hyphenCore caseInsensitive first count).Spells (u ++ '-' :: w) := by
  refine ⟨u ++ ['-'], w, ⟨u, ['-'], hu, Core.spells_maybe.mpr (Or.inr rfl), rfl⟩, hw, ?_⟩
  rw [List.append_assoc, List.singleton_append]

lemma contains_asciiLower (h : isHexDigit c = true) : (hexSet false).contains (asciiLower c) = true := by
  have hall := Text.forall_ascii (p := fun c => !isHexDigit c || (hexSet false).contains (asciiLower c))
    (by decide) (Text.toNat_lt_of_isHexDigit h)
  rwa [h] at hall

open Converter (part hyphenate_eq length_part mem_of_mem_part) in
lemma spells_hyphenate (hlength : ds.length = 32) (h : ∀ c ∈ ds, (hexSet false).contains c = true) :
    (uuidCore false).Spells (Converter.hyphenate ds) := by
  have hpart : ∀ start count, start + count ≤ 32 → (hexCore false count).Spells (part ds start count) := by
    intro start count hle
    exact spells_of_hexCore (length_part (hle.trans_eq hlength.symm)) fun c hc => h c (mem_of_mem_part hc)
  rw [hyphenate_eq hlength]
  have htwo := spells_of_hyphenCore (hpart 0 8 (by omega)) (hpart 8 4 (by omega))
  have hfour := spells_of_hyphenCore (spells_of_hyphenCore htwo (hpart 12 4 (by omega))) (hpart 16 4 (by omega))
  exact spells_of_hyphenCore hfour (hpart 20 12 (by omega))

lemma spells_uuid {raw : String} {v : Value} (h : Converter.uuid raw = .ok v) :
    (uuidCore false).Spells v.toText.toList := by
  obtain ⟨hraw, rfl⟩ := Converter.uuid_ok_iff.mp h
  obtain ⟨hlength, hall⟩ := hraw
  rw [Value.toText, String.toList_ofList]
  refine spells_hyphenate (by rw [Converter.normalDigits, List.length_map, hlength]) fun d hd => ?_
  obtain ⟨c, hc, rfl⟩ := List.mem_map.mp hd
  exact contains_asciiLower (hall c hc)

lemma language_uuid (text : List Char) : Regex.Language uuid.toList text ↔ (uuidCore false).Spells text := by
  obtain ⟨-, whole, hread, hl, hmeaning⟩ := means_uuid
  obtain ⟨core, hcore, h⟩ := hmeaning false
  obtain rfl := beq_iff_eq.mp h
  obtain ⟨hr, core, hm⟩ := GroupType.readFragment_ok.mp hread
  obtain ⟨tree, core', -, hbare, hm', halike⟩ := Regex.read_withoutCaptures hr hm hl
  obtain rfl := Except.ok.inj ((Regex.Syntax.meaning_of_bare_eq hbare hm').symm.trans hcore)
  rw [Regex.language_iff hr hm, ← Core.accepts_iff_spells rfl]
  exact halike.accepts _

end Fragment

namespace Matcher

lemma runs_uuid : ((Regex.result? (GroupType.readFragment Fragment.uuid.toList)).any fun whole =>
    runs false (Pattern.groupText whole.withoutCaptures) fun bare _ =>
      bare.core == .capture 0 (Fragment.uuidCore false)) = true := by
  rfl

/-- The converter of identifiers accepts exactly the texts of 32 hexadecimal digits and hyphens, cutting none of them
inside a character. Its values are the same for texts with the same digits, but for hyphens and case, and each is itself
a text that the type matches in full, whatever the case of the text that it comes from. -/
theorem uuid_normal_form (origin : Nat) (flexible : Bool) :
    ∃ t m, (Registry.builtin origin).find? "uuid" = some t ∧
      make (.builtin origin) ⟨true, flexible⟩ (Pattern.ofType "uuid") = .ok m ∧
      (∀ a, ((∃ v, t.converter a = .ok v) ↔ Converter.IsIdentifier a) ∧ Converter.uuidByBytes a = .ok (t.converter a)) ∧
      (∀ a b v w, t.converter a = .ok v → t.converter b = .ok w →
        (v = w ↔ Converter.normalDigits a = Converter.normalDigits b)) ∧
      ∀ a v, t.converter a = .ok v → Regex.Language Fragment.uuid.toList v.toText.toList ∧
        m.run .full v.toText = .ok ⟨[("x", v)], [], [⟨some "x", ⟨0, 36⟩⟩], some v.toText⟩ := by
  have he : ("uuid", Fragment.uuid, Converter.uuid) ∈ Registry.builtinTypes := List.mem_of_getElem? (i := 3) rfl
  obtain ⟨t, m, hf, hname, hconverter, hm, hcore⟩ :=
    @exists_make_builtin_with origin ⟨true, flexible⟩ _ he ⟨Fragment.uuid.toList, String.ofList_toList.symm⟩ _ runs_uuid
  obtain hname : t.name = "uuid" := hname
  obtain hconverter : t.converter = Converter.uuid := hconverter
  have hl := legible_builtin hm
  have hbare := beq_iff_eq.mp hcore
  have hgroup : groupCore ⟨true, flexible⟩ t = Fragment.uuidCore false :=
    (Core.capture.inj ((bare_ofType hf hm hl).symm.trans hbare)).2
  refine ⟨t, m, hname ▸ hf, hname ▸ hm, ?_, ?_, ?_⟩
  · intro a
    rw [hconverter, Converter.uuidByBytes_eq]
    refine ⟨⟨fun ⟨v, hv⟩ => (Converter.uuid_ok_iff.mp hv).1, fun ha => ?_⟩, rfl⟩
    exact ⟨_, Converter.uuid_ok_iff.mpr ⟨ha, rfl⟩⟩
  · intro a b v w hv hw
    exact Converter.uuid_eq_iff (hconverter ▸ hv) (hconverter ▸ hw)
  · intro a v hv
    rw [hconverter] at hv
    have hspells := Fragment.spells_uuid hv
    have hfull : ¬Missed (m.run .full v.toText) := by
      rw [full_iff hm, hbare, Core.accepts_iff_spells rfl]
      exact hspells
    have hrun := (run_ofType hf hm hl (hgroup ▸ by decide) hfull).1
    rw [taking, hconverter, Converter.uuid_printed hv] at hrun
    refine ⟨(Fragment.language_uuid _).mpr hspells, hrun.trans ?_⟩
    obtain ⟨ha, rfl⟩ := Converter.uuid_ok_iff.mp hv
    obtain ⟨hlength, hall⟩ := Converter.isIdentifier_iff.mp ha
    dsimp only
    rw [Value.toText, String.toList_ofList, Converter.byteLength_hyphenate hlength (List.all_eq_true.mp hall)]

/-- Hyphens and capitals in other places make no difference, and a letter of two bytes makes no digits. -/
theorem uuid_normal_form_spellings : ∃ t m v, (Registry.builtin 0).find? "uuid" = some t ∧
    make (.builtin 0) ⟨true, false⟩ (Pattern.ofType "uuid") = .ok m ∧
      t.converter "-01234567-89ABcdef0123456789ABCDEF--" = .ok v ∧
      t.converter "01234567-89ab-cdef-0123-456789abcdef" = .ok v ∧
      (¬∃ w, t.converter "é23456789abcdef0123456789abcdef" = .ok w) ∧
        m.run .full v.toText = .ok ⟨[("x", v)], [], [⟨some "x", ⟨0, 36⟩⟩], some v.toText⟩ := by
  obtain ⟨t, m, hf, hm, hconverts, hsame, hfull⟩ := uuid_normal_form 0 false
  obtain ⟨v, hv⟩ := (hconverts "-01234567-89ABcdef0123456789ABCDEF--").1.mpr (by decide +kernel)
  obtain ⟨w, hw⟩ := (hconverts "01234567-89ab-cdef-0123-456789abcdef").1.mpr (by decide +kernel)
  obtain rfl := (hsame _ _ v w hv hw).mpr (by decide +kernel)
  have hnot : ¬Converter.IsIdentifier "é23456789abcdef0123456789abcdef" := by decide +kernel
  exact ⟨t, m, v, hf, hm, hv, hw, fun h => hnot ((hconverts _).1.mp h), (hfull _ v hv).2⟩

end Matcher

end TypedPattern
