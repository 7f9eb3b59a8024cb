import TypedPattern.Proofs.Capturing
import TypedPattern.Proofs.Text.Digits

/-! The types of internet addresses match addresses, and no other texts. -/

namespace TypedPattern

open Pattern (Config)
open Regex (Core)
open Text (isDigit isHexDigit digitValue decimalValue)

namespace Address

/-- A decimal number of one to three digits, at most 255. -/
@[mk_iff] structure IsOctet (cs : List Char) : Prop where
  least : 1 ≤ cs.length
  most : cs.length ≤ 3
  digit : ∀ c ∈ cs, isDigit c = true
  value : decimalValue cs ≤ 255

/-- Four octets with dots between them. -/
def IsIpv4 (cs : List Char) : Prop :=
  ∃ octets : List (List Char), octets.length = 4 ∧ (∀ o ∈ octets, IsOctet o) ∧ cs = ['.'].intercalate octets

/-- One to four hexadecimal digits. -/
@[mk_iff] structure IsHexGroup (cs : List Char) : Prop where
  least : 1 ≤ cs.length
  most : cs.length ≤ 4
  digit : ∀ c ∈ cs, isHexDigit c = true

/-- Eight groups with colons between them, or at most seven of them around a double colon. -/
def IsIpv6 (cs : List Char) : Prop :=
  (∃ groups : List (List Char), groups.length = 8 ∧ (∀ g ∈ groups, IsHexGroup g) ∧ cs = [':'].intercalate groups) ∨
    ∃ front back : List (List Char), front.length + back.length ≤ 7 ∧ (∀ g ∈ front, IsHexGroup g) ∧
      (∀ g ∈ back, IsHexGroup g) ∧ cs = [':'].intercalate front ++ [':', ':'] ++ [':'].intercalate back

instance (cs : List Char) : Decidable (IsOctet cs) :=
  decidable_of_iff (1 ≤ cs.length ∧ cs.length ≤ 3 ∧ cs.all isDigit = true ∧ decimalValue cs ≤ 255)
    (by rw [isOctet_iff, List.all_eq_true])

instance (cs : List Char) : Decidable (IsHexGroup cs) :=
  decidable_of_iff (1 ≤ cs.length ∧ cs.length ≤ 4 ∧ cs.all isHexDigit = true)
    (by rw [isHexGroup_iff, List.all_eq_true])

variable {mark : Char} {xs : List (List Char)}

lemma intercalate_cons (x : List Char) (xs : List (List Char)) :
    [mark].intercalate (x :: xs) = x ++ xs.flatMap (mark :: ·) := by
  induction xs generalizing x with
  | nil => rw [List.intercalate_singleton, List.flatMap_nil, List.append_nil]
  | cons y xs ih => rw [List.intercalate_cons_cons, ih, List.flatMap_cons, List.append_assoc, List.singleton_append,
      List.cons_append]

lemma intercalate_concat (xs : List (List Char)) (x : List Char) :
    [mark].intercalate (xs ++ [x]) = xs.flatMap (· ++ [mark]) ++ x := by
  induction xs with
  | nil => rw [List.nil_append, List.intercalate_singleton, List.flatMap_nil, List.nil_append]
  | cons y xs ih =>
    obtain ⟨z, zs, hz⟩ := List.exists_cons_of_ne_nil (List.append_ne_nil_of_right_ne_nil xs (List.cons_ne_nil x []))
    rw [hz] at ih
    rw [List.cons_append, hz, List.intercalate_cons_cons, ih, List.flatMap_cons]
    simp only [List.append_assoc]

lemma cons_intercalate (h : xs ≠ []) : mark :: [mark].intercalate xs = xs.flatMap (mark :: ·) := by
  obtain ⟨x, xs, rfl⟩ := List.exists_cons_of_ne_nil h
  rw [intercalate_cons, List.flatMap_cons, List.cons_append]

lemma intercalate_append_mark (h : xs ≠ []) : [mark].intercalate xs ++ [mark] = xs.flatMap (· ++ [mark]) := by
  obtain ⟨xs, x, rfl⟩ := (List.eq_nil_or_concat' xs).resolve_left h
  rw [intercalate_concat, List.flatMap_append, List.flatMap_singleton, List.append_assoc]

end Address

namespace Fragment

open Address

def digitCore (n : Nat) : Core :=
  .chars ⟨[⟨48, 48 + n⟩]⟩

def octetCore : Core :=
  .alt (.seq (.literal ['2', '5']) (digitCore 5)) (.alt (.seq (.seq (.literal ['2']) (digitCore 4)) (digitCore 9))
    (.seq (.seq (.repetition 0 (some 1) true (digitCore 1)) (digitCore 9)) (.repetition 0 (some 1) true (digitCore 9))))

def ipv4Core : Core :=
  .seq octetCore (.repetition 3 (some 0) true (.seq (.literal ['.']) octetCore))

def hexGroupCore : Core :=
  .repetition 1 (some 3) true (.chars (hexSet true))

/-- At least `min` groups, and up to `more` beyond that, with a colon behind each. -/
def frontCore (min more : Nat) : Core :=
  .repetition min (some more) true (.seq hexGroupCore (.literal [':']))

/-- At least `min` groups, and up to `more` beyond that, with a colon in front of each. -/
def backCore (min more : Nat) : Core :=
  .repetition min (some more) true (.seq (.literal [':']) hexGroupCore)

/-- Groups on both sides of a double colon, at most `n + 1` of them behind it and at most seven in all. -/
def gapCore : Nat → Core
  | 0 => .seq (.seq (frontCore 1 5) (.literal [':'])) hexGroupCore
  | 5 => .seq (.seq hexGroupCore (.literal [':'])) (backCore 1 5)
  | n => .seq (frontCore 1 (5 - n)) (backCore 1 n)

/-- The alternatives of `ipv6`, but for those with a percent sign or dots in them. -/
def ipv6Cores : List Core :=
  .seq (frontCore 7 0) hexGroupCore :: .seq (frontCore 1 6) (.literal [':']) :: (List.range 6).map gapCore ++
    [.seq (.literal [':']) (.alt (backCore 1 6) (.literal [':']))]

variable {w : List Char} {a b c : Char} {n min more : Nat}

lemma contains_digits : (⟨[⟨48, 48 + n⟩]⟩ : CharSet).contains c = true ↔ 48 ≤ c.toNat ∧ c.toNat ≤ 48 + n := by
  simp [CharSet.contains, CharSet.containsCode, CharRange.contains]

lemma spells_digitCore (hn : n ≤ 9) : (digitCore n).Spells w ↔ ∃ c, isDigit c = true ∧ digitValue c ≤ n ∧ w = [c] := by
  simp only [digitCore, Core.Spells, contains_digits, isDigit_iff, digitValue, show '0'.toNat = 48 from rfl]
  refine exists_congr fun c => ?_
  rw [← and_assoc]
  refine and_congr_left fun _ => ?_
  omega

lemma eq_of_digitValue (ha : isDigit a = true) (hb : isDigit b = true) (h : digitValue a = digitValue b) : a = b := by
  rw [isDigit_iff] at ha hb
  rw [digitValue, digitValue, show '0'.toNat = 48 from rfl] at h
  exact Char.toNat_inj.mp (by omega)

lemma isOctet_of_short (hleast : 1 ≤ w.length) (hmost : w.length ≤ 2) (hdigit : ∀ c ∈ w, isDigit c = true) :
    IsOctet w := by
  have hlt : decimalValue w < 10 ^ 2 :=
    (Text.decimalValue_lt hdigit).trans_le (Nat.pow_le_pow_right (by decide) hmost)
  exact ⟨hleast, by omega, hdigit, by omega⟩

lemma isOctet_three : IsOctet [a, b, c] ↔ isDigit a = true ∧ isDigit b = true ∧ isDigit c = true ∧
    100 * digitValue a + 10 * digitValue b + digitValue c ≤ 255 := by
  have hvalue : decimalValue [a, b, c] = 100 * digitValue a + 10 * digitValue b + digitValue c := by
    simp only [decimalValue, List.foldl_cons, List.foldl_nil]
    omega
  constructor
  · rintro ⟨-, -, hdigit, hle⟩
    rw [hvalue] at hle
    exact ⟨hdigit a (by simp), hdigit b (by simp), hdigit c (by simp), hle⟩
  · rintro ⟨ha, hb, hc, hle⟩
    exact ⟨by simp, by simp, by simp [ha, hb, hc], hvalue ▸ hle⟩

lemma isOctet_of_spells (h : octetCore.Spells w) : IsOctet w := by
  have hdigit {n : Nat} {w : List Char} (hn : n ≤ 9) (h : (digitCore n).Spells w) := (spells_digitCore hn).mp h
  have htwo : digitValue '2' = 2 := rfl
  have hfive : digitValue '5' = 5 := rfl
  rcases h with ⟨_, _, rfl, h, rfl⟩ | ⟨_, _, ⟨_, _, rfl, h, rfl⟩, h', rfl⟩ | ⟨_, _, ⟨_, _, h, h', rfl⟩, h'', rfl⟩
  · obtain ⟨c, hc, hle, rfl⟩ := hdigit (by decide) h
    exact isOctet_three.mpr ⟨rfl, rfl, hc, by omega⟩
  · obtain ⟨b, hb, hle, rfl⟩ := hdigit (by decide) h
    obtain ⟨c, hc, hle', rfl⟩ := hdigit (by decide) h'
    exact isOctet_three.mpr ⟨rfl, hb, hc, by omega⟩
  · obtain ⟨b, hb, hle, rfl⟩ := hdigit (by decide) h'
    rcases Core.spells_maybe.mp h with rfl | h <;> rcases Core.spells_maybe.mp h'' with rfl | h''
    · exact isOctet_of_short (by simp) (by simp) (by simp [hb])
    · obtain ⟨c, hc, -, rfl⟩ := hdigit (by decide) h''
      exact isOctet_of_short (by simp) (by simp) (by simp [hb, hc])
    · obtain ⟨a, ha, -, rfl⟩ := hdigit (by decide) h
      exact isOctet_of_short (by simp) (by simp) (by simp [ha, hb])
    · obtain ⟨a, ha, hle', rfl⟩ := hdigit (by decide) h
      obtain ⟨c, hc, hle'', rfl⟩ := hdigit (by decide) h''
      exact isOctet_three.mpr ⟨ha, hb, hc, by omega⟩

lemma spells_of_isOctet (h : IsOctet w) : octetCore.Spells w := by
  have hdigit {n : Nat} {c : Char} (hn : n ≤ 9) (hc : isDigit c = true) (hle : digitValue c ≤ n) :
      (digitCore n).Spells [c] := (spells_digitCore hn).mpr ⟨c, hc, hle, rfl⟩
  have hnine {c : Char} (hc : isDigit c = true) := hdigit le_rfl hc (Text.digitValue_le hc)
  have hnone {n : Nat} : (Core.repetition 0 (some 1) true (digitCore n)).Spells [] := Core.spells_maybe.mpr (Or.inl rfl)
  have hsome {n : Nat} {w : List Char} (h : (digitCore n).Spells w) :
    (Core.repetition 0 (some 1) true (digitCore n)).Spells w := Core.spells_maybe.mpr (Or.inr h)
  match w, h with
  | [], h => exact absurd h.least (by decide)
  | [c], h => exact Or.inr (Or.inr ⟨[c], [], ⟨[], [c], hnone, hnine (h.digit c (by simp)), rfl⟩, hnone, rfl⟩)
  | [b, c], h =>
    have hb := hnine (h.digit b (by simp))
    exact Or.inr (Or.inr ⟨[b], [c], ⟨[], [b], hnone, hb, rfl⟩, hsome (hnine (h.digit c (by simp))), rfl⟩)
  | [a, b, c], h =>
    obtain ⟨ha, hb, hc, hle⟩ := isOctet_three.mp h
    -- the hundreds say how far the tens may go, and two hundred and fifty how far the ones
    rcases Nat.lt_or_ge (digitValue a) 2 with hlt | hge
    · have hfirst := hsome (hdigit (n := 1) (by decide) ha (by omega))
      exact Or.inr (Or.inr ⟨[a, b], [c], ⟨[a], [b], hfirst, hnine hb, rfl⟩, hsome (hnine hc), rfl⟩)
    · obtain rfl : a = '2' := eq_of_digitValue ha rfl (show digitValue a = 2 by omega)
      rcases Nat.lt_or_ge (digitValue b) 5 with hlt' | hge'
      · exact Or.inr (Or.inl ⟨['2', b], [c], ⟨['2'], [b], rfl, hdigit (by decide) hb (by omega), rfl⟩, hnine hc, rfl⟩)
      · obtain rfl : b = '5' := eq_of_digitValue hb rfl (show digitValue b = 5 by omega)
        exact Or.inl ⟨['2', '5'], [c], rfl, hdigit (by decide) hc (by omega), rfl⟩
  | _ :: _ :: _ :: _ :: _, h => exact absurd h.most (by simp)

lemma spells_octetCore : octetCore.Spells w ↔ IsOctet w :=
  ⟨isOctet_of_spells, spells_of_isOctet⟩

lemma spells_mark_then {mark : Char} {r : Core} {P : List Char → Prop} (h : ∀ {w}, r.Spells w ↔ P w) :
    (Core.seq (.literal [mark]) r).Spells w ↔ ∃ x, P x ∧ w = mark :: x := by
  constructor
  · rintro ⟨_, x, rfl, hx, rfl⟩
    exact ⟨x, h.mp hx, rfl⟩
  · rintro ⟨x, hx, rfl⟩
    exact ⟨[mark], x, rfl, h.mpr hx, rfl⟩

lemma spells_then_mark {mark : Char} {r : Core} {P : List Char → Prop} (h : ∀ {w}, r.Spells w ↔ P w) :
    (Core.seq r (.literal [mark])).Spells w ↔ ∃ x, P x ∧ w = x ++ [mark] := by
  constructor
  · rintro ⟨x, _, hx, rfl, rfl⟩
    exact ⟨x, h.mp hx, rfl⟩
  · rintro ⟨x, hx, rfl⟩
    exact ⟨x, [mark], h.mpr hx, rfl, rfl⟩

lemma spells_ipv4Core : ipv4Core.Spells w ↔ IsIpv4 w := by
  have hrest {w : List Char} := @Core.spells_repetition _ 3 true w 0 _ ('.' :: ·) (spells_mark_then spells_octetCore)
  constructor
  · rintro ⟨x, v, hx, hv, rfl⟩
    obtain ⟨xs, hmin, hmax, hall, rfl⟩ := hrest.mp hv
    refine ⟨x :: xs, ?_, List.forall_mem_cons.mpr ⟨spells_octetCore.mp hx, hall⟩, (intercalate_cons x xs).symm⟩
    rw [List.length_cons]
    omega
  · rintro ⟨octets, hlength, hall, rfl⟩
    obtain ⟨x, xs, rfl⟩ := List.exists_cons_of_length_eq_add_one hlength
    obtain ⟨hx, hxs⟩ := List.forall_mem_cons.mp hall
    rw [List.length_cons] at hlength
    exact ⟨x, _, spells_octetCore.mpr hx, hrest.mpr ⟨xs, by omega, by omega, hxs, rfl⟩, intercalate_cons x xs⟩

lemma contains_hexSet : (hexSet true).contains c = true ↔ isHexDigit c = true := by
  simp only [hexSet, if_true, CharSet.contains, CharSet.containsCode, CharRange.contains, List.any_cons, List.any_nil,
    Bool.or_false, Bool.or_eq_true, Bool.and_eq_true, decide_eq_true_eq, isHexDigit_iff]
  omega

lemma spells_hexGroupCore : hexGroupCore.Spells w ↔ IsHexGroup w := by
  rw [hexGroupCore, Core.spells_repeated_chars]
  simp only [contains_hexSet]
  constructor
  · rintro ⟨hleast, hmost, hall⟩
    exact ⟨hleast, hmost 3 rfl, hall⟩
  · rintro ⟨hleast, hmost, hall⟩
    exact ⟨hleast, fun m hm => Option.mem_some.mp hm ▸ hmost, hall⟩

lemma spells_frontCore : (frontCore min more).Spells w ↔ ∃ xs : List (List Char), min ≤ xs.length ∧
    xs.length ≤ min + more ∧ (∀ x ∈ xs, IsHexGroup x) ∧ w = xs.flatMap (· ++ [':']) :=
  Core.spells_repetition (spells_then_mark spells_hexGroupCore)

lemma spells_backCore : (backCore min more).Spells w ↔ ∃ xs : List (List Char), min ≤ xs.length ∧
    xs.length ≤ min + more ∧ (∀ x ∈ xs, IsHexGroup x) ∧ w = xs.flatMap (':' :: ·) :=
  Core.spells_repetition (spells_mark_then spells_hexGroupCore)

/-- Single groups on one side of the gap are written without a repetition. -/
lemma spells_gapCore (hn : n ≤ 5) :
    (gapCore n).Spells w ↔ (Core.seq (frontCore 1 (5 - n)) (backCore 1 n)).Spells w := by
  have honce {r : Core} {w : List Char} : (Core.repetition 1 (some 0) true r).Spells w ↔ r.Spells w := by
    constructor
    · rintro ⟨ws, hmin, hmax, hall, rfl⟩
      obtain ⟨x, rfl⟩ := List.length_eq_one_iff.mp (Nat.le_antisymm (hmax 0 rfl) hmin)
      simpa using hall
    · intro h
      exact ⟨[w], le_rfl, fun m _ => by simp, by simpa using h, by simp⟩
  match n, hn with
  | 0, _ =>
    constructor
    · rintro ⟨_, g, ⟨u, v, hu, hv, rfl⟩, hg, rfl⟩
      exact ⟨u, v ++ g, hu, honce.mpr ⟨v, g, hv, hg, rfl⟩, List.append_assoc u v g⟩
    · rintro ⟨u, _, hu, h, rfl⟩
      obtain ⟨v, g, hv, hg, rfl⟩ := honce.mp h
      exact ⟨u ++ v, g, ⟨u, v, hu, hv, rfl⟩, hg, (List.append_assoc u v g).symm⟩
  | 5, _ =>
    constructor
    · rintro ⟨u, v, hu, hv, rfl⟩
      exact ⟨u, v, honce.mpr hu, hv, rfl⟩
    · rintro ⟨u, v, hu, hv, rfl⟩
      exact ⟨u, v, honce.mp hu, hv, rfl⟩
  | 1, _ | 2, _ | 3, _ | 4, _ => exact Iff.rfl

lemma isIpv6_of_spells (h : ∃ r ∈ ipv6Cores, r.Spells w) : IsIpv6 w := by
  obtain ⟨r, hr, h⟩ := h
  rw [ipv6Cores, List.cons_append, List.cons_append, List.mem_cons, List.mem_cons, List.mem_append, List.mem_map,
    List.mem_singleton] at hr
  rcases hr with rfl | rfl | ⟨n, hn, rfl⟩ | rfl
  · obtain ⟨_, g, hfront, hg, rfl⟩ := h
    obtain ⟨xs, hmin, hmax, hall, rfl⟩ := spells_frontCore.mp hfront
    have hlength : (xs ++ [g]).length = 8 := by
      rw [List.length_append, List.length_singleton]
      omega
    have hgroups := List.forall_mem_append.mpr ⟨hall, List.forall_mem_singleton.mpr (spells_hexGroupCore.mp hg)⟩
    exact Or.inl ⟨xs ++ [g], hlength, hgroups, (intercalate_concat xs g).symm⟩
  · obtain ⟨_, _, hfront, rfl, rfl⟩ := h
    obtain ⟨xs, hmin, hmax, hall, rfl⟩ := spells_frontCore.mp hfront
    refine Or.inr ⟨xs, [], by simpa using hmax, hall, List.forall_mem_nil _, ?_⟩
    rw [← intercalate_append_mark (List.ne_nil_of_length_pos hmin)]
    simp
  · have hn := List.mem_range.mp hn
    obtain ⟨_, _, hfront, hback, rfl⟩ := (spells_gapCore (by omega)).mp h
    obtain ⟨xs, hmin, hmax, hall, rfl⟩ := spells_frontCore.mp hfront
    obtain ⟨ys, hmin', hmax', hall', rfl⟩ := spells_backCore.mp hback
    refine Or.inr ⟨xs, ys, by omega, hall, hall', ?_⟩
    rw [← intercalate_append_mark (List.ne_nil_of_length_pos hmin), ← cons_intercalate (List.ne_nil_of_length_pos hmin')]
    simp
  · obtain ⟨_, _, rfl, hback | rfl, rfl⟩ := h
    · obtain ⟨ys, hmin', hmax', hall', rfl⟩ := spells_backCore.mp hback
      refine Or.inr ⟨[], ys, by simpa using hmax', List.forall_mem_nil _, hall', ?_⟩
      rw [← cons_intercalate (List.ne_nil_of_length_pos hmin')]
      simp
    · exact Or.inr ⟨[], [], by simp, List.forall_mem_nil _, List.forall_mem_nil _, rfl⟩

lemma spells_of_isIpv6 (h : IsIpv6 w) : ∃ r ∈ ipv6Cores, r.Spells w := by
  rcases h with ⟨groups, hlength, hall, rfl⟩ | ⟨front, back, hlength, hfront, hback, rfl⟩
  · obtain ⟨xs, g, rfl⟩ := (List.eq_nil_or_concat' groups).resolve_left (List.ne_nil_of_length_pos (by omega))
    obtain ⟨hxs, hg⟩ := List.forall_mem_append.mp hall
    rw [List.length_append, List.length_singleton] at hlength
    have hfront := spells_frontCore.mpr ⟨xs, (by omega : 7 ≤ _), (by omega : _ ≤ 7 + 0), hxs, rfl⟩
    exact ⟨_, List.mem_cons_self, _, g, hfront, spells_hexGroupCore.mpr (hg g (by simp)), intercalate_concat xs g⟩
  · rcases eq_or_ne front [] with rfl | hf
    · refine ⟨.seq (.literal [':']) (.alt (backCore 1 6) (.literal [':'])), by simp [ipv6Cores], [':'], _, rfl, ?_, rfl⟩
      rcases eq_or_ne back [] with rfl | hb
      · exact Or.inr rfl
      · left
        exact spells_backCore.mpr ⟨back, List.length_pos_of_ne_nil hb, by simpa using hlength, hback, cons_intercalate hb⟩
    · rcases eq_or_ne back [] with rfl | hb
      · have hspells := spells_frontCore.mpr
          ⟨front, List.length_pos_of_ne_nil hf, (by simpa using hlength : _ ≤ 1 + 6), hfront, rfl⟩
        refine ⟨.seq (frontCore 1 6) (.literal [':']), by simp [ipv6Cores], _, [':'], hspells, rfl, ?_⟩
        rw [← intercalate_append_mark hf]
        simp
      · have hpos := List.length_pos_of_ne_nil hf
        have hpos' := List.length_pos_of_ne_nil hb
        -- one alternative for each number of groups behind the gap
        have hmem : gapCore (back.length - 1) ∈ ipv6Cores := by
          simp only [ipv6Cores, List.cons_append, List.mem_cons, List.mem_append]
          exact Or.inr (Or.inr (Or.inl (List.mem_map_of_mem (List.mem_range.mpr (by omega)))))
        have hspells := spells_frontCore.mpr ⟨front, hpos, (by omega : _ ≤ 1 + (5 - (back.length - 1))), hfront, rfl⟩
        have hspells' := spells_backCore.mpr ⟨back, hpos', (by omega : _ ≤ 1 + (back.length - 1)), hback, rfl⟩
        refine ⟨_, hmem, (spells_gapCore (by omega)).mpr ⟨_, _, hspells, hspells', ?_⟩⟩
        rw [← intercalate_append_mark hf, ← cons_intercalate hb]
        simp

/-- A group whose alternatives are those of addresses, and some with a percent sign or dots in them. -/
def isAddressGroup : Core → Bool
  | .capture _ r => r.sightless && r.branches.filter (fun x => !x.needs '%' && !x.needs '.') == ipv6Cores
  | _ => false

lemma accepts_of_isAddressGroup {r : Core} (h : isAddressGroup r = true) (hpercent : '%' ∉ w) (hdot : '.' ∉ w) :
    r.Accepts w ↔ IsIpv6 w := by
  match r, h with
  | .capture index r, h =>
    rw [isAddressGroup, Bool.and_eq_true, beq_iff_eq] at h
    obtain ⟨hs, hbranches⟩ := h
    have hs : (Core.capture index r).sightless = true := hs
    rw [Core.accepts_iff_spells hs]
    change r.Spells w ↔ _
    rw [Core.spells_branches]
    constructor
    · rintro ⟨x, hx, hspells⟩
      have hneeds : x.needs '%' = false ∧ x.needs '.' = false :=
        ⟨Bool.eq_false_iff.mpr fun hn => hpercent (hspells.mem_of_needs hn),
          Bool.eq_false_iff.mpr fun hn => hdot (hspells.mem_of_needs hn)⟩
      refine isIpv6_of_spells ⟨x, hbranches ▸ List.mem_filter.mpr ⟨hx, ?_⟩, hspells⟩
      rw [hneeds.1, hneeds.2]
      rfl
    · intro hw
      obtain ⟨x, hx, hspells⟩ := spells_of_isIpv6 hw
      exact ⟨x, (List.mem_filter.mp (hbranches ▸ hx)).1, hspells⟩

end Fragment

namespace Matcher

open Address

variable {types : Registry} {config : Config} {t : GroupType} {m : Matcher}

lemma runs_ipv4 : ((Regex.result? (GroupType.readFragment Fragment.spelledIpv4.chars)).any fun whole =>
    runs false (Pattern.groupText whole.withoutCaptures) fun bare _ =>
      bare.core == .capture 0 Fragment.ipv4Core) = true := by
  decide +kernel

lemma runs_ipv6 : ((Regex.result? (GroupType.readFragment Fragment.spelledIpv6.chars)).any fun whole =>
    runs false (Pattern.groupText whole.withoutCaptures) fun bare _ => Fragment.isAddressGroup bare.core) = true := by
  decide +kernel

lemma run_ofType_iff (hf : types.find? t.name = some t) (hc : t.converter = .identity)
    (h : make types config (Pattern.ofType t.name) = .ok m) (hl : m.compiled.Legible) (haystack : String) :
    (∃ r, m.run .full haystack = .ok r ∧ r.isMatch = true) ↔ m.bare.core.Accepts haystack.toList := by
  rw [← full_iff h]
  constructor
  · rintro ⟨r, hr, hmatch⟩ ⟨r', hr', hno⟩
    obtain rfl := Except.ok.inj (hr.symm.trans hr')
    exact absurd hmatch (by simp [hno])
  · intro hfull
    obtain ⟨found, hfind⟩ := Option.isSome_iff_exists.mp (not_missed_run.mp hfull)
    obtain ⟨raw, -, hresult⟩ := resultOf_ofType hf h hl (foundAt_of_matchAt h .full (Regex.Point.starts_ofText _) hfind)
    rw [hc] at hresult
    exact ⟨_, (run_of_find? hfind).trans hresult, rfl⟩

/-- The types `ipv4` and `ipv6` match the addresses of their kind, and among the texts without percent signs and dots
nothing else. -/
theorem ip_types_match_addresses (origin : Nat) (flexible : Bool) :
    (∃ m, make (.builtin origin) ⟨true, flexible⟩ (Pattern.ofType "ipv4") = .ok m ∧ ∀ haystack : String,
      (∃ r, m.run .full haystack = .ok r ∧ r.isMatch = true) ↔ IsIpv4 haystack.toList) ∧
    ∃ m, make (.builtin origin) ⟨true, flexible⟩ (Pattern.ofType "ipv6") = .ok m ∧ ∀ haystack : String,
      '%' ∉ haystack.toList → '.' ∉ haystack.toList →
        ((∃ r, m.run .full haystack = .ok r ∧ r.isMatch = true) ↔ IsIpv6 haystack.toList) := by
  have he : ("ipv4", Fragment.ipv4, Converter.identity) ∈ Registry.builtinTypes := List.mem_of_getElem? (i := 13) rfl
  have he' : ("ipv6", Fragment.ipv6, Converter.identity) ∈ Registry.builtinTypes := List.mem_of_getElem? (i := 14) rfl
  constructor
  · obtain ⟨t, m, hf, hname, hconverter, hm, hcore⟩ :=
      @exists_make_builtin_with origin ⟨true, flexible⟩ _ he Fragment.spelledIpv4 _ runs_ipv4
    obtain hname : t.name = "ipv4" := hname
    refine ⟨m, hname ▸ hm, fun haystack => ?_⟩
    rw [run_ofType_iff hf hconverter hm (legible_builtin hm), beq_iff_eq.mp hcore, Core.accepts_iff_spells rfl]
    exact Fragment.spells_ipv4Core
  · obtain ⟨t, m, hf, hname, hconverter, hm, hcore⟩ :=
      @exists_make_builtin_with origin ⟨true, flexible⟩ _ he' Fragment.spelledIpv6 _ runs_ipv6
    obtain hname : t.name = "ipv6" := hname
    refine ⟨m, hname ▸ hm, fun haystack hpercent hdot => ?_⟩
    rw [run_ofType_iff hf hconverter hm (legible_builtin hm)]
    exact Fragment.accepts_of_isAddressGroup hcore hpercent hdot

/-- The longest octets, and zeros left out in the middle of an address. -/
theorem ip_types_match_addresses_gap :
    (∃ m, make (.builtin 0) {} (Pattern.ofType "ipv4") = .ok m ∧
      ∃ r, m.run .full "1.22.200.255" = .ok r ∧ r.isMatch = true) ∧
    ∃ m, make (.builtin 0) {} (Pattern.ofType "ipv6") = .ok m ∧ '%' ∉ "fe80::1:2F".toList ∧
      '.' ∉ "fe80::1:2F".toList ∧ ∃ r, m.run .full "fe80::1:2F" = .ok r ∧ r.isMatch = true := by
  obtain ⟨⟨m, hm, hiff⟩, m', hm', hiff'⟩ := ip_types_match_addresses 0 false
  have hpercent : '%' ∉ "fe80::1:2F".toList := by decide
  have hdot : '.' ∉ "fe80::1:2F".toList := by decide
  have hipv4 : IsIpv4 "1.22.200.255".toList :=
    ⟨["1".toList, "22".toList, "200".toList, "255".toList], by decide, by decide, by decide⟩
  have hipv6 : IsIpv6 "fe80::1:2F".toList :=
    Or.inr ⟨["fe80".toList], ["1".toList, "2F".toList], by decide, by decide, by decide, by decide⟩
  exact ⟨⟨m, hm, (hiff _).mpr hipv4⟩, m', hm', hpercent, hdot, (hiff' _ hpercent hdot).mpr hipv6⟩

end Matcher

end TypedPattern
