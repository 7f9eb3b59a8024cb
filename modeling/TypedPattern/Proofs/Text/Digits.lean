import TypedPattern.Proofs.Printing.Digits

/-! Stretches of decimal digits, and the numbers that they denote. -/

namespace TypedPattern.Text

variable {cs ds : List Char} {c : Char} {n width : Nat}

lemma foldl_decimal (n : Nat) (cs : List Char) :
    cs.foldl (fun n c => 10 * n + digitValue c) n = n * 10 ^ cs.length + decimalValue cs := by
  induction cs generalizing n with
  | nil => simp [decimalValue]
  | cons c cs ih =>
    have hc := ih (10 * 0 + digitValue c)
    rw [decimalValue, List.foldl_cons, List.foldl_cons, ih, hc, List.length_cons, pow_succ]
    ring

lemma decimalValue_append (cs ds : List Char) :
    decimalValue (cs ++ ds) = decimalValue cs * 10 ^ ds.length + decimalValue ds := by
  rw [decimalValue, List.foldl_append, foldl_decimal]
  rfl

lemma decimalValue_cons (c : Char) (cs : List Char) :
    decimalValue (c :: cs) = digitValue c * 10 ^ cs.length + decimalValue cs := by
  simpa [decimalValue] using decimalValue_append [c] cs

lemma ne_of_isDigit {d : Char} (h : isDigit c = true) (hd : isDigit d = false) : c ≠ d := by
  rintro rfl
  exact absurd h (by simp [hd])

lemma digitValue_le (h : isDigit c = true) : digitValue c ≤ 9 := by
  obtain ⟨-, hle⟩ := isDigit_iff.mp h
  rw [digitValue, show '0'.toNat = 48 from rfl]
  omega

lemma decimalValue_lt (h : ∀ c ∈ cs, isDigit c = true) : decimalValue cs < 10 ^ cs.length := by
  induction cs with
  | nil => simp [decimalValue]
  | cons c cs ih =>
    obtain ⟨hc, hcs⟩ := List.forall_mem_cons.mp h
    calc decimalValue (c :: cs)
      _ = digitValue c * 10 ^ cs.length + decimalValue cs := decimalValue_cons c cs
      _ < digitValue c * 10 ^ cs.length + 10 ^ cs.length := Nat.add_lt_add_left (ih hcs) _
      _ = (digitValue c + 1) * 10 ^ cs.length := (Nat.succ_mul _ _).symm
      _ ≤ 10 * 10 ^ cs.length := Nat.mul_le_mul_right _ (Nat.succ_le_succ (digitValue_le hc))
      _ = 10 ^ (c :: cs).length := (pow_succ' 10 cs.length).symm

lemma decimalValue_padLeft (width : Nat) (cs : List Char) : decimalValue (padLeft width cs) = decimalValue cs := by
  have hzeros : ∀ k, decimalValue (List.replicate k '0') = 0 := by
    intro k
    induction k with
    | zero => rfl
    | succ k ih => simp [List.replicate_succ, decimalValue_cons, ih, digitValue]
  rw [padLeft, decimalValue_append, hzeros, Nat.zero_mul, Nat.zero_add]

lemma isDigit_of_mem_padLeft (h : ∀ c ∈ cs, isDigit c = true) : ∀ c ∈ padLeft width cs, isDigit c = true := by
  rw [padLeft, List.forall_mem_append]
  refine ⟨fun c hc => ?_, h⟩
  rw [List.eq_of_mem_replicate hc]
  rfl

lemma length_padded (hpos : 0 < width) (hn : n < 10 ^ width) : (padLeft width (decimal n)).length = width :=
  length_padLeft ((Nat.length_toDigits_le_iff (by omega) hpos).mpr hn)

/-- Decimal digits, at least `min` of them, and at most `max` if there is such a number. -/
structure Digits (min : Nat) (max : Option Nat) where
  chars : List Char
  digit : ∀ c ∈ chars, isDigit c = true
  least : min ≤ chars.length
  most : ∀ m ∈ max, chars.length ≤ m

namespace Digits

variable {min : Nat} {max : Option Nat}

def value (ds : Digits min max) : Nat :=
  decimalValue ds.chars

lemma value_lt (ds : Digits min (some width)) : ds.value < 10 ^ width :=
  (decimalValue_lt ds.digit).trans_le (Nat.pow_le_pow_right (by omega) (ds.most width rfl))

lemma chars_ne_nil (ds : Digits (n + 1) max) : ds.chars ≠ [] :=
  List.ne_nil_of_length_pos (Nat.zero_lt_of_lt ds.least)

def literal (cs : List Char) (h : cs.all isDigit = true ∧ min ≤ cs.length ∧ ∀ m ∈ max, cs.length ≤ m) :
    Digits min max :=
  ⟨cs, List.all_eq_true.mp h.1, h.2.1, h.2.2⟩

def ofNat (n : Nat) : Digits 1 none where
  chars := decimal n
  digit _ := isDigit_of_mem_decimal
  least := List.length_pos_iff.mpr (decimal_ne_nil n)
  most := by simp

@[simp] lemma value_ofNat (n : Nat) : (ofNat n).value = n :=
  decimalValue_decimal n

def padded (width n : Nat) (hmin : min ≤ width) (hmax : ∀ m ∈ max, width ≤ m) (hpos : 0 < width) (hn : n < 10 ^ width) :
    Digits min max where
  chars := padLeft width (decimal n)
  digit := isDigit_of_mem_padLeft fun _ => isDigit_of_mem_decimal
  least := (length_padded hpos hn).ge.trans' hmin
  most m hm := (length_padded hpos hn).le.trans (hmax m hm)

lemma value_padded (hmin : min ≤ width) (hmax : ∀ m ∈ max, width ≤ m) (hpos : 0 < width) (hn : n < 10 ^ width) :
    (padded width n hmin hmax hpos hn).value = n := by
  rw [value, padded, decimalValue_padLeft, decimalValue_decimal]

end Digits

end TypedPattern.Text
