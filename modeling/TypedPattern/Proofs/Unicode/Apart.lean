import TypedPattern.Pattern.Resolved
import Mathlib.Tactic

/-! Blanks and ASCII marks are neither letters nor digits, so none of them stands in an identifier. -/

namespace TypedPattern

namespace CharSet

def apart (s t : CharSet) : Bool :=
  s.ranges.all fun r => t.ranges.all fun q => decide (r.hi < q.lo) || decide (q.hi < r.lo)

lemma not_contains_of_apart {s t : CharSet} (h : s.apart t = true) {c : Char} (hs : s.contains c = true) :
    t.contains c = false := by
  simp only [contains, containsCode, CharRange.contains, List.any_eq_true, Bool.and_eq_true, decide_eq_true_eq] at hs
  obtain ⟨r, hr, hlo, hhi⟩ := hs
  simp only [contains, containsCode, CharRange.contains, List.any_eq_false, Bool.and_eq_true, decide_eq_true_eq]
  intro q hq hc
  simp only [apart, List.all_eq_true, Bool.or_eq_true, decide_eq_true_eq] at h
  have := h r hr q hq
  omega

end CharSet

/-- The ASCII characters that are neither letters nor digits. -/
def asciiMarks : CharSet :=
  ⟨[⟨0, 0x2F⟩, ⟨0x3A, 0x40⟩, ⟨0x5B, 0x60⟩, ⟨0x7B, 0x7F⟩]⟩

def outsideNames : CharSet :=
  ⟨Unicode.whiteSpace.ranges ++ asciiMarks.ranges⟩

lemma outsideNames_apart :
    (outsideNames.apart Unicode.alphabetic && outsideNames.apart Unicode.numeric) = true := by
  rw [Bool.and_eq_true]
  exact ⟨by decide +kernel, by decide +kernel⟩

lemma contains_outsideNames_of_white {c : Char} (h : isWhite c = true) : outsideNames.contains c = true := by
  simp only [isWhite, CharSet.contains, CharSet.containsCode, List.any_eq_true] at h
  obtain ⟨r, hr, hc⟩ := h
  simp only [outsideNames, CharSet.contains, CharSet.containsCode, List.any_eq_true]
  exact ⟨r, List.mem_append_left _ hr, hc⟩

lemma contains_outsideNames_of_mark {c : Char} (h : asciiMarks.contains c = true) :
    outsideNames.contains c = true := by
  simp only [CharSet.contains, CharSet.containsCode, List.any_eq_true] at h
  obtain ⟨r, hr, hc⟩ := h
  simp only [outsideNames, CharSet.contains, CharSet.containsCode, List.any_eq_true]
  exact ⟨r, List.mem_append_right _ hr, hc⟩

lemma not_alphanumeric {c : Char} (h : outsideNames.contains c = true) :
    isAlphabetic c = false ∧ isAlphanumeric c = false := by
  have ha := outsideNames_apart
  rw [Bool.and_eq_true] at ha
  have hl : isAlphabetic c = false := CharSet.not_contains_of_apart ha.1 h
  have hn : Unicode.numeric.contains c = false := CharSet.not_contains_of_apart ha.2 h
  exact ⟨hl, by simp only [isAlphanumeric, hl, hn, Bool.or_self]⟩

namespace Pattern

lemma isIdentifier_char {name : String} (h : isIdentifier name = true) {c : Char} (hc : c ∈ name.toList) :
    c = '_' ∨ isAlphanumeric c = true := by
  unfold isIdentifier at h
  cases hn : name.toList with
  | nil => simp [hn] at hc
  | cons d ds =>
    simp only [hn, Bool.and_eq_true, Bool.or_eq_true, beq_iff_eq, List.all_eq_true] at h
    rw [hn] at hc
    rcases List.mem_cons.mp hc with rfl | hd
    · rcases h.1 with h | h
      · exact Or.inl h
      · exact Or.inr (by simp only [isAlphanumeric, h, Bool.true_or])
    · exact h.2 c hd

lemma isIdentifier_ne {name : String} (h : isIdentifier name = true) {c : Char} (hc : c ∈ name.toList)
    (d : Char) (hd : d ≠ '_') (ho : outsideNames.contains d = true) : c ≠ d := by
  rintro rfl
  rcases isIdentifier_char h hc with rfl | ha
  · exact hd rfl
  · rw [(not_alphanumeric ho).2] at ha
    exact Bool.false_ne_true ha

end Pattern

end TypedPattern
