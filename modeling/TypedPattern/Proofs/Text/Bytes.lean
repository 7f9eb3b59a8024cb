import TypedPattern.Text.Utf8
import Mathlib.Tactic

/-! Byte positions in texts that are put together. -/

namespace TypedPattern.Text

@[simp] lemma byteLength_append (a b : List Char) : byteLength (a ++ b) = byteLength a + byteLength b := by
  induction a with
  | nil => simp [byteLength]
  | cons c cs ih => simp only [List.cons_append, byteLength, ih]; omega

@[simp] lemma dropBytes_zero (cs : List Char) : dropBytes 0 cs = some cs := by
  cases cs <;> rfl

@[simp] lemma takeBytes_zero (cs : List Char) : takeBytes 0 cs = some [] := by
  cases cs <;> rfl

lemma dropBytes_append (a b : List Char) : dropBytes (byteLength a) (a ++ b) = some b := by
  induction a with
  | nil => exact dropBytes_zero b
  | cons c cs ih =>
    obtain ⟨n, hn⟩ : ∃ n, c.utf8Size + byteLength cs = n + 1 :=
      ⟨c.utf8Size + byteLength cs - 1, by have := Char.utf8Size_pos c; omega⟩
    have hsub : n + 1 - c.utf8Size = byteLength cs := by omega
    simp only [byteLength, List.cons_append, hn, dropBytes]
    rw [if_pos (by omega), hsub, ih]

lemma takeBytes_append (a b : List Char) : takeBytes (byteLength a) (a ++ b) = some a := by
  induction a with
  | nil => exact takeBytes_zero b
  | cons c cs ih =>
    obtain ⟨n, hn⟩ : ∃ n, c.utf8Size + byteLength cs = n + 1 :=
      ⟨c.utf8Size + byteLength cs - 1, by have := Char.utf8Size_pos c; omega⟩
    have hsub : n + 1 - c.utf8Size = byteLength cs := by omega
    simp only [byteLength, List.cons_append, hn, takeBytes]
    rw [if_pos (by omega), hsub, ih]
    rfl

lemma sliceBytes_append (a b c : List Char) :
    sliceBytes (byteLength a) (byteLength a + byteLength b) (a ++ b ++ c) = some b := by
  simp only [sliceBytes, List.append_assoc, dropBytes_append, Option.bind_some, Nat.add_sub_cancel_left,
    takeBytes_append]

lemma slice_append (a b c : List Char) : slice (byteLength a) (byteLength (a ++ b)) (a ++ b ++ c) = .ok b := by
  rw [slice, List.append_assoc, dropBytes_append, byteLength_append, Nat.add_sub_cancel_left]
  dsimp only
  rw [takeBytes_append]

end TypedPattern.Text
