import TypedPattern.Proofs.Reading.Cursor
import TypedPattern.Proofs.Printing.Digits

/-! Texts that do not begin with what is passed over, and readers that go on behind a text. -/

namespace TypedPattern.Regex

/-- A character that is not passed over. -/
def Solid (verbose : Bool) (c : Char) : Prop :=
  verbose = true → isWhite c = false ∧ c ≠ '#'

def Tight (verbose : Bool) (cs : List Char) : Prop :=
  ∀ c ∈ cs.head?, Solid verbose c

lemma solid_of_graph (v : Bool) {c : Char} (h : asciiGraph.contains c = true) (hc : c ≠ '#') : Solid v c :=
  fun _ => ⟨not_white_of_graph h, hc⟩

lemma solid_of_hexDigit (v : Bool) {c : Char} (h : Text.isHexDigit c = true) : Solid v c :=
  solid_of_graph v (graph_of_hexDigit h).1 (graph_of_hexDigit h).2

lemma solid_of_digit (v : Bool) {c : Char} (h : Text.isDigit c = true) : Solid v c := by
  apply solid_of_hexDigit
  rw [Text.isHexDigit, h]
  rfl

section Tight

variable {v : Bool} {c : Char} {cs ds : List Char}

lemma tight_cons : Tight v (c :: cs) ↔ Solid v c := by
  simp [Tight]

lemma tight_append (h : ∀ c ∈ cs, Solid v c) (hd : Tight v ds) : Tight v (cs ++ ds) := by
  cases cs with
  | nil => exact hd
  | cons c cs => exact tight_cons.mpr (h c (List.mem_cons_self ..))

lemma tight_append_of_ne_nil (hc : Tight v cs) (hn : cs ≠ []) : Tight v (cs ++ ds) := by
  cases cs with
  | nil => exact absurd rfl hn
  | cons c cs => exact tight_cons.mpr (tight_cons.mp hc)

lemma tight_false : Tight false cs := by
  intro c _ h
  cases h

end Tight

namespace Cursor

variable {pos : Nat} {x : Char} {cs : List Char} {v : Bool}

lemma skip_of_tight (h : Tight v cs) : (⟨pos, cs, v⟩ : Cursor).skip = ⟨pos, cs, v⟩ := by
  unfold skip
  split
  · rename_i hv
    change v = true at hv
    subst hv
    cases cs with
    | nil => rfl
    | cons c cs =>
      obtain ⟨hw, hh⟩ := tight_cons.mp h rfl
      simp [passBlanks, hw, hh]
  · rfl

lemma bumpSkip_cons (h : Tight v cs) : (⟨pos, x :: cs, v⟩ : Cursor).bumpSkip = ⟨pos + 1, cs, v⟩ :=
  skip_of_tight h

@[simp] lemma bump_cons : (⟨pos, x :: cs, v⟩ : Cursor).bump = ⟨pos + 1, cs, v⟩ :=
  rfl

@[simp] lemma at?_cons {y : Char} : (⟨pos, x :: cs, v⟩ : Cursor).at? y = (x == y) := by
  simp [at?]

@[simp] lemma at?_nil {y : Char} : (⟨pos, [], v⟩ : Cursor).at? y = false :=
  rfl

lemma at?_eq_false {y : Char} (h : cs.head? ≠ some y) : (⟨pos, cs, v⟩ : Cursor).at? y = false := by
  simpa [at?] using h

@[simp] lemma atEnd_cons : (⟨pos, x :: cs, v⟩ : Cursor).atEnd = false :=
  rfl

lemma head_passBlanks (comment : Bool) (c : Char) :
    ∀ (pos : Nat) (cs : List Char), c ∈ (passBlanks comment pos cs).2.head? → isWhite c = false ∧ c ≠ '#' := by
  intro pos cs
  induction cs generalizing comment pos with
  | nil => cases comment <;> simp [passBlanks]
  | cons d ds ih =>
    cases comment with
    | true => exact ih _ _
    | false =>
      rw [passBlanks]
      split
      · exact ih _ _
      · rename_i hw
        split
        · exact ih _ _
        · rename_i hh
          intro hc
          obtain rfl : d = c := by simpa using hc
          exact ⟨by simpa using hw, hh⟩

lemma tight_skip (c : Cursor) : Tight c.verbose c.skip.rest := by
  intro x hx hv
  rw [skip, if_pos hv] at hx
  exact head_passBlanks false x c.pos c.rest hx

end Cursor

/-- Reading goes on from one state to another behind some text, in no more steps than the text has characters. -/
def Passes {σ ρ : Type} (read : Nat → σ → ρ) (length : Nat) (s t : σ) : Prop :=
  ∃ n ≤ length, ∀ k, length ≤ k + n → read (k + n) s = read k t

namespace Passes

variable {σ ρ : Type} {read : Nat → σ → ρ} {m n : Nat} {s t u : σ}

lemma refl (s : σ) : Passes read 0 s s :=
  ⟨0, Nat.le_refl 0, fun _ _ => rfl⟩

lemma step (hn : 1 ≤ n) (h : ∀ k, n ≤ k + 1 → read (k + 1) s = read k t) : Passes read n s t :=
  ⟨1, hn, h⟩

lemma trans (h : Passes read m s t) (h' : Passes read n t u) : Passes read (m + n) s u := by
  obtain ⟨a, ha, h⟩ := h
  obtain ⟨b, hb, h'⟩ := h'
  refine ⟨a + b, by omega, fun k hk => ?_⟩
  rw [show k + (a + b) = k + b + a by omega, h (k + b) (by omega), h' k (by omega)]

lemma of_eq (h : Passes read m s t) (hm : m = n) : Passes read n s t :=
  hm ▸ h

lemma finish (h : Passes read m s t) {r : ρ} (hr : ∀ k, n < k → read k t = r) {k : Nat} (hk : m + n < k) :
    read k s = r := by
  obtain ⟨a, ha, h⟩ := h
  obtain ⟨j, rfl⟩ : ∃ j, k = j + a := ⟨k - a, by omega⟩
  rw [h j (by omega), hr j (by omega)]

end Passes

end TypedPattern.Regex
