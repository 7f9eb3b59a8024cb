import TypedPattern.Proofs.Reading.Cursor
import TypedPattern.Proofs.Printing.Group

/-! What is read of operators and of the heads of groups. -/

namespace TypedPattern.Regex

variable {c d : Cursor}

namespace Repetition

open Text

lemma verbose_digits (k : Nat) (c : Cursor) : (digits k c).2.verbose = c.verbose := by
  induction k generalizing c with
  | zero => rfl
  | succ k ih =>
    rw [digits]
    split
    · rfl
    · split
      · exact (ih _).trans c.verbose_bumpSkip
      · rfl

lemma verbose_passWhite (k : Nat) (c : Cursor) : (passWhite k c).verbose = c.verbose := by
  induction k generalizing c with
  | zero => rfl
  | succ k ih =>
    rw [passWhite]
    split
    · rfl
    · split
      · exact (ih _).trans c.verbose_bumpSkip
      · rfl

lemma verbose_count (c : Cursor) : (count c).2.verbose = c.verbose := by
  unfold count
  dsimp only
  split_ifs <;> rw [verbose_passWhite, verbose_digits]

lemma count_lt {n : Nat} (h : (count c).1 = .ok n) : n < twoTo 32 := by
  unfold count at h
  dsimp only at h
  split_ifs at h with h1 h2
  · cases h
  · cases h
    exact h2
  · cases h

lemma counts_ok {start : Nat} {kind : RepetitionKind} (h : counts start c = .ok (kind, d)) :
    d.verbose = c.verbose ∧ (isValid kind = true → kind.Written) ∧ kind ≠ .zeroOrOne := by
  unfold counts at h
  dsimp only at h
  split_ifs at h with h1 h2 h3 h4
  · obtain ⟨m, hm, he⟩ := map_eq_ok.mp h
    cases he
    exact ⟨by rw [Cursor.verbose_bumpSkip, verbose_count], fun _ => count_lt hm, nofun⟩
  · obtain ⟨m, hm, h⟩ := bind_eq_ok.mp h
    obtain ⟨n, hn, he⟩ := map_eq_ok.mp h
    cases he
    refine ⟨by rw [verbose_count, Cursor.verbose_bumpSkip, verbose_count], fun hv => ?_, nofun⟩
    exact ⟨of_decide_eq_true hv, count_lt hn⟩
  · obtain ⟨m, hm, he⟩ := map_eq_ok.mp h
    cases he
    exact ⟨verbose_count c, fun _ => count_lt hm, nofun⟩

/-- What is read of an operator. -/
structure Reads (kind : RepetitionKind) (greedy : Bool) (c d : Cursor) : Prop where
  verbose : d.verbose = c.verbose
  written : kind.Written
  mark : greedy = true → d.rest.head? ≠ some '?'
  single : kind = .zeroOrOne → c.rest.head? = some '?'

lemma readSign_ok {sign kind : RepetitionKind} {greedy : Bool} (h : readSign sign c = (kind, greedy, d))
    (hw : sign.Written) (hs : sign = .zeroOrOne → c.rest.head? = some '?') :
    Reads kind greedy c d := by
  unfold readSign at h
  dsimp only at h
  split_ifs at h with hat
  · cases h
    exact ⟨by simp, hw, nofun, hs⟩
  · cases h
    exact ⟨by simp, hw, fun _ => by simpa [Cursor.at?] using hat, hs⟩

/-- An operator that is read may be written. -/
theorem read_ok {kind : RepetitionKind} {greedy : Bool} (h : read c = .ok (kind, greedy, d)) : Reads kind greedy c d := by
  unfold read at h
  split_ifs at h with h1 h2 h3
  · exact readSign_ok (Except.ok.inj h) trivial fun _ => by simpa [Cursor.at?] using h1
  · exact readSign_ok (Except.ok.inj h) trivial fun hk => by cases hk
  · exact readSign_ok (Except.ok.inj h) trivial fun hk => by cases hk
  · rw [readCounted_eq] at h
    split_ifs at h
    obtain ⟨⟨k, e⟩, hc, h⟩ := bind_eq_ok.mp h
    obtain ⟨hv, hw, hne⟩ := counts_ok hc
    unfold closeCounts at h
    dsimp only at h
    split_ifs at h with h4 h5 h6 h6
    · cases h
      refine ⟨?_, hw h5, fun hg => ?_, fun he => absurd he hne⟩
      · rw [Cursor.verbose_bump, Cursor.verbose_bumpSkip, hv, Cursor.verbose_bumpSkip]
      · rw [h6] at hg
        cases hg
    · cases h
      refine ⟨?_, hw h5, fun _ => by simpa [Cursor.at?] using h6, fun he => absurd he hne⟩
      rw [Cursor.verbose_bumpSkip, hv, Cursor.verbose_bumpSkip]
    all_goals cases h

end Repetition

namespace Group

variable {seen seen' : List CaptureName}

lemma nameChars_ok {k : Nat} {first : Bool} {name : List Char} (h : nameChars k first c = .ok (name, d)) :
    d.verbose = c.verbose ∧ (name ≠ [] → first = true → IsName name) ∧
      (first = false → ∀ x ∈ name, isNamePart x = true) := by
  induction k generalizing first c name with
  | zero =>
    cases h
    exact ⟨rfl, fun hn => absurd rfl hn, by simp⟩
  | succ k ih =>
    rw [nameChars] at h
    split at h
    · cases h
      exact ⟨rfl, fun hn => absurd rfl hn, by simp⟩
    · rename_i x r hr
      split at h
      · cases h
        exact ⟨rfl, fun hn => absurd rfl hn, by simp⟩
      · by_cases hx : (if first then isNameStart x else isNamePart x) = true
        · rw [if_pos hx] at h
          obtain ⟨⟨xs, e⟩, hn, he⟩ := map_eq_ok.mp h
          cases he
          obtain ⟨hv, -, hp⟩ := ih hn
          refine ⟨hv.trans c.verbose_bump, fun _ hf => ?_, fun hf => ?_⟩
          · rw [hf, if_pos rfl] at hx
            exact ⟨x, xs, rfl, hx, hp rfl⟩
          · rw [hf, if_neg Bool.false_ne_true] at hx
            exact List.forall_mem_cons.mpr ⟨hx, hp rfl⟩
        · rw [if_neg hx] at h
          cases h

lemma readName_ok {found : CaptureName} (h : readName seen c = .ok (found, d)) :
    d.verbose = c.verbose ∧ IsName found.name ∧ found.name ∉ seen.map (·.name) := by
  unfold readName at h
  dsimp only at h
  obtain ⟨⟨name, e⟩, hn, h⟩ := bind_eq_ok.mp h
  dsimp only at h
  split_ifs at h with h1 h2
  · cases h
  · cases h
  · obtain ⟨hv, hname, -⟩ := nameChars_ok hn
    split at h
    · cases h
    · rename_i hf
      cases h
      rw [List.find?_eq_none] at hf
      refine ⟨by rw [Cursor.verbose_bump, hv], hname (by simpa using h2) rfl, ?_⟩
      rw [List.mem_map]
      rintro ⟨other, hm, he⟩
      exact hf other hm (by simpa using he)

lemma nodup_push {done : List FlagItem} {item : FlagItem} (hd : (done.map FlagItem.bare).Nodup)
    (h : repeated? done item = none) : ((done ++ [item]).map FlagItem.bare).Nodup := by
  have hm : item.bare ∉ done.map FlagItem.bare := by
    rw [← List.contains_iff_mem, ← repeated?_bare, h]
    nofun
  rw [List.map_append, List.map_singleton]
  refine List.nodup_append.mpr ⟨hd, List.nodup_singleton _, fun x hx y hy he => hm ?_⟩
  rw [← List.mem_singleton.mp hy, ← he]
  exact hx

lemma readFlags_ok {k : Nat} {done items : List FlagItem} (hk : c.rest.length < k) (hd : (done.map FlagItem.bare).Nodup)
    (h : readFlags k done c = .ok (items, d)) : d.verbose = c.verbose ∧ FlagsWritten (items.map FlagItem.bare) := by
  induction k generalizing c done with
  | zero => exact absurd hk (Nat.not_lt_zero _)
  | succ k ih =>
    rw [readFlags] at h
    split at h
    · cases h
    · rename_i x r hr
      have hlen : c.bump.rest.length < k := by
        rw [Cursor.rest_bump, hr, List.tail_cons]
        rw [hr, List.length_cons] at hk
        omega
      split at h
      · split at h
        · cases h
        · rename_i hl
          cases h
          refine ⟨rfl, hd, fun hg => ?_⟩
          obtain ⟨s, hs⟩ := (negation_getLast?_iff items).mpr hg
          exact hl s hs
      · split at h
        · split at h
          · cases h
          · rename_i hrep
            obtain ⟨hv, hw⟩ := ih hlen (nodup_push hd hrep) h
            exact ⟨hv.trans c.verbose_bump, hw⟩
        · split at h
          · cases h
          · split at h
            · cases h
            · rename_i hrep
              obtain ⟨hv, hw⟩ := ih hlen (nodup_push hd hrep) h
              exact ⟨hv.trans c.verbose_bump, hw⟩

/-- What is read of the head of a group. -/
inductive HeadReads (seen : List CaptureName) (c : Cursor) : Opened → Prop
  | setting {items : List FlagItem} {d : Cursor} : items ≠ [] → FlagsWritten (items.map FlagItem.bare) →
      d.verbose = c.verbose → HeadReads seen c (.setting items, seen, d)
  | named (letter : Bool) {found : CaptureName} {d : Cursor} : IsName found.name → found.name ∉ seen.map (·.name) →
      d.verbose = c.verbose → HeadReads seen c (.opened (.named letter found.name), seen ++ [found], d)
  | plain {items : List FlagItem} {d : Cursor} : FlagsWritten (items.map FlagItem.bare) → d.verbose = c.verbose →
      HeadReads seen c (.opened (.plain items), seen, d)
  | numbered {d : Cursor} : d.verbose = c.verbose → HeadReads seen c (.opened .numbered, seen, d)

lemma openNamed_ok {letter : Bool} {o : Opened} (hv : d.verbose = c.verbose) (h : openNamed letter seen d = .ok o) :
    HeadReads seen c o := by
  unfold openNamed at h
  obtain ⟨⟨found, e⟩, hn, h⟩ := bind_eq_ok.mp h
  cases h
  obtain ⟨hv', hname, hnew⟩ := readName_ok hn
  exact .named letter hname hnew (hv'.trans hv)

lemma openFlags_ok {start inner : Nat} {o : Opened} (hv : d.verbose = c.verbose)
    (h : openFlags start inner seen d = .ok o) : HeadReads seen c o := by
  unfold openFlags at h
  split_ifs at h
  · cases h
  · obtain ⟨⟨items, e⟩, hf, h⟩ := bind_eq_ok.mp h
    have hnone : (([] : List FlagItem).map FlagItem.bare).Nodup := List.nodup_nil
    obtain ⟨hv', hw⟩ := readFlags_ok (Nat.lt_succ_self _) hnone hf
    dsimp only at h
    split_ifs at h with h1 h2
    · cases h
    · cases h
      exact .setting (by simpa using h2) hw (by rw [Cursor.verbose_bump, hv', hv])
    · cases h
      exact .plain hw (by rw [Cursor.verbose_bump, hv', hv])

/-- The head of a group that is read may be written. -/
theorem readHead_ok {o : Opened} (h : readHead seen c = .ok o) : HeadReads seen c o := by
  have hv : ∀ {text : List Char} {e : Cursor}, c.bumpSkip.after? text = some e → e.verbose = c.verbose := by
    intro text e he
    rw [(Bracket.after?_eq_some he).2, Cursor.verbose_bumpSkip]
  unfold readHead at h
  dsimp only at h
  split at h
  · cases h
  · split at h
    · rename_i he
      exact openNamed_ok (hv he) h
    · split at h
      · rename_i he
        exact openNamed_ok (hv he) h
      · split at h
        · rename_i he
          exact openFlags_ok (hv he) h
        · cases h
          exact .numbered c.verbose_bumpSkip

end Group

end TypedPattern.Regex
