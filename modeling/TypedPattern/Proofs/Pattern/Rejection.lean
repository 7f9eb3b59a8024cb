import TypedPattern.Proofs.Pattern.Joining
import TypedPattern.Proofs.Pattern.Lexeme

/-! Which texts are not patterns, and what is said of them. -/

namespace TypedPattern.Pattern

open Lexeme (bar bytes)
open Text (byteLength)

namespace Token

/-- A token is a segment of a branch. -/
def Inner (t : Token) : Prop :=
  ∃ s, t.kind.segment? = some s

lemma inner_foldr_join {ts : List Token} (h : ∀ t ∈ ts, t.Inner) : ∀ t ∈ ts.foldr join [], t.Inner := by
  induction ts with
  | nil => exact h
  | cons t ts ih =>
    obtain ⟨ht, hts⟩ := List.forall_mem_cons.mp h
    have hrest := ih hts
    rw [List.foldr_cons]
    generalize ts.foldr join [] = us at hrest
    obtain ⟨start, mid, kind⟩ := t
    cases us with
    | nil => cases kind <;> exact List.forall_mem_cons.mpr ⟨ht, hrest⟩
    | cons u us =>
      obtain ⟨mid', stop, kind'⟩ := u
      cases kind <;> cases kind' <;> first
        | exact List.forall_mem_cons.mpr ⟨ht, hrest⟩
        | exact List.forall_mem_cons.mpr ⟨⟨_, rfl⟩, (List.forall_mem_cons.mp hrest).2⟩

end Token

lemma readBranch_inner {ts : List Token} (h : ∀ t ∈ ts, t.Inner) :
    ∃ ss, ∀ us, readBranch (ts ++ us) = (readBranch us).map fun x => (ss ++ x.1, x.2) := by
  induction ts with
  | nil =>
    refine ⟨[], fun us => ?_⟩
    cases hu : readBranch us <;> simp [hu, Except.map]
  | cons t ts ih =>
    obtain ⟨⟨s, hs⟩, hts⟩ := List.forall_mem_cons.mp h
    obtain ⟨ss, hread⟩ := ih hts
    obtain ⟨start, stop, kind⟩ := t
    refine ⟨s :: ss, fun us => ?_⟩
    rw [List.cons_append, readBranch, hread]
    cases kind <;> cases hs <;> cases hu : readBranch us <;> rfl

namespace Lexeme

lemma inner_token {l : Lexeme} (h : l ≠ bar) (pos : Nat) : (l.token pos).Inner := by
  cases l with
  | escape c => exact ⟨_, rfl⟩
  | group content => exact ⟨_, rfl⟩
  | plain c =>
    have hc : c ≠ '|' := fun hc => h (by rw [hc, bar])
    simp only [token, kind, Token.ofChar, Token.Inner, if_neg hc]
    cases Wildcard.ofChar? c with
    | some w => exact ⟨_, rfl⟩
    | none => exact ⟨_, rfl⟩

lemma inner_tokens {ls : List Lexeme} (h : bar ∉ ls) (pos : Nat) : ∀ t ∈ tokens pos ls, t.Inner := by
  induction ls generalizing pos with
  | nil => exact fun t ht => absurd ht List.not_mem_nil
  | cons l ls ih =>
    simp only [List.mem_cons, not_or] at h
    exact List.forall_mem_cons.mpr ⟨inner_token (Ne.symm h.1) pos, ih h.2 _⟩

end Lexeme

variable {text rest : List Char} {ls : List Lexeme}

lemma readBranch_reading (h : Reading text ls rest) (hb : bar ∉ ls) (pos : Nat)
    (hs : Token.StartsNoText (tokensFrom (pos + bytes ls) rest)) :
    ∃ ss, readBranch (tokensFrom pos text) =
      (readBranch (tokensFrom (pos + bytes ls) rest)).map fun x => (ss ++ x.1, x.2) := by
  obtain ⟨ss, hread⟩ := readBranch_inner (Token.inner_foldr_join (Lexeme.inner_tokens hb pos))
  refine ⟨ss, ?_⟩
  rw [← hread, ← Token.foldr_join_append _ hs, tokensFrom, h.single_eq, List.foldr_append]
  rfl

lemma readBranch_end (h : Reading text ls []) (hb : bar ∉ ls) (pos : Nat) :
    ∃ ss, readBranch (tokensFrom pos text) = .ok (ss, []) := by
  obtain ⟨ss, hread⟩ := readBranch_reading h hb pos (EndsBranch.startsNoText (Or.inl rfl) _)
  exact ⟨ss ++ [], hread⟩

lemma readBranch_bar (h : Reading text ls ('|' :: rest)) (hb : bar ∉ ls) (pos : Nat) :
    ∃ ss, readBranch (tokensFrom pos text) =
      .ok (ss, ⟨pos + bytes ls, pos + bytes ls + 1, .bar⟩ :: tokensFrom (pos + bytes ls + 1) rest) := by
  have hends : EndsBranch ('|' :: rest) := Or.inr ⟨rest, rfl⟩
  obtain ⟨ss, hread⟩ := readBranch_reading h hb pos (hends.startsNoText _)
  rw [readBranch_endsBranch hends, tokensFrom_bar] at hread
  exact ⟨ss ++ [], hread⟩

lemma readBranch_dangling (h : Reading text ls ('[' :: rest)) (hd : Dangling ('[' :: rest)) (hb : bar ∉ ls) (pos : Nat) :
    readBranch (tokensFrom pos text) = .error (.unterminatedGroup (String.ofList (snippet rest)) (pos + bytes ls)) := by
  have htokens : tokensFrom (pos + bytes ls) ('[' :: rest) =
      [⟨pos + bytes ls, pos + bytes ls + byteLength (snippet rest), .unterminated (snippet rest)⟩] := by
    rw [tokensFrom, hd.single_eq]
    rfl
  obtain ⟨ss, hread⟩ := readBranch_reading h hb pos (by simp [htokens, Token.StartsNoText])
  rw [hread, htokens]
  rfl

lemma read_error {text : String} {e : Error} (h : readBranch (tokensFrom 0 text.toList) = .error e) : read text = .error e := by
  unfold read
  change (readBranch (tokensFrom 0 _)).bind _ = _
  rw [h]
  rfl

lemma read_behind {text : String} {left : List (Segment WrittenGroup)} {t : Token} {ts : List Token}
    (h : readBranch (tokensFrom 0 text.toList) = .ok (left, t :: ts)) : read text = (readBranch ts).bind fun x =>
      match x.2 with
      | [] => .ok (.two left x.1)
      | u :: _ => .error (.secondAlternation (String.ofList ((Text.dropBytes u.start text.toList).getD [])) u.start) := by
  unfold read
  change (readBranch (tokensFrom 0 _)).bind _ = _
  rw [h]
  rfl

section Outcomes

variable {text : String}

/-- A reading past a bar goes on behind the first one, as does that of the branches. -/
lemma read_past_bar (h : Reading text.toList ls rest) (hb : bar ∈ ls) : ∃ back more left t pos, Reading more back rest ∧
    ls.count bar = back.count bar + 1 ∧ bytes ls = pos + bytes back ∧
      readBranch (tokensFrom 0 text.toList) = .ok (left, t :: tokensFrom pos more) := by
  obtain ⟨front, back, rfl, hno⟩ := List.eq_append_cons_of_mem hb
  obtain ⟨more, hfront, hback⟩ := h.split
  obtain _ | ⟨⟨rfl, -⟩, hback⟩ := hback
  obtain ⟨left, hleft⟩ := readBranch_bar hfront hno 0
  refine ⟨back, _, left, _, _, hback, ?_, ?_, hleft⟩
  · rw [List.count_append, List.count_eq_zero_of_not_mem hno, List.count_cons_self, Nat.zero_add]
  · have hbar : byteLength bar.chars = 1 := rfl
    rw [Lexeme.bytes_append, Lexeme.bytes_cons, hbar]
    omega

lemma read_one_of_reading (h : Reading text.toList ls []) (hc : ls.count bar = 0) : ∃ only, read text = .ok (.one only) := by
  obtain ⟨ss, hread⟩ := readBranch_end h (List.count_eq_zero.mp hc) 0
  exact ⟨ss, read_eq_one.mpr hread⟩

lemma read_two_of_reading (h : Reading text.toList ls []) (hc : ls.count bar = 1) :
    ∃ left right, read text = .ok (.two left right) := by
  obtain ⟨back, more, left, t, pos, hback, hcount, -, hleft⟩ := read_past_bar h (List.count_pos_iff.mp (by omega))
  obtain ⟨right, hright⟩ := readBranch_end hback (List.count_eq_zero.mp (by omega)) pos
  exact ⟨left, right, read_eq_ok.mpr ⟨_, _, hleft, Or.inr ⟨_, _, _, rfl, hright, rfl⟩⟩⟩

lemma read_of_dangling (h : Reading text.toList ls ('[' :: rest)) (hd : Dangling ('[' :: rest)) (hc : ls.count bar ≤ 1) :
    read text = .error (.unterminatedGroup (String.ofList (snippet rest)) (bytes ls)) := by
  by_cases hb : bar ∈ ls
  · obtain ⟨back, more, left, t, pos, hback, hcount, hsize, hleft⟩ := read_past_bar h hb
    rw [read_behind hleft, readBranch_dangling hback hd (List.count_eq_zero.mp (by omega)), ← hsize]
    rfl
  · have hleft := readBranch_dangling h hd hb 0
    rw [Nat.zero_add] at hleft
    exact read_error hleft

lemma read_of_second_bar (h : Reading text.toList ls ('|' :: rest)) (hc : ls.count bar = 1) :
    read text = .error (.secondAlternation (String.ofList ('|' :: rest)) (bytes ls)) := by
  obtain ⟨back, more, left, t, pos, hback, hcount, hsize, hleft⟩ := read_past_bar h (List.count_pos_iff.mp (by omega))
  obtain ⟨right, hright⟩ := readBranch_bar hback (List.count_eq_zero.mp (by omega)) pos
  have hdrop : Text.dropBytes (bytes ls) text.toList = some ('|' :: rest) := by
    rw [h.text_eq]
    exact Text.dropBytes_append _ _
  rw [← hsize] at hright
  rw [read_behind hleft, hright]
  change Except.error (Error.secondAlternation (String.ofList ((Text.dropBytes _ text.toList).getD [])) _) = _
  rw [hdrop]
  rfl

end Outcomes

/-- The reading of a text meets a bracket that opens no group, and one bar at most before it. -/
def MeetsDangling (text : List Char) (e : Error) : Prop :=
  ∃ ls rest, Reading text ls ('[' :: rest) ∧ Dangling ('[' :: rest) ∧ ls.count bar ≤ 1 ∧
    e = .unterminatedGroup (String.ofList (snippet rest)) (bytes ls)

/-- The reading of a text meets a second bar. -/
def MeetsSecondBar (text : List Char) (e : Error) : Prop :=
  ∃ ls rest, Reading text ls ('|' :: rest) ∧ ls.count bar = 1 ∧
    e = .secondAlternation (String.ofList ('|' :: rest)) (bytes ls)

/-- The reading of a text comes to its end past some bars. -/
def ReadsAll (text : List Char) (bars : Nat) : Prop :=
  ∃ ls, Reading text ls [] ∧ ls.count bar = bars

lemma meets_cases (text : List Char) :
    (∃ e, MeetsDangling text e ∨ MeetsSecondBar text e) ∨ ReadsAll text 0 ∨ ReadsAll text 1 := by
  obtain ⟨ls, rest, h, hrest⟩ := Reading.exists_reading text
  by_cases hc : ls.count bar ≤ 1
  · rcases hrest with rfl | hd
    · have hbars : ls.count bar = 0 ∨ ls.count bar = 1 := by omega
      exact Or.inr (hbars.imp (fun hb => ⟨ls, h, hb⟩) fun hb => ⟨ls, h, hb⟩)
    · obtain ⟨more, rfl⟩ := hd.1
      exact Or.inl ⟨_, Or.inl ⟨ls, more, h, hd, hc, rfl⟩⟩
  · obtain ⟨front, back, rfl, hfront⟩ := List.eq_append_cons_of_mem (List.count_pos_iff.mp (by omega : 0 < ls.count bar))
    rw [List.count_append, List.count_eq_zero_of_not_mem hfront, List.count_cons_self] at hc
    obtain ⟨middle, back, rfl, hmiddle⟩ := List.eq_append_cons_of_mem (List.count_pos_iff.mp (by omega : 0 < back.count bar))
    rw [← List.cons_append, ← List.append_assoc] at h
    obtain ⟨more, hreading, hlater⟩ := h.split
    obtain _ | ⟨⟨rfl, -⟩, -⟩ := hlater
    refine Or.inl ⟨_, Or.inr ⟨front ++ bar :: middle, _, hreading, ?_, rfl⟩⟩
    rw [List.count_append, List.count_eq_zero_of_not_mem hfront, List.count_cons_self,
      List.count_eq_zero_of_not_mem hmiddle]

/-- A text is rejected exactly where its reading from the left meets a bracket that opens no group or a second bar, for
the one that comes first; else there is one branch if there is no bar, and two if there is one. -/
theorem read_rejects_first_fault (text : String) :
    (∀ e, read text = .error e ↔ MeetsDangling text.toList e ∨ MeetsSecondBar text.toList e) ∧
      ((∃ only, read text = .ok (.one only)) ↔ ReadsAll text.toList 0) ∧
      ((∃ left right, read text = .ok (.two left right)) ↔ ReadsAll text.toList 1) := by
  have hfault : ∀ e, MeetsDangling text.toList e ∨ MeetsSecondBar text.toList e → read text = .error e := by
    rintro e (⟨ls, rest, h, hd, hc, rfl⟩ | ⟨ls, rest, h, hc, rfl⟩)
    · exact read_of_dangling h hd hc
    · exact read_of_second_bar h hc
  have hone : ReadsAll text.toList 0 → ∃ only, read text = .ok (.one only) := fun ⟨_, h, hc⟩ => read_one_of_reading h hc
  have htwo : ReadsAll text.toList 1 → ∃ left right, read text = .ok (.two left right) :=
    fun ⟨_, h, hc⟩ => read_two_of_reading h hc
  -- one of the readings is there, and its outcome rules the other ones out
  rcases meets_cases text.toList with ⟨e, he⟩ | h | h
  · have hread := hfault e he
    refine ⟨fun e' => ⟨fun h => ?_, hfault e'⟩, ⟨fun ⟨only, h⟩ => ?_, hone⟩, ⟨fun ⟨left, right, h⟩ => ?_, htwo⟩⟩
    · cases hread.symm.trans h
      exact he
    · cases hread.symm.trans h
    · cases hread.symm.trans h
  · obtain ⟨only, hread⟩ := hone h
    refine ⟨fun e' => ⟨fun h => ?_, hfault e'⟩, ⟨fun _ => h, hone⟩, ⟨fun ⟨left, right, h⟩ => ?_, htwo⟩⟩
    · cases hread.symm.trans h
    · cases hread.symm.trans h
  · obtain ⟨left, right, hread⟩ := htwo h
    refine ⟨fun e' => ⟨fun h => ?_, hfault e'⟩, ⟨fun ⟨only, h⟩ => ?_, hone⟩, ⟨fun _ => h, htwo⟩⟩
    · cases hread.symm.trans h
    · cases hread.symm.trans h

end TypedPattern.Pattern
