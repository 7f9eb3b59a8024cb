import TypedPattern.Proofs.Pattern.Lexeme
import Mathlib.Data.List.DropRight

/-! The lexer's tokens are well-formed, and so writing out and reading are inverse. -/

namespace TypedPattern.Pattern

open Text (byteLength)

lemma mem_of_mem_trim {cs : List Char} {c : Char} (h : c ∈ trim cs) : c ∈ cs := by
  rw [trim, List.mem_reverse] at h
  have h1 := (List.dropWhile_suffix isWhite).subset h
  rw [List.mem_reverse] at h1
  exact (List.dropWhile_suffix isWhite).subset h1

lemma trim_trim (cs : List Char) : trim (trim cs) = trim cs := by
  have hp : trim cs <+: cs.dropWhile isWhite := List.rdropWhile_prefix isWhite _
  have hd : (trim cs).dropWhile isWhite = trim cs := by
    rcases hn : trim cs with _ | ⟨c, rest⟩
    · rfl
    · obtain ⟨more, hm⟩ := hp
      rw [hn, List.cons_append] at hm
      have hw : isWhite c = false := by
        have := List.head?_dropWhile_not isWhite cs
        rw [← hm] at this
        simpa using this
      exact List.dropWhile_cons_of_neg (by simp [hw])
  change List.rdropWhile isWhite ((trim cs).dropWhile isWhite) = _
  rw [hd]
  exact List.rdropWhile_idempotent isWhite _

def WrittenGroup.ConstraintOk (g : WrittenGroup) : Prop :=
  ∀ c ∈ g.constraint, c.toList ≠ [] ∧ trim c.toList = c.toList ∧ '[' ∉ c.toList ∧ ']' ∉ c.toList

lemma WrittenGroup.constraintOk_ofContent (pos : Nat) {cs : List Char} (hl : '[' ∉ cs) (hr : ']' ∉ cs) :
    (WrittenGroup.ofContent pos cs).ConstraintOk := by
  intro c hc
  simp only [ofContent, nonEmpty, Option.mem_def, Option.ite_none_left_eq_some, List.isEmpty_iff, Option.some.injEq] at hc
  obtain ⟨hne, rfl⟩ := hc
  have hm : ∀ d ∈ trim (cs.dropWhile (· != ':')).tail, d ∈ cs := by
    intro d hd
    exact (List.dropWhile_suffix _).subset (List.mem_of_mem_tail (mem_of_mem_trim hd))
  rw [String.toList_ofList]
  exact ⟨hne, trim_trim _, fun h => hl (hm _ h), fun h => hr (hm _ h)⟩

def TokenKind.Sound : TokenKind → Prop
  | text cs => cs ≠ []
  | group g => g.ConstraintOk
  | _ => True

namespace Token

lemma sound_ofChar (pos : Nat) (c : Char) : (ofChar pos c).kind.Sound := by
  unfold ofChar
  cases h : Wildcard.ofChar? c with
  | some w => trivial
  | none =>
    by_cases hb : c = '|'
    · simp [hb, TokenKind.Sound]
    · simp [hb, TokenKind.Sound]

end Token

lemma Lexeme.Heads.sound {l : Lexeme} {text rest : List Char} (h : l.Heads text rest) (pos : Nat) :
    (l.kind pos).Sound := by
  cases l with
  | escape c => exact List.cons_ne_nil c []
  | group content => exact WrittenGroup.constraintOk_ofContent pos h.2.2.1 h.2.2.2
  | plain c => exact Token.sound_ofChar pos c

lemma Reading.sound {text rest : List Char} {ls : List Lexeme} (h : Reading text ls rest) (pos : Nat) :
    ∀ t ∈ Lexeme.tokens pos ls, t.kind.Sound := by
  induction h generalizing pos with
  | done => exact fun t ht => absurd ht List.not_mem_nil
  | next hl _ ih => exact List.forall_mem_cons.mpr ⟨hl.sound pos, ih _⟩

namespace Token

lemma single_sound (pos : Nat) (cs : List Char) : ∀ t ∈ single pos cs, t.kind.Sound := by
  obtain ⟨ls, rest, h, hrest⟩ := Reading.exists_reading cs
  rw [h.single_eq]
  refine List.forall_mem_append.mpr ⟨h.sound pos, ?_⟩
  rcases hrest with rfl | hd
  · exact fun t ht => absurd ht List.not_mem_nil
  · obtain ⟨rest, rfl⟩ := hd.1
    rw [hd.single_eq, List.forall_mem_singleton]
    trivial

def IsText (t : Token) : Prop :=
  ∃ cs, t.kind = .text cs

def Joined (ts : List Token) : Prop :=
  (∀ t ∈ ts, t.kind.Sound) ∧ ts.IsChain fun t u => ¬(t.IsText ∧ u.IsText)

lemma join_eq_cons {t : Token} {ts : List Token} (h : ¬(t.IsText ∧ ∃ u ∈ ts.head?, u.IsText)) : join t ts = t :: ts := by
  by_cases ht : t.IsText
  · exact join_of_startsNoText fun u hu cs hk => h ⟨ht, u, hu, cs, hk⟩
  · exact join_of_no_text (fun cs hk => ht ⟨cs, hk⟩) ts

lemma joined_join {t : Token} {ts : List Token} (ht : t.kind.Sound) (h : Joined ts) : Joined (join t ts) := by
  obtain ⟨hs, hc⟩ := h
  by_cases hb : t.IsText ∧ ∃ u ∈ ts.head?, u.IsText
  · obtain ⟨⟨cs, hcs⟩, u, hu, ds, hds⟩ := hb
    obtain ⟨start, mid, kind⟩ := t
    cases ts with
    | nil => simp at hu
    | cons v rest =>
      obtain rfl : v = u := by simpa using hu
      obtain ⟨start', stop, kind'⟩ := v
      obtain rfl : kind = .text cs := hcs
      obtain rfl : kind' = .text ds := hds
      rw [List.isChain_cons] at hc
      refine ⟨?_, ?_⟩
      · intro w hw
        rcases List.mem_cons.mp hw with rfl | hw
        · simp only [TokenKind.Sound] at ht ⊢
          simp [ht]
        · exact hs w (by simp [hw])
      · refine List.isChain_cons.mpr ⟨?_, hc.2⟩
        intro w hw hb
        exact hc.1 w hw ⟨⟨ds, rfl⟩, hb.2⟩
  · rw [join_eq_cons hb]
    refine ⟨?_, List.isChain_cons.mpr ⟨?_, hc⟩⟩
    · intro u hu
      rcases List.mem_cons.mp hu with rfl | hu
      · exact ht
      · exact hs u hu
    · intro u hu hbu
      exact hb ⟨hbu.1, u, hu, hbu.2⟩

end Token

lemma joined_tokens (cs : List Char) : Token.Joined (tokens cs) := by
  have hj : ∀ ts : List Token, (∀ t ∈ ts, t.kind.Sound) → Token.Joined (ts.foldr Token.join []) := by
    intro ts hs
    induction ts with
    | nil => exact ⟨by simp, List.IsChain.nil⟩
    | cons t ts ih => exact Token.joined_join (hs t (by simp)) (ih (fun u hu => hs u (by simp [hu])))
  exact hj _ (Token.single_sound 0 cs)

def Segment.Sound : Segment WrittenGroup → Prop
  | literal text => text ≠ []
  | wildcard _ => True
  | group g => g.ConstraintOk

def SoundBranch (segments : List (Segment WrittenGroup)) : Prop :=
  (∀ s ∈ segments, s.Sound) ∧ segments.IsChain fun s t => ¬(s.IsLiteral ∧ t.IsLiteral)

lemma Token.Joined.tail {t : Token} {ts : List Token} (h : Token.Joined (t :: ts)) : Token.Joined ts :=
  ⟨fun u hu => h.1 u (by simp [hu]), (List.isChain_cons.mp h.2).2⟩

lemma TokenKind.Sound.segment {kind : TokenKind} {s : Segment WrittenGroup} (h : kind.Sound)
    (hs : kind.segment? = some s) : s.Sound ∧ (s.IsLiteral → ∃ cs, kind = .text cs) := by
  cases kind with
  | text cs =>
    cases hs
    exact ⟨h, fun _ => ⟨cs, rfl⟩⟩
  | wildcard w =>
    cases hs
    exact ⟨trivial, False.elim⟩
  | group g =>
    cases hs
    exact ⟨h, False.elim⟩
  | bar => cases hs
  | unterminated snippet => cases hs

/-- A branch read off joined tokens is sound, and it begins with a literal only if the tokens begin with text. -/
lemma readBranch_sound {ts rest : List Token} {segments : List (Segment WrittenGroup)} (h : Token.Joined ts)
    (hr : readBranch ts = .ok (segments, rest)) :
    SoundBranch segments ∧ Token.Joined rest ∧
      ∀ s ∈ segments.head?, s.IsLiteral → ∃ t ∈ ts.head?, t.IsText := by
  induction ts generalizing segments with
  | nil =>
    cases hr
    exact ⟨⟨by simp, List.IsChain.nil⟩, h, by simp⟩
  | cons t ts ih =>
    rcases readBranch_cons.mp hr with ⟨-, rfl, rfl⟩ | ⟨s, more, hs, hmore, rfl⟩
    · exact ⟨⟨by simp, List.IsChain.nil⟩, h, by simp⟩
    obtain ⟨hsound, htext⟩ := (h.1 t List.mem_cons_self).segment hs
    obtain ⟨⟨hall, hchain⟩, hrest, hhead⟩ := ih h.tail hmore
    refine ⟨⟨List.forall_mem_cons.mpr ⟨hsound, hall⟩, List.isChain_cons.mpr ⟨?_, hchain⟩⟩, hrest, ?_⟩
    · -- two literals in a row would be two texts in a row
      rintro u hu ⟨hsl, hul⟩
      obtain ⟨v, hv, hvt⟩ := hhead u hu hul
      exact (List.isChain_cons.mp h.2).1 v hv ⟨htext hsl, hvt⟩
    · rintro u hu hul
      obtain rfl := Option.some.inj hu
      exact ⟨t, rfl, htext hul⟩

def Written.NamesOk (w : Written) : Prop :=
  ∀ b ∈ w.toList, ∀ g ∈ Segment.groups b, ∀ n ∈ g.name, isIdentifier n = true

instance : DecidablePred Written.NamesOk := fun w =>
  inferInstanceAs (Decidable (∀ b ∈ w.toList, ∀ g ∈ Segment.groups b, ∀ n ∈ g.name, isIdentifier n = true))

lemma SoundBranch.wellFormed {segments : List (Segment WrittenGroup)} (h : SoundBranch segments)
    (hn : ∀ g ∈ Segment.groups segments, ∀ n ∈ g.name, isIdentifier n = true) : WellFormedBranch segments := by
  refine ⟨?_, h.2⟩
  intro s hs
  have hss := h.1 s hs
  cases s with
  | literal text => exact hss
  | wildcard w => trivial
  | group g => exact ⟨hn g (List.mem_filterMap.mpr ⟨_, hs, rfl⟩), hss⟩

lemma read_sound {text : String} {w : Written} (h : read text = .ok w) : ∀ b ∈ w.toList, SoundBranch b := by
  obtain ⟨left, rest, hleft, hw⟩ := read_eq_ok.mp h
  obtain ⟨hl, hrest, -⟩ := readBranch_sound (joined_tokens _) hleft
  rcases hw with ⟨-, rfl⟩ | ⟨t, ts, right, rfl, hright, rfl⟩
  · simpa [Branches.toList] using hl
  · obtain ⟨hr, -, -⟩ := readBranch_sound hrest.tail hright
    simp [Branches.toList, hl, hr]

def Written.forget : Written → Written
  | .one only => .one (only.map (Segment.placeAt 0))
  | .two left right => .two (left.map (Segment.placeAt 0)) (right.map (Segment.placeAt 0))

lemma map_placeAt_placeFrom (pos : Nat) (segments : List (Segment WrittenGroup)) :
    (placeFrom pos segments).map (Segment.placeAt 0) = segments.map (Segment.placeAt 0) := by
  induction segments generalizing pos with
  | nil => rfl
  | cons s rest ih =>
    rw [placeFrom, List.map_cons, List.map_cons, ih]
    cases s <;> rfl

lemma forget_place (w : Written) : Written.forget (Written.place w) = Written.forget w := by
  cases w with
  | one only => simp only [Written.place, Written.forget, map_placeAt_placeFrom]
  | two left right => simp only [Written.place, Written.forget, map_placeAt_placeFrom]

lemma mem_groups_placeFrom {pos : Nat} {segments : List (Segment WrittenGroup)} {g : WrittenGroup}
    (h : g ∈ Segment.groups (placeFrom pos segments)) :
    ∃ before after, renderBranch segments = before ++ (Segment.group g).render ++ after ∧
      g.pos = pos + byteLength before := by
  induction segments generalizing pos with
  | nil => simp [placeFrom, Segment.groups] at h
  | cons s rest ih =>
    have hrest : g ∈ Segment.groups (placeFrom (pos + byteLength s.render) rest) →
        ∃ before after, renderBranch (s :: rest) = before ++ (Segment.group g).render ++ after ∧
          g.pos = pos + byteLength before := by
      intro hg
      obtain ⟨before, after, hr, hp⟩ := ih hg
      refine ⟨s.render ++ before, after, ?_, ?_⟩
      · rw [renderBranch, List.flatMap_cons, ← renderBranch, hr]
        simp only [List.append_assoc]
      · rw [hp, Text.byteLength_append, Nat.add_assoc]
    cases s with
    | literal text => exact hrest h
    | wildcard w => exact hrest h
    | group k =>
      rcases List.mem_cons.mp h with rfl | h
      · refine ⟨[], renderBranch rest, ?_, rfl⟩
        rw [renderBranch, List.flatMap_cons]
        rfl
      · exact hrest h

lemma mem_groups_place {w : Written} {b : List (Segment WrittenGroup)} (hb : b ∈ (Written.place w).toList)
    {g : WrittenGroup} (hg : g ∈ Segment.groups b) :
    ∃ before after, Written.render w = before ++ (Segment.group g).render ++ after ∧ g.pos = byteLength before := by
  cases w with
  | one only =>
    obtain rfl : b = placeFrom 0 only := by simpa [Written.place, Branches.toList] using hb
    obtain ⟨before, after, hr, hp⟩ := mem_groups_placeFrom hg
    exact ⟨before, after, hr, by omega⟩
  | two left right =>
    simp only [Written.place, Branches.toList, List.mem_cons, List.not_mem_nil, or_false] at hb
    rcases hb with rfl | rfl
    · obtain ⟨before, after, hr, hp⟩ := mem_groups_placeFrom hg
      refine ⟨before, after ++ '|' :: renderBranch right, ?_, by omega⟩
      simp only [Written.render, hr, List.append_assoc]
    · obtain ⟨before, after, hr, hp⟩ := mem_groups_placeFrom hg
      refine ⟨renderBranch left ++ '|' :: before, after, ?_, ?_⟩
      · simp only [Written.render, hr, List.append_assoc, List.cons_append]
      · have hbar : Char.utf8Size '|' = 1 := rfl
        rw [hp, Text.byteLength_append, byteLength]
        omega

/-- Writing out and reading are inverse: what is well-formed is read back with its groups where they stand, and what
was read with proper names is well-formed and read back. -/
theorem read_render_inverse :
    (∀ w : Written, Written.WellFormed w →
      read (String.ofList (Written.render w)) = .ok (Written.place w) ∧
      Written.forget (Written.place w) = Written.forget w ∧
      ∀ b ∈ (Written.place w).toList, ∀ g ∈ Segment.groups b, ∃ before after,
        Written.render w = before ++ (Segment.group g).render ++ after ∧ g.pos = byteLength before) ∧
    ∀ (text : String) (w : Written), read text = .ok w → Written.NamesOk w →
      Written.WellFormed w ∧
      (read (String.ofList (Written.render w))).map Written.forget = .ok (Written.forget w) := by
  refine ⟨fun w h => ⟨read_render h, forget_place w, fun b hb g hg => mem_groups_place hb hg⟩, ?_⟩
  intro text w h hn
  have hw : Written.WellFormed w := fun b hb => (read_sound h b hb).wellFormed (hn b hb)
  refine ⟨hw, ?_⟩
  rw [read_render hw, Except.map, forget_place]

def bracketSample : Written :=
  .two [.literal "é][".toList, .group ⟨none, none, 0⟩, .literal "]*".toList]
    [.wildcard .any, .literal "[".toList, .wildcard .maybe, .group ⟨some "x", some "a:b", 7⟩]

theorem read_render_inverse_brackets :
    (Written.WellFormed bracketSample ∧
      read (String.ofList (Written.render bracketSample)) = .ok (Written.place bracketSample)) ∧
    read "é][ n : int ]|" = .ok (.two [.literal "é]".toList, .group ⟨some "n", some "int", 3⟩] []) ∧
    Written.WellFormed (.two [.literal "é]".toList, .group ⟨some "n", some "int", 3⟩] []) := by
  have hw : Written.WellFormed bracketSample := by decide +kernel
  have hr : read "é][ n : int ]|" = .ok (.two [.literal "é]".toList, .group ⟨some "n", some "int", 3⟩] []) := by
    decide +kernel
  refine ⟨⟨hw, (read_render_inverse.1 _ hw).1⟩, hr, (read_render_inverse.2 _ _ hr ?_).1⟩
  decide +kernel

end TypedPattern.Pattern
