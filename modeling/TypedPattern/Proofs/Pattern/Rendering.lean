import TypedPattern.Proofs.Reading.Bare
import TypedPattern.Proofs.Text.Bytes
import TypedPattern.Proofs.Unicode.Apart
import Mathlib.Data.List.TakeWhile

/-! Patterns written out, and read back. -/

namespace TypedPattern.Pattern

open Text (byteLength)

/-- A character of a literal: brackets are doubled, symbols stand between brackets. -/
def renderChar (c : Char) : List Char :=
  if c = '[' ∨ c = ']' then [c, c] else if Token.escapable c then ['[', c, ']'] else [c]

def WrittenGroup.content (g : WrittenGroup) : List Char :=
  (g.name.getD "").toList ++ (g.constraint.elim [] fun c => ':' :: c.toList)

def Segment.render : Segment WrittenGroup → List Char
  | literal text => text.flatMap renderChar
  | wildcard w => [w.char]
  | group g => '[' :: g.content ++ [']']

def renderBranch (segments : List (Segment WrittenGroup)) : List Char :=
  segments.flatMap Segment.render

def Written.render : Written → List Char
  | .one only => renderBranch only
  | .two left right => renderBranch left ++ '|' :: renderBranch right

def WrittenGroup.WellFormed (g : WrittenGroup) : Prop :=
  (∀ n ∈ g.name, isIdentifier n = true) ∧
    ∀ c ∈ g.constraint, c.toList ≠ [] ∧ trim c.toList = c.toList ∧ '[' ∉ c.toList ∧ ']' ∉ c.toList

namespace Segment

variable {γ : Type}

def IsLiteral : Segment γ → Prop
  | literal _ => True
  | _ => False

def WellFormed : Segment WrittenGroup → Prop
  | literal text => text ≠ []
  | wildcard _ => True
  | group g => g.WellFormed

def placeAt (pos : Nat) : Segment WrittenGroup → Segment WrittenGroup
  | group g => group { g with pos }
  | s => s

end Segment

def WellFormedBranch (segments : List (Segment WrittenGroup)) : Prop :=
  (∀ s ∈ segments, s.WellFormed) ∧ segments.IsChain fun s t => ¬(s.IsLiteral ∧ t.IsLiteral)

def Written.WellFormed (w : Written) : Prop :=
  ∀ b ∈ w.toList, WellFormedBranch b

instance : DecidablePred WrittenGroup.WellFormed := fun _ =>
  inferInstanceAs (Decidable (_ ∧ _))

instance : DecidablePred (Segment.WellFormed) := fun s =>
  match s with
  | .literal text => inferInstanceAs (Decidable (text ≠ []))
  | .wildcard _ => .isTrue trivial
  | .group g => inferInstanceAs (Decidable g.WellFormed)

instance {γ : Type} : DecidablePred (@Segment.IsLiteral γ) := fun s =>
  match s with
  | .literal _ => .isTrue trivial
  | .wildcard _ => .isFalse id
  | .group _ => .isFalse id

instance : DecidablePred WellFormedBranch := fun _ =>
  inferInstanceAs (Decidable (_ ∧ _))

instance : DecidablePred Written.WellFormed := fun w =>
  inferInstanceAs (Decidable (∀ b ∈ w.toList, WellFormedBranch b))

/-- The segments with their groups where they stand when they are written out from a position on. -/
def placeFrom (pos : Nat) : List (Segment WrittenGroup) → List (Segment WrittenGroup)
  | [] => []
  | s :: rest => s.placeAt pos :: placeFrom (pos + byteLength s.render) rest

def Written.place : Written → Written
  | .one only => .one (placeFrom 0 only)
  | .two left right => .two (placeFrom 0 left) (placeFrom (byteLength (renderBranch left) + 1) right)

def tokensFrom (pos : Nat) (cs : List Char) : List Token :=
  (Token.single pos cs).foldr Token.join []

namespace Token

def StartsNoText (ts : List Token) : Prop :=
  ∀ t ∈ ts.head?, ∀ cs, t.kind ≠ .text cs

lemma join_text (start mid stop : Nat) (cs ds : List Char) (ts : List Token) :
    join ⟨start, mid, .text cs⟩ (⟨mid, stop, .text ds⟩ :: ts) = ⟨start, stop, .text (cs ++ ds)⟩ :: ts :=
  rfl

lemma join_of_startsNoText {t : Token} {ts : List Token} (h : StartsNoText ts) : join t ts = t :: ts := by
  obtain ⟨start, stop, kind⟩ := t
  cases ts with
  | nil => cases kind <;> rfl
  | cons u us =>
    obtain ⟨ustart, ustop, ukind⟩ := u
    cases ukind with
    | text ds => exact absurd rfl (h ⟨ustart, ustop, .text ds⟩ rfl ds)
    | wildcard w => cases kind <;> rfl
    | bar => cases kind <;> rfl
    | group g => cases kind <;> rfl
    | unterminated s => cases kind <;> rfl

lemma join_of_no_text {t : Token} (h : ∀ cs, t.kind ≠ .text cs) (ts : List Token) : join t ts = t :: ts := by
  obtain ⟨start, stop, kind⟩ := t
  cases kind with
  | text cs => exact absurd rfl (h cs)
  | wildcard w => rfl
  | bar => rfl
  | group g => rfl
  | unterminated s => rfl

lemma escapable_iff {c : Char} : escapable c = true ↔ c = '*' ∨ c = '+' ∨ c = '?' ∨ c = '|' := by
  simp only [escapable, Bool.or_eq_true, beq_iff_eq, or_assoc]

lemma single_renderChar (pos : Nat) (c : Char) (rest : List Char) :
    single pos (renderChar c ++ rest) =
      ⟨pos, pos + byteLength (renderChar c), .text [c]⟩ :: single (pos + byteLength (renderChar c)) rest := by
  unfold renderChar
  split
  case isTrue h =>
    rcases h with rfl | rfl
    · exact single.eq_2 pos rest
    · exact single.eq_3 pos rest
  case isFalse h =>
    obtain ⟨hl, hr⟩ := not_or.mp h
    split
    case isTrue he =>
      have hb : byteLength ['[', c, ']'] = 3 := by
        rcases escapable_iff.mp he with rfl | rfl | rfl | rfl <;> rfl
      rw [hb]
      exact (single.eq_4 pos c rest hl).trans (if_pos he)
    case isFalse he =>
      have hc : ofChar pos c = ⟨pos, pos + byteLength [c], .text [c]⟩ := by
        simp only [escapable_iff, not_or] at he
        simp only [ofChar, Wildcard.ofChar?, if_neg he.1, if_neg he.2.1, if_neg he.2.2.1, if_neg he.2.2.2,
          byteLength, Nat.add_zero]
      have hs := single.eq_6 pos c rest (fun _ hc _ => hl hc) (fun _ hc _ => hr hc) (fun _ _ hc _ => hl hc) hl
      simpa only [hc, byteLength, Nat.add_zero, List.singleton_append] using hs

lemma single_bar (pos : Nat) (rest : List Char) : single pos ('|' :: rest) = ⟨pos, pos + 1, .bar⟩ :: single (pos + 1) rest :=
  single.eq_6 pos '|' rest (by simp) (by simp) (by simp) (by decide)

lemma single_wildcard (pos : Nat) (w : Wildcard) (rest : List Char) :
    single pos (w.char :: rest) = ⟨pos, pos + 1, .wildcard w⟩ :: single (pos + 1) rest := by
  cases w with
  | any => exact single.eq_6 pos '*' rest (by simp) (by simp) (by simp) (by decide)
  | one => exact single.eq_6 pos '+' rest (by simp) (by simp) (by simp) (by decide)
  | maybe => exact single.eq_6 pos '?' rest (by simp) (by simp) (by simp) (by decide)

lemma singleGroup_append (start pos : Nat) (before cs rest : List Char) (hl : '[' ∉ cs) (hr : ']' ∉ cs) :
    singleGroup start pos before (cs ++ ']' :: rest) =
      ⟨start, pos + byteLength cs + 1, .group (.ofContent start (before.reverse ++ cs))⟩ ::
        single (pos + byteLength cs + 1) rest := by
  induction cs generalizing pos before with
  | nil => simp [singleGroup, byteLength]
  | cons c cs ih =>
    simp only [List.mem_cons, not_or] at hl hr
    rw [List.cons_append, singleGroup, if_neg (Ne.symm hr.1), if_neg (Ne.symm hl.1), ih _ _ hl.2 hr.2]
    simp only [List.reverse_cons, List.append_assoc, List.singleton_append, byteLength, Nat.add_assoc]

lemma single_open (pos : Nat) {rest : List Char} (hopen : ∀ more, rest ≠ '[' :: more)
    (he : ∀ c more, rest = c :: ']' :: more → escapable c = false) :
    single pos ('[' :: rest) = singleGroup pos (pos + 1) [] rest := by
  by_cases h : ∃ c more, rest = c :: ']' :: more
  · obtain ⟨c, more, rfl⟩ := h
    have hc : c ≠ '[' := fun hc => hopen (']' :: more) (by rw [hc])
    rw [single.eq_4 pos c more hc, if_neg (by simp [he c more rfl])]
  · exact single.eq_5 pos rest hopen fun c more hm => h ⟨c, more, hm⟩

lemma single_group (pos : Nat) (cs rest : List Char) (hl : '[' ∉ cs) (hr : ']' ∉ cs)
    (he : ∀ c, cs = [c] → escapable c = false) :
    single pos ('[' :: cs ++ ']' :: rest) =
      ⟨pos, pos + byteLength cs + 2, .group (.ofContent pos cs)⟩ :: single (pos + byteLength cs + 2) rest := by
  have hopen : ∀ more, cs ++ ']' :: rest ≠ '[' :: more := by
    rintro more hm
    cases cs with
    | nil => simp at hm
    | cons c cs => exact hl (by simp [(List.cons.inj hm).1])
  have hsymbol : ∀ c more, cs ++ ']' :: rest = c :: ']' :: more → escapable c = false := by
    intro c more hm
    match cs with
    | [] => rw [← (List.cons.inj hm).1]; rfl
    | [d] => exact (List.cons.inj hm).1 ▸ he d rfl
    | d :: e :: cs => exact absurd (by simp [(List.cons.inj (List.cons.inj hm).2).1]) hr
  rw [List.cons_append, single_open pos hopen hsymbol, singleGroup_append _ _ _ _ _ hl hr]
  simp only [List.reverse_nil, List.nil_append]
  congr 2 <;> omega

end Token

lemma trim_of_no_white {cs : List Char} (h : ∀ c ∈ cs, isWhite c = false) : trim cs = cs := by
  have hd : ∀ ds : List Char, (∀ c ∈ ds, isWhite c = false) → ds.dropWhile isWhite = ds := by
    intro ds hs
    cases ds with
    | nil => rfl
    | cons d ds => rw [List.dropWhile_cons_of_neg (by simp [hs d (by simp)])]
  rw [trim, hd cs h, hd cs.reverse (by simpa using h), List.reverse_reverse]

lemma nonEmpty_toList {s : String} (h : s.toList ≠ []) : nonEmpty s.toList = some s := by
  simp only [nonEmpty, List.isEmpty_iff, h, if_false, String.ofList_toList]

lemma isIdentifier_no_white {name : String} (h : isIdentifier name = true) :
    ∀ c ∈ name.toList, isWhite c = false := by
  intro c hc
  by_contra hw
  have ho := contains_outsideNames_of_white (Bool.eq_true_of_not_eq_false hw)
  by_cases hu : c = '_'
  · subst hu
    exact hw (by decide)
  · exact isIdentifier_ne h hc c hu ho rfl

lemma isIdentifier_no_mark {name : String} (h : isIdentifier name = true) (d : Char) (hd : d ≠ '_')
    (hm : asciiMarks.contains d = true) : d ∉ name.toList :=
  fun hc => isIdentifier_ne h hc d hd (contains_outsideNames_of_mark hm) rfl

lemma isIdentifier_ne_nil {name : String} (h : isIdentifier name = true) : name.toList ≠ [] := by
  intro hn
  simp [isIdentifier, hn] at h

namespace WrittenGroup

variable {g : WrittenGroup}

lemma WellFormed.not_mem_name (h : g.WellFormed) (d : Char) (hd : d ≠ '_') (hm : asciiMarks.contains d = true) :
    d ∉ (g.name.getD "").toList := by
  cases hn : g.name with
  | none => simp
  | some n => exact isIdentifier_no_mark (h.1 n (by simp [hn])) d hd hm

lemma WellFormed.nonEmpty_name (h : g.WellFormed) : nonEmpty (trim (g.name.getD "").toList) = g.name := by
  cases hn : g.name with
  | none => rfl
  | some n =>
    have hi := h.1 n (by simp [hn])
    rw [Option.getD_some, trim_of_no_white (isIdentifier_no_white hi), nonEmpty_toList (isIdentifier_ne_nil hi)]

lemma WellFormed.ofContent_content (h : g.WellFormed) (pos : Nat) : ofContent pos g.content = { g with pos } := by
  have hcolon : ∀ c ∈ (g.name.getD "").toList, (c != ':') = true := by
    intro c hc
    have := h.not_mem_name ':' (by decide) (by decide)
    exact bne_iff_ne.mpr (fun he => this (he ▸ hc))
  cases hc : g.constraint with
  | none =>
    simp only [ofContent, content, hc, Option.elim_none, List.append_nil]
    rw [List.takeWhile_eq_self_iff.mpr hcolon, List.dropWhile_eq_nil_iff.mpr hcolon, h.nonEmpty_name]
    simp [trim, nonEmpty]
  | some c =>
    obtain ⟨hne, ht, -, -⟩ := h.2 c (by simp [hc])
    simp only [ofContent, content, hc, Option.elim_some]
    rw [List.takeWhile_append_of_pos hcolon, List.dropWhile_append_of_pos hcolon]
    simp only [List.takeWhile_cons, List.dropWhile_cons, bne_self_eq_false, Bool.false_eq_true, if_false,
      List.append_nil, List.tail_cons, ht, nonEmpty_toList hne, h.nonEmpty_name]

lemma WellFormed.not_mem_content (h : g.WellFormed) : '[' ∉ g.content ∧ ']' ∉ g.content := by
  have hl := h.not_mem_name '[' (by decide) (by decide)
  have hr := h.not_mem_name ']' (by decide) (by decide)
  cases hc : g.constraint with
  | none => simp [content, hc, hl, hr]
  | some c =>
    obtain ⟨-, -, hcl, hcr⟩ := h.2 c (by simp [hc])
    simp [content, hc, hl, hr, hcl, hcr]

lemma WellFormed.not_escapable (h : g.WellFormed) (c : Char) (hg : g.content = [c]) : Token.escapable c = false := by
  have hmem : c ∈ (g.name.getD "").toList := by
    cases hc : g.constraint with
    | none => simp [content, hc] at hg; simp [hg]
    | some d =>
      obtain ⟨hne, -⟩ := h.2 d (by simp [hc])
      have hlen := congrArg List.length hg
      have := List.length_pos_iff.mpr hne
      simp [content, hc] at hlen
      omega
  by_contra he
  rcases Token.escapable_iff.mp (Bool.eq_true_of_not_eq_false he) with rfl | rfl | rfl | rfl
  · exact h.not_mem_name '*' (by decide) (by decide) hmem
  · exact h.not_mem_name '+' (by decide) (by decide) hmem
  · exact h.not_mem_name '?' (by decide) (by decide) hmem
  · exact h.not_mem_name '|' (by decide) (by decide) hmem

end WrittenGroup

lemma tokensFrom_nil (pos : Nat) : tokensFrom pos [] = [] :=
  rfl

lemma tokensFrom_bar (pos : Nat) (cs : List Char) :
    tokensFrom pos ('|' :: cs) = ⟨pos, pos + 1, .bar⟩ :: tokensFrom (pos + 1) cs := by
  rw [tokensFrom, Token.single_bar, List.foldr_cons, Token.join_of_no_text (by simp)]
  rfl

lemma tokensFrom_literal (pos : Nat) (text more : List Char) (h : text ≠ [])
    (hm : Token.StartsNoText (tokensFrom (pos + byteLength (text.flatMap renderChar)) more)) :
    tokensFrom pos (text.flatMap renderChar ++ more) =
      ⟨pos, pos + byteLength (text.flatMap renderChar), .text text⟩ ::
        tokensFrom (pos + byteLength (text.flatMap renderChar)) more := by
  induction text generalizing pos with
  | nil => exact absurd rfl h
  | cons c cs ih =>
    simp only [List.flatMap_cons, Text.byteLength_append, ← Nat.add_assoc] at hm ⊢
    rw [tokensFrom, List.append_assoc, Token.single_renderChar, List.foldr_cons]
    change Token.join _ (tokensFrom _ _) = _
    by_cases hc : cs = []
    · subst hc
      simp only [List.flatMap_nil, List.nil_append, byteLength, Nat.add_zero] at hm ⊢
      exact Token.join_of_startsNoText hm
    · rw [ih _ hc hm, Token.join_text, List.singleton_append]

def Segment.tokenKind (pos : Nat) : Segment WrittenGroup → TokenKind
  | literal text => .text text
  | wildcard w => .wildcard w
  | group g => .group { g with pos }

lemma tokensFrom_segment (pos : Nat) {s : Segment WrittenGroup} (h : s.WellFormed) (more : List Char)
    (hm : s.IsLiteral → Token.StartsNoText (tokensFrom (pos + byteLength s.render) more)) :
    tokensFrom pos (s.render ++ more) =
      ⟨pos, pos + byteLength s.render, s.tokenKind pos⟩ :: tokensFrom (pos + byteLength s.render) more := by
  cases s with
  | literal text => exact tokensFrom_literal pos text more h (hm trivial)
  | wildcard w =>
    have hb : byteLength [w.char] = 1 := by cases w <;> rfl
    rw [Segment.render, hb, List.singleton_append, tokensFrom, Token.single_wildcard, List.foldr_cons,
      Token.join_of_no_text (by simp)]
    rfl
  | group g =>
    have hb : byteLength (Segment.group g).render = byteLength g.content + 2 := by
      simp only [Segment.render, Text.byteLength_append, byteLength]
      have h1 : Char.utf8Size '[' = 1 := rfl
      have h2 : Char.utf8Size ']' = 1 := rfl
      omega
    have hs := Token.single_group pos g.content more h.not_mem_content.1 h.not_mem_content.2 h.not_escapable
    rw [h.ofContent_content, Nat.add_assoc] at hs
    rw [hb, tokensFrom, Segment.render, List.append_assoc, List.singleton_append, hs, List.foldr_cons,
      Token.join_of_no_text (by simp)]
    rfl

def TokenKind.segment? : TokenKind → Option (Segment WrittenGroup)
  | text cs => some (.literal cs)
  | wildcard w => some (.wildcard w)
  | group g => some (.group g)
  | _ => none

lemma readBranch_cons {t : Token} {ts rest : List Token} {ss : List (Segment WrittenGroup)} :
    readBranch (t :: ts) = .ok (ss, rest) ↔ (t.kind = .bar ∧ ss = [] ∧ rest = t :: ts) ∨
      ∃ s more, t.kind.segment? = some s ∧ readBranch ts = .ok (more, rest) ∧ ss = s :: more := by
  have hread : ∀ s : Segment WrittenGroup, (readBranch ts).map (fun x => (s :: x.1, x.2)) = .ok (ss, rest) ↔
      ∃ more, readBranch ts = .ok (more, rest) ∧ ss = s :: more := by
    intro s
    rw [Regex.map_eq_ok]
    constructor
    · rintro ⟨⟨more, us⟩, hmore, he⟩
      cases he
      exact ⟨more, hmore, rfl⟩
    · rintro ⟨more, hmore, rfl⟩
      exact ⟨_, hmore, rfl⟩
  rw [readBranch]
  cases hk : t.kind with
  | text cs => simpa [TokenKind.segment?] using hread (.literal cs)
  | wildcard w => simpa [TokenKind.segment?] using hread (.wildcard w)
  | group g => simpa [TokenKind.segment?] using hread (.group g)
  | bar => simp [TokenKind.segment?, eq_comm]
  | unterminated snippet => simp [TokenKind.segment?]

lemma read_eq_ok {text : String} {w : Written} : read text = .ok w ↔
    ∃ left rest, readBranch (tokensFrom 0 text.toList) = .ok (left, rest) ∧ ((rest = [] ∧ w = .one left) ∨
      ∃ t ts right, rest = t :: ts ∧ readBranch ts = .ok (right, []) ∧ w = .two left right) := by
  constructor
  · intro h
    obtain ⟨⟨left, rest⟩, hleft, h⟩ := Regex.bind_eq_ok.mp h
    refine ⟨left, rest, hleft, ?_⟩
    cases rest with
    | nil =>
      cases h
      exact Or.inl ⟨rfl, rfl⟩
    | cons t ts =>
      obtain ⟨⟨right, more⟩, hright, h⟩ := Regex.bind_eq_ok.mp h
      cases more with
      | cons u more => cases h
      | nil =>
        cases h
        exact Or.inr ⟨t, ts, right, rfl, hright, rfl⟩
  · rintro ⟨left, rest, hleft, ⟨rfl, rfl⟩ | ⟨t, ts, right, rfl, hright, rfl⟩⟩
    · exact Regex.bind_eq_ok.mpr ⟨_, hleft, rfl⟩
    · exact Regex.bind_eq_ok.mpr ⟨_, hleft, Regex.bind_eq_ok.mpr ⟨_, hright, rfl⟩⟩

def EndsBranch (rest : List Char) : Prop :=
  rest = [] ∨ ∃ more, rest = '|' :: more

lemma EndsBranch.startsNoText {rest : List Char} (h : EndsBranch rest) (pos : Nat) :
    Token.StartsNoText (tokensFrom pos rest) := by
  rcases h with rfl | ⟨more, rfl⟩
  · simp [tokensFrom_nil, Token.StartsNoText]
  · simp [tokensFrom_bar, Token.StartsNoText]

lemma startsNoText_renderBranch (pos : Nat) {segments : List (Segment WrittenGroup)} {rest : List Char}
    (hs : ∀ s ∈ segments, s.WellFormed) (hl : ∀ s ∈ segments.head?, ¬s.IsLiteral) (hr : EndsBranch rest) :
    Token.StartsNoText (tokensFrom pos (renderBranch segments ++ rest)) := by
  cases segments with
  | nil => exact hr.startsNoText pos
  | cons s more =>
    have hn := hl s rfl
    rw [renderBranch, List.flatMap_cons, List.append_assoc,
      tokensFrom_segment pos (hs s (by simp)) _ (fun h => absurd h hn)]
    cases s with
    | literal text => exact absurd trivial hn
    | wildcard w => simp [Token.StartsNoText, Segment.tokenKind]
    | group g => simp [Token.StartsNoText, Segment.tokenKind]

lemma readBranch_endsBranch {rest : List Char} (h : EndsBranch rest) (pos : Nat) :
    readBranch (tokensFrom pos rest) = .ok ([], tokensFrom pos rest) := by
  rcases h with rfl | ⟨more, rfl⟩
  · rfl
  · rw [tokensFrom_bar]
    rfl

lemma readBranch_renderBranch (pos : Nat) {segments : List (Segment WrittenGroup)} (rest : List Char)
    (h : WellFormedBranch segments) (hr : EndsBranch rest) :
    readBranch (tokensFrom pos (renderBranch segments ++ rest)) =
      .ok (placeFrom pos segments, tokensFrom (pos + byteLength (renderBranch segments)) rest) := by
  induction segments generalizing pos with
  | nil => exact readBranch_endsBranch hr pos
  | cons s more ih =>
    obtain ⟨hs, hc⟩ := h
    rw [List.isChain_cons] at hc
    have hm : ∀ t ∈ more, t.WellFormed := fun t ht => hs t (by simp [ht])
    have hn : s.IsLiteral → Token.StartsNoText (tokensFrom (pos + byteLength s.render) (renderBranch more ++ rest)) :=
      fun hl => startsNoText_renderBranch _ hm (fun t ht htl => hc.1 t ht ⟨hl, htl⟩) hr
    have ht := tokensFrom_segment pos (hs s (by simp)) (renderBranch more ++ rest) hn
    have hi := ih (pos + byteLength s.render) ⟨hm, hc.2⟩
    simp only [renderBranch, List.flatMap_cons, List.append_assoc, Text.byteLength_append, ← Nat.add_assoc] at ht hi ⊢
    rw [ht, readBranch_cons]
    refine Or.inr ⟨s.placeAt pos, _, ?_, hi, rfl⟩
    cases s <;> rfl

lemma read_render {w : Written} (h : Written.WellFormed w) :
    read (String.ofList (Written.render w)) = .ok (Written.place w) := by
  rw [read_eq_ok, String.toList_ofList]
  cases w with
  | one only =>
    have hb := readBranch_renderBranch 0 [] (h only (by simp [Branches.toList])) (Or.inl rfl)
    rw [List.append_nil] at hb
    exact ⟨_, _, hb, Or.inl ⟨rfl, rfl⟩⟩
  | two left right =>
    have hl := readBranch_renderBranch 0 ('|' :: renderBranch right) (h left (by simp [Branches.toList]))
      (Or.inr ⟨_, rfl⟩)
    have hr := readBranch_renderBranch (byteLength (renderBranch left) + 1) [] (h right (by simp [Branches.toList])) (Or.inl rfl)
    rw [List.append_nil] at hr
    rw [Nat.zero_add, tokensFrom_bar] at hl
    exact ⟨_, _, hl, Or.inr ⟨_, _, _, rfl, hr, rfl⟩⟩

end TypedPattern.Pattern
