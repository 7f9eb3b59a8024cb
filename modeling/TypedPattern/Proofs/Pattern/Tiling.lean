import TypedPattern.Proofs.Pattern.Inverse
import TypedPattern.Proofs.Pattern.Scanning

/-! The tokens of a pattern follow one another through it without a gap, each spelled by its part of the pattern. -/

namespace TypedPattern.Pattern

open List (Forall₂)
open Text (byteLength slice)

/-- A character of text is spelled by its escape, or by itself if it has none or is a lone closing bracket. -/
def SpellsChar (c : Char) (part : List Char) : Prop :=
  part = renderChar c ∨ c = ']' ∧ part = [']']

/-- The part of a pattern, from a position on, that a token is made of. -/
def TokenKind.Spelled (pos : Nat) (part : List Char) : TokenKind → Prop
  | text cs => ∃ parts, Forall₂ SpellsChar cs parts ∧ part = parts.flatten
  | wildcard w => part = [w.char]
  | bar => part = ['|']
  | group g => ∃ content, part = '[' :: content ++ [']'] ∧ '[' ∉ content ∧ ']' ∉ content ∧ g = .ofContent pos content
  | unterminated snippet => part = snippet ∧ ∃ body, snippet = '[' :: body ∧ '[' ∉ body ∧ ']' ∉ body

def Token.IsUnterminated (t : Token) : Prop :=
  ∃ snippet, t.kind = .unterminated snippet

/-- Tokens that take up a text from a position on, all of it or up to a group that does not end. -/
inductive Tiles : Nat → List Char → List Token → Prop
  | nil (pos : Nat) : Tiles pos [] []
  | last {pos : Nat} {snippet : List Char} (behind : List Char)
    (hs : (TokenKind.unterminated snippet).Spelled pos snippet) :
    Tiles pos (snippet ++ behind) [⟨pos, pos + byteLength snippet, .unterminated snippet⟩]
  | cons {pos : Nat} {part rest : List Char} {kind : TokenKind} {ts : List Token} (hs : kind.Spelled pos part)
    (hne : part ≠ []) (hk : ∀ snippet, kind ≠ .unterminated snippet) (h : Tiles (pos + byteLength part) rest ts) :
    Tiles pos (part ++ rest) (⟨pos, pos + byteLength part, kind⟩ :: ts)

namespace Tiles

variable {pos : Nat} {text cs before : List Char} {t : Token} {ts : List Token}

lemma join (h : Tiles pos cs (t :: ts)) : Tiles pos cs (Token.join t ts) := by
  by_cases htext : t.IsText ∧ ∃ u ∈ ts.head?, u.IsText
  · obtain ⟨⟨as, ha⟩, u, hu, bs, hb⟩ := htext
    cases h with
    | last behind hs => cases hu
    | @cons _ part rest kind _ hs hne hk h =>
      cases h with
      | nil => cases hu
      | last behind hs' =>
        obtain rfl := Option.some.inj hu
        cases hb
      | @cons _ part' rest' kind' us hs' hne' hk' h =>
        obtain rfl := Option.some.inj hu
        obtain rfl : kind = .text as := ha
        obtain rfl : kind' = .text bs := hb
        obtain ⟨parts, hparts, rfl⟩ := hs
        obtain ⟨parts', hparts', rfl⟩ := hs'
        rw [Nat.add_assoc, ← Text.byteLength_append] at h
        rw [Token.join_text, Nat.add_assoc, ← Text.byteLength_append, ← List.append_assoc]
        refine .cons ⟨parts ++ parts', List.rel_append hparts hparts', ?_⟩ (by simp [hne]) nofun h
        exact List.flatten_append.symm
  · rw [Token.join_eq_cons htext]
    exact h

lemma foldr_join (h : Tiles pos cs ts) : Tiles pos cs (ts.foldr Token.join []) := by
  induction h with
  | nil pos => exact .nil pos
  | last behind hs => exact .last behind hs
  | cons hs hne hk _ ih => exact (Tiles.cons hs hne hk ih).join

lemma head (h : Tiles pos cs ts) : ∀ t ∈ ts.head?, t.start = pos := by
  cases h <;> simp

lemma chain (h : Tiles pos cs ts) : ts.IsChain fun t u => t.stop = u.start ∧ ¬t.IsUnterminated := by
  induction h with
  | nil => exact .nil
  | last => exact .singleton _
  | cons hs hne hk h ih =>
    exact List.isChain_cons.mpr ⟨fun u hu => ⟨(h.head u hu).symm, fun ⟨snippet, hsnippet⟩ => hk snippet hsnippet⟩, ih⟩

lemma slice_first {part : List Char} (hpos : byteLength before = pos) (hne : part ≠ []) (rest : List Char) :
    pos < pos + byteLength part ∧ Text.slice pos (pos + byteLength part) (before ++ (part ++ rest)) = .ok part := by
  obtain ⟨c, cs, rfl⟩ := List.exists_cons_of_ne_nil hne
  have hc := c.utf8Size_pos
  rw [← hpos, ← Text.byteLength_append, ← List.append_assoc]
  refine ⟨?_, Text.slice_append _ _ _⟩
  rw [Text.byteLength_append, byteLength]
  omega

lemma slice (h : Tiles pos cs ts) (hpos : byteLength before = pos) : ∀ t ∈ ts, t.start < t.stop ∧
    ∃ part, Text.slice t.start t.stop (before ++ cs) = .ok part ∧ t.kind.Spelled t.start part := by
  induction h generalizing before with
  | nil => simp
  | @last pos snippet behind hs =>
    have hne : snippet ≠ [] := by
      obtain ⟨-, body, rfl, -⟩ := hs
      exact List.cons_ne_nil _ _
    obtain ⟨hlt, hslice⟩ := slice_first hpos hne behind
    exact List.forall_mem_singleton.mpr ⟨hlt, snippet, hslice, hs⟩
  | @cons pos part rest kind ts hs hne hk h ih =>
    obtain ⟨hlt, hslice⟩ := slice_first hpos hne rest
    refine List.forall_mem_cons.mpr ⟨⟨hlt, part, hslice, hs⟩, ?_⟩
    rw [← List.append_assoc]
    exact ih (by rw [Text.byteLength_append, hpos])

lemma getLast (h : Tiles pos cs ts) : ∀ t ∈ ts.getLast?, t.IsUnterminated ∨ t.stop = pos + byteLength cs := by
  induction h with
  | nil => simp
  | @last pos snippet behind hs =>
    rintro _ ⟨⟩
    exact Or.inl ⟨snippet, rfl⟩
  | @cons pos part rest kind ts hs hne hk h ih =>
    rw [Text.byteLength_append, ← Nat.add_assoc]
    cases h with
    | nil =>
      rintro _ ⟨⟩
      exact Or.inr rfl
    | last => exact ih
    | cons => exact ih

lemma eq_nil (h : Tiles pos cs []) : cs = [] := by
  cases h
  rfl

end Tiles

namespace Lexeme

variable {l : Lexeme} {ls : List Lexeme} {text rest last : List Char} {c : Char}

lemma spelled_ofChar (hc : c ≠ '[') (pos : Nat) : (Token.ofChar pos c).kind.Spelled pos [c] ∧
    ∀ snippet, (Token.ofChar pos c).kind ≠ .unterminated snippet := by
  by_cases he : Token.escapable c = true
  · rcases Token.escapable_iff.mp he with rfl | rfl | rfl | rfl <;> exact ⟨rfl, fun _ h => TokenKind.noConfusion h⟩
  · rw [Lexer.ofChar_of_none (Lexer.reserved?_eq_none (Bool.not_eq_true _ ▸ he))]
    refine ⟨⟨[[c]], .cons ?_ .nil, rfl⟩, fun _ h => TokenKind.noConfusion h⟩
    by_cases hclose : c = ']'
    · exact Or.inr ⟨hclose, by rw [hclose]⟩
    · refine Or.inl ?_
      rw [renderChar, if_neg (not_or.mpr ⟨hc, hclose⟩), if_neg he]

lemma Heads.spelled (h : l.Heads text rest) (pos : Nat) : (l.kind pos).Spelled pos l.chars ∧
    ∀ snippet, l.kind pos ≠ .unterminated snippet := by
  obtain ⟨-, h⟩ := h
  cases l with
  | escape c => exact ⟨⟨[renderChar c], .cons (Or.inl rfl) .nil, List.flatten_singleton.symm⟩, nofun⟩
  | group content => exact ⟨⟨content, rfl, h.2.1, h.2.2, rfl⟩, nofun⟩
  | plain c => exact spelled_ofChar h.2 pos

end Lexeme

lemma Reading.tiles {text last : List Char} {ls : List Lexeme} (h : Reading text ls last)
    (hend : last = [] ∨ Dangling last) (pos : Nat) : Tiles pos text (Token.single pos text) := by
  induction h generalizing pos with
  | done rest =>
    rcases hend with rfl | hd
    · exact .nil pos
    · obtain ⟨⟨rest, rfl⟩, -⟩ := id hd
      obtain ⟨body, behind, rfl, hsnippet, hl, hr, -⟩ := hd.exists_body
      have htiles := @Tiles.last pos _ behind ⟨rfl, body, hsnippet, hl, hr⟩
      rw [hd.single_eq]
      rwa [hsnippet] at htiles ⊢
  | @next l ls text more last hl _ ih =>
    obtain ⟨hspelled, hk⟩ := hl.spelled pos
    rw [Lexeme.single_of_heads hl, hl.1]
    exact .cons hspelled (List.ne_nil_of_length_pos l.length_chars) hk (ih hend _)

lemma tiles_tokens (text : List Char) : Tiles 0 text (tokens text) := by
  obtain ⟨ls, rest, hr, hend⟩ := Reading.exists_reading text
  exact (hr.tiles hend 0).foldr_join

/-- The tokens of a pattern are what is cut from it in finitely many turns. They begin at its start, take up some of it
each and follow one another without a gap, to its end or to a group that does not end, which is the last of them. None
is text without characters or next to other text. Each is at the place of the part of the pattern that it is made of. -/
theorem tokens_tile (text : List Char) :
    (∀ ts, Lexer.Emits text .begin ts ↔ ts = tokens text) ∧ (tokens text = [] → text = []) ∧
      (∀ t ∈ (tokens text).head?, t.start = 0) ∧
      (tokens text).IsChain (fun t u => t.stop = u.start ∧ ¬t.IsUnterminated) ∧
      (tokens text).IsChain (fun t u => ¬(t.IsText ∧ u.IsText)) ∧
      (∀ t ∈ (tokens text).getLast?, t.IsUnterminated ∨ t.stop = byteLength text) ∧
      ∀ t ∈ tokens text, t.start < t.stop ∧ t.kind ≠ .text [] ∧
        ∃ part, slice t.start t.stop text = .ok part ∧ t.kind.Spelled t.start part := by
  have h := tiles_tokens text
  obtain ⟨hsound, hchain⟩ := joined_tokens text
  refine ⟨Lexer.emits_begin_iff text, fun hnil => (hnil ▸ h).eq_nil, h.head, h.chain, hchain,
    fun t ht => ?_, fun t ht => ?_⟩
  · simpa using h.getLast t ht
  · obtain ⟨hlt, hpart⟩ := @Tiles.slice 0 text [] _ h rfl t ht
    exact ⟨hlt, fun hk => absurd (hk ▸ hsound t ht) (by simp [TokenKind.Sound]), hpart⟩

/-- An escape and a letter of two bytes are one text, and the last bracket but one opens no group. -/
theorem tokens_tile_unterminated :
    Lexer.Emits "é[*][a:int]+[b[c".toList .begin [⟨0, 5, .text ['é', '*']⟩, ⟨5, 12, .group ⟨some "a", some "int", 5⟩⟩,
      ⟨12, 13, .wildcard .one⟩, ⟨13, 15, .unterminated ['[', 'b']⟩] ∧
      ∀ t ∈ tokens "é[*][a:int]+[b[c".toList,
        ∃ part, slice t.start t.stop "é[*][a:int]+[b[c".toList = .ok part ∧ t.kind.Spelled t.start part := by
  obtain ⟨hemits, -, -, -, -, -, hparts⟩ := tokens_tile "é[*][a:int]+[b[c".toList
  exact ⟨(hemits _).mpr rfl, fun t ht => (hparts t ht).2.2⟩

end TypedPattern.Pattern
