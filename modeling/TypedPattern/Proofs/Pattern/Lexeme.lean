import TypedPattern.Proofs.Pattern.Rendering

/-! A pattern's text as it is read from the left: an escape where there is one, else a group, else one character. -/

namespace TypedPattern.Pattern

open Text (byteLength)

inductive Lexeme where
  | escape (c : Char)
  | group (content : List Char)
  | plain (c : Char)
  deriving DecidableEq, Repr

/-- The characters whose escape is read as themselves: two brackets, and a symbol between brackets. -/
def escaped : List Char :=
  ['[', ']', '*', '+', '?', '|']

def Escaped (text : List Char) : Prop :=
  ∃ c ∈ escaped, renderChar c <+: text

/-- An opening bracket with a closing one behind it, and no bracket in between. -/
def Grouped (text : List Char) : Prop :=
  ∃ content rest, text = '[' :: content ++ ']' :: rest ∧ '[' ∉ content ∧ ']' ∉ content

/-- A bracket that opens no group. -/
def Dangling (text : List Char) : Prop :=
  (∃ rest, text = '[' :: rest) ∧ ¬Escaped text ∧ ¬Grouped text

namespace Lexeme

def chars : Lexeme → List Char
  | escape c => renderChar c
  | group content => '[' :: content ++ [']']
  | plain c => [c]

def bar : Lexeme :=
  plain '|'

/-- A lexeme is what is read at the front of a text, before the rest. -/
def Heads (l : Lexeme) (text rest : List Char) : Prop :=
  text = l.chars ++ rest ∧
    match l with
    | escape c => c ∈ escaped
    | group content => ¬Escaped text ∧ '[' ∉ content ∧ ']' ∉ content
    | plain c => ¬Escaped text ∧ c ≠ '['

/-- The bytes that some lexemes take. -/
def bytes (ls : List Lexeme) : Nat :=
  byteLength (ls.flatMap chars)

lemma length_chars (l : Lexeme) : 0 < l.chars.length := by
  cases l with
  | escape c =>
    rw [chars, renderChar]
    split_ifs <;> simp
  | group content => simp [chars]
  | plain c => simp [chars]

lemma bytes_cons (l : Lexeme) (ls : List Lexeme) : bytes (l :: ls) = byteLength l.chars + bytes ls := by
  rw [bytes, List.flatMap_cons, Text.byteLength_append, bytes]

lemma bytes_append (ls ks : List Lexeme) : bytes (ls ++ ks) = bytes ls + bytes ks := by
  rw [bytes, List.flatMap_append, Text.byteLength_append, bytes, bytes]

lemma exists_heads {text : List Char} (hne : text ≠ []) (hd : ¬Dangling text) : ∃ l rest, Heads l text rest := by
  by_cases he : Escaped text
  · obtain ⟨c, hc, rest, rfl⟩ := he
    exact ⟨escape c, rest, rfl, hc⟩
  by_cases hg : Grouped text
  · obtain ⟨content, rest, rfl, hl, hr⟩ := hg
    exact ⟨group content, rest, by simp [chars], he, hl, hr⟩
  obtain ⟨c, rest, rfl⟩ := List.exists_cons_of_ne_nil hne
  refine ⟨plain c, rest, rfl, he, ?_⟩
  rintro rfl
  exact hd ⟨⟨rest, rfl⟩, he, hg⟩

end Lexeme

/-- Reading a text from the left up to a rest of it. -/
inductive Reading : List Char → List Lexeme → List Char → Prop
  | done (rest : List Char) : Reading rest [] rest
  | next {l : Lexeme} {ls : List Lexeme} {text more rest : List Char} (hl : l.Heads text more)
      (h : Reading more ls rest) : Reading text (l :: ls) rest

namespace Reading

variable {text rest : List Char} {ls ks : List Lexeme}

lemma text_eq (h : Reading text ls rest) : text = ls.flatMap Lexeme.chars ++ rest := by
  induction h with
  | done => rfl
  | next hl _ ih => rw [List.flatMap_cons, List.append_assoc, ← ih, hl.1]

lemma split (h : Reading text (ls ++ ks) rest) : ∃ more, Reading text ls more ∧ Reading more ks rest := by
  induction ls generalizing text with
  | nil => exact ⟨text, .done text, h⟩
  | cons l ls ih =>
    obtain _ | ⟨hl, h⟩ := h
    obtain ⟨more, hls, hks⟩ := ih h
    exact ⟨more, .next hl hls, hks⟩

/-- Every text is read to its end or up to a bracket that opens no group. -/
theorem exists_reading (text : List Char) : ∃ ls rest, Reading text ls rest ∧ (rest = [] ∨ Dangling rest) := by
  induction hn : text.length using Nat.strong_induction_on generalizing text with
  | _ n ih =>
    by_cases hend : text = [] ∨ Dangling text
    · exact ⟨[], text, .done text, hend⟩
    obtain ⟨hne, hd⟩ := not_or.mp hend
    obtain ⟨l, more, hl⟩ := Lexeme.exists_heads hne hd
    have hlen : text.length = l.chars.length + more.length := by
      conv_lhs => rw [hl.1, List.length_append]
    have hpos := l.length_chars
    obtain ⟨ls, rest, h, hrest⟩ := ih more.length (by omega) more rfl
    exact ⟨l :: ls, rest, .next hl h, hrest⟩

end Reading

namespace Lexeme

def kind (pos : Nat) : Lexeme → TokenKind
  | escape c => .text [c]
  | group content => .group (.ofContent pos content)
  | plain c => (Token.ofChar pos c).kind

def token (pos : Nat) (l : Lexeme) : Token :=
  ⟨pos, pos + byteLength l.chars, l.kind pos⟩

def tokens : Nat → List Lexeme → List Token
  | _, [] => []
  | pos, l :: ls => l.token pos :: tokens (pos + byteLength l.chars) ls

variable {l : Lexeme} {text rest : List Char}

lemma single_of_heads (h : l.Heads text rest) (pos : Nat) :
    Token.single pos text = l.token pos :: Token.single (pos + byteLength l.chars) rest := by
  obtain ⟨rfl, h⟩ := h
  cases l with
  | escape c => exact Token.single_renderChar pos c rest
  | group content =>
    obtain ⟨he, hl, hr⟩ := h
    have hsize : byteLength (chars (.group content)) = byteLength content + 2 := by
      have h1 : Char.utf8Size '[' = 1 := rfl
      have h2 : Char.utf8Size ']' = 1 := rfl
      simp only [chars, Text.byteLength_append, byteLength]
      omega
    have hsymbol : ∀ c, content = [c] → Token.escapable c = false := by
      rintro c rfl
      by_contra hc
      refine he ⟨c, ?_, rest, ?_⟩
      · rcases Token.escapable_iff.mp (Bool.eq_true_of_not_eq_false hc) with rfl | rfl | rfl | rfl <;> decide
      · rcases Token.escapable_iff.mp (Bool.eq_true_of_not_eq_false hc) with rfl | rfl | rfl | rfl <;> rfl
    have hs := Token.single_group pos content rest hl hr hsymbol
    rw [token, hsize, chars, List.append_assoc]
    exact hs
  | plain c =>
    obtain ⟨he, hc⟩ := h
    have hdouble : ∀ more, c = ']' → rest = ']' :: more → False := by
      rintro more rfl rfl
      exact he ⟨']', by decide, more, rfl⟩
    have hs := Token.single.eq_6 pos c rest (fun _ hb _ => hc hb) hdouble (fun _ _ hb _ => hc hb) hc
    have hsize : byteLength (chars (.plain c)) = c.utf8Size := by simp [chars, byteLength]
    rw [token, hsize]
    exact hs

end Lexeme

lemma Reading.single_eq {text rest : List Char} {ls : List Lexeme} (h : Reading text ls rest) (pos : Nat) :
    Token.single pos text =
      Lexeme.tokens pos ls ++ Token.single (pos + Lexeme.bytes ls) rest := by
  induction h generalizing pos with
  | done => rfl
  | next hl _ ih =>
    rw [Lexeme.single_of_heads hl, ih, Lexeme.tokens, Lexeme.bytes_cons, Nat.add_assoc, List.cons_append]

/-- The text from an opening bracket up to the next one. -/
def snippet (rest : List Char) : List Char :=
  '[' :: rest.takeWhile (· != '[')

lemma singleGroup_dangling (start pos : Nat) (content body behind : List Char) (hl : '[' ∉ body) (hr : ']' ∉ body)
    (hb : ∀ c ∈ behind.head?, c = '[') : Token.singleGroup start pos content (body ++ behind) =
      [⟨start, pos + byteLength body, .unterminated ('[' :: content.reverse ++ body)⟩] := by
  induction body generalizing pos content with
  | nil =>
    cases behind with
    | nil => simp [Token.singleGroup, byteLength]
    | cons c behind =>
      obtain rfl := hb c rfl
      simp [Token.singleGroup, byteLength]
  | cons c body ih =>
    simp only [List.mem_cons, not_or] at hl hr
    rw [List.cons_append, Token.singleGroup, if_neg (Ne.symm hr.1), if_neg (Ne.symm hl.1), ih _ _ hl.2 hr.2]
    simp [byteLength, Nat.add_assoc]

/-- A bracket that opens no group stands before text without brackets, up to the next opening one if there is any. -/
lemma Dangling.exists_body {rest : List Char} (h : Dangling ('[' :: rest)) : ∃ body behind, rest = body ++ behind ∧
    snippet rest = '[' :: body ∧ '[' ∉ body ∧ ']' ∉ body ∧ ∀ c ∈ behind.head?, c = '[' := by
  obtain ⟨-, -, hg⟩ := h
  have hl : '[' ∉ rest.takeWhile (· != '[') := fun hm => by simpa using List.mem_takeWhile_imp hm
  have hr : ']' ∉ rest.takeWhile (· != '[') := by
    intro hm
    -- the first closing bracket would end a group
    obtain ⟨content, more, hbody, hno⟩ := List.eq_append_cons_of_mem hm
    refine hg ⟨content, more ++ rest.dropWhile (· != '['), ?_, ?_, hno⟩
    · conv_lhs => rw [← List.takeWhile_append_dropWhile (p := (· != '[')) (l := rest), hbody]
      simp
    · exact fun hm' => hl (hbody ▸ List.mem_append_left _ hm')
  refine ⟨_, _, List.takeWhile_append_dropWhile.symm, rfl, hl, hr, fun c hc => ?_⟩
  have := List.head?_dropWhile_not (· != '[') rest
  rw [Option.mem_def.mp hc] at this
  simpa using this

lemma Dangling.single_eq {rest : List Char} (h : Dangling ('[' :: rest)) (pos : Nat) :
    Token.single pos ('[' :: rest) = [⟨pos, pos + byteLength (snippet rest), .unterminated (snippet rest)⟩] := by
  obtain ⟨body, behind, hrest, hsnippet, hl, hr, hopen⟩ := h.exists_body
  obtain ⟨-, he, -⟩ := h
  have hgroup : Token.single pos ('[' :: rest) = Token.singleGroup pos (pos + 1) [] rest := by
    refine Token.single_open pos (fun more hm => he ⟨'[', by decide, more, by rw [hm]; rfl⟩) fun c more hm => ?_
    by_contra hc
    subst hm
    rcases Token.escapable_iff.mp (Bool.eq_true_of_not_eq_false hc) with rfl | rfl | rfl | rfl
    · exact he ⟨'*', by decide, more, rfl⟩
    · exact he ⟨'+', by decide, more, rfl⟩
    · exact he ⟨'?', by decide, more, rfl⟩
    · exact he ⟨'|', by decide, more, rfl⟩
  have hsize : Char.utf8Size '[' = 1 := rfl
  rw [hgroup, hsnippet, hrest, singleGroup_dangling pos (pos + 1) [] body behind hl hr hopen, byteLength, hsize,
    Nat.add_assoc]
  rfl

end TypedPattern.Pattern
