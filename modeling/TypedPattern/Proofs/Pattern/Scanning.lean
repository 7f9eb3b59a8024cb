import TypedPattern.Proofs.Pattern.Lexeme

/-! A pattern is cut into its tokens from the left, at byte positions, none of which is inside a character. -/

namespace TypedPattern.Pattern

open Text (CutFault byteLength slice)

/-- How far a pattern has been cut: the position that has been reached, and the text in front of it that is in no token
yet, with the position where that starts. -/
structure Lexer where
  pos : Nat
  pending : List Char
  start : Nat

namespace Lexer

/-- What one turn comes to. -/
inductive Turn where
  | onward (next : Lexer)
  | token (t : Token) (next : Lexer)
  | done

def begin : Lexer :=
  ⟨0, [], 0⟩

def push (x : Lexer) (c : Char) (width : Nat) : Lexer :=
  ⟨x.pos + width, x.pending ++ [c], if x.pending.isEmpty then x.pos else x.start⟩

/-- The token of the pending text, which comes before anything else. -/
def flush? (x : Lexer) : Option Turn :=
  if x.pending.isEmpty then none else some (.token ⟨x.start, x.pos, .text x.pending⟩ { x with pending := [] })

def finish (x : Lexer) : Turn :=
  x.flush?.getD .done

/-- A token that ends where the next one starts, unless some text is pending. -/
def yield (x : Lexer) (t : Token) (next : Nat) : Turn :=
  x.flush?.getD (.token t { x with pos := next })

/-- The escape at the start of a text: the character that it stands for, and its width. -/
def escape? : List Char → Option (Char × Nat)
  | '[' :: '[' :: _ => some ('[', 2)
  | ']' :: ']' :: _ => some (']', 2)
  | '[' :: c :: ']' :: _ => if Token.escapable c then some (c, 3) else none
  | _ => none

def reserved? (c : Char) : Option TokenKind :=
  match Wildcard.ofChar? c with
  | some w => some (.wildcard w)
  | none => if c = '|' then some .bar else none

def noBracket (c : Char) : Bool :=
  c != '[' && c != ']'

/-- The position of the first bracket. -/
def bracket? (body : List Char) : Option Nat :=
  if body.all noBracket then none else some (byteLength (body.takeWhile noBracket))

def unterminated (code : List Char) (x : Lexer) (stop : Nat) : Except CutFault Turn := do
  let snippet ← slice x.pos stop code
  return .token ⟨x.pos, stop, .unterminated snippet⟩ { x with pos := byteLength code }

/-- The group whose content ends at the first bracket behind the one that opens it, if that is a closing one. -/
def close (code body : List Char) (x : Lexer) : Option Nat → Except CutFault Turn
  | none => x.unterminated code (byteLength code)
  | some length => do
    let behind ← slice length (byteLength body) body
    if behind.head? = some ']' then
      let content ← slice 0 length body
      let stop := x.pos + 1 + length + 1
      return .token ⟨x.pos, stop, .group (.ofContent x.pos content)⟩ { x with pos := stop }
    else x.unterminated code (x.pos + 1 + length)

def group (code : List Char) (x : Lexer) : Except CutFault Turn := do
  let body ← slice (x.pos + 1) (byteLength code) code
  x.close code body (bracket? body)

/-- What is done with the rest of the pattern. -/
def read (code : List Char) (x : Lexer) (rest : List Char) : Except CutFault Turn :=
  match escape? rest with
  | some (c, width) => .ok (.onward (x.push c width))
  | none =>
    match rest with
    | [] => .ok x.finish
    | c :: _ =>
      if c = '[' then x.flush?.elim (x.group code) .ok
      else
        match reserved? c with
        | some kind => .ok (x.yield ⟨x.pos, x.pos + 1, kind⟩ (x.pos + 1))
        | none => .ok (.onward (x.push c c.utf8Size))

def turn (code : List Char) (x : Lexer) : Except CutFault Turn :=
  if x.pos < byteLength code then do
    let rest ← slice x.pos (byteLength code) code
    x.read code rest
  else return x.finish

/-- The tokens that come of finitely many turns, the last of which finds nothing more. No turn fails. -/
inductive Emits (code : List Char) : Lexer → List Token → Prop
  | done {x : Lexer} (h : x.turn code = .ok .done) : Emits code x []
  | onward {x y : Lexer} {ts : List Token} (h : x.turn code = .ok (.onward y)) (hy : Emits code y ts) : Emits code x ts
  | token {x y : Lexer} {t : Token} {ts : List Token} (h : x.turn code = .ok (.token t y)) (hy : Emits code y ts) :
    Emits code x (t :: ts)

/-- The rest of the pattern at the position that has been reached. -/
def At (code : List Char) (x : Lexer) (rest : List Char) : Prop :=
  ∃ before, code = before ++ rest ∧ byteLength before = x.pos

/-- The tokens that are still to come. -/
def ahead (x : Lexer) (rest : List Char) : List Token :=
  if x.pending.isEmpty then tokensFrom x.pos rest
  else Token.join ⟨x.start, x.pos, .text x.pending⟩ (tokensFrom x.pos rest)

variable {code rest more w content : List Char} {x y z : Lexer} {c : Char}

section Positions

lemma slice_from (before rest : List Char) :
    slice (byteLength before) (byteLength (before ++ rest)) (before ++ rest) = .ok rest := by
  have h := Text.slice_append before rest []
  rwa [List.append_nil] at h

lemma At.slice (h : At code x rest) : slice x.pos (byteLength code) code = .ok rest := by
  obtain ⟨before, rfl, hpos⟩ := h
  rw [← hpos]
  exact slice_from before rest

lemma At.slice_part (h : At code x (w ++ more)) : Text.slice x.pos (x.pos + byteLength w) code = .ok w := by
  obtain ⟨before, rfl, hpos⟩ := h
  rw [← hpos, ← Text.byteLength_append, ← List.append_assoc]
  exact Text.slice_append before w more

lemma At.stop (h : At code x rest) : byteLength code = x.pos + byteLength rest := by
  obtain ⟨before, rfl, hpos⟩ := h
  rw [Text.byteLength_append, hpos]

lemma At.advance (h : At code x (w ++ more)) (hy : y.pos = x.pos + byteLength w) : At code y more := by
  obtain ⟨before, rfl, hpos⟩ := h
  exact ⟨before ++ w, (List.append_assoc _ _ _).symm, by rw [Text.byteLength_append, hpos, hy]⟩

lemma At.turn_eq (h : At code x rest) (hne : rest ≠ []) : x.turn code = x.read code rest := by
  have hpos : 0 < byteLength rest := by
    obtain ⟨c, r, rfl⟩ := List.exists_cons_of_ne_nil hne
    exact Nat.add_pos_left c.utf8Size_pos _
  have hstop := h.stop
  rw [turn, if_pos (by omega), h.slice]
  rfl

lemma At.turn_end (h : At code x []) : x.turn code = .ok x.finish := by
  have hstop : byteLength code = x.pos := h.stop
  rw [turn, if_neg (by omega)]
  rfl

end Positions

section Turns

lemma escape?_renderChar (hc : c ∈ escaped) (more : List Char) :
    escape? (renderChar c ++ more) = some (c, byteLength (renderChar c)) := by
  simp only [escaped, List.mem_cons, List.not_mem_nil, or_false] at hc
  rcases hc with rfl | rfl | rfl | rfl | rfl | rfl <;> rfl

lemma escape?_eq_none (h : ¬Escaped rest) : escape? rest = none := by
  have hrender : ∀ c ∈ escaped, ∀ more, rest ≠ renderChar c ++ more := fun c hc more hr => h ⟨c, hc, more, hr.symm⟩
  unfold escape?
  split
  · exact absurd rfl (hrender '[' (by decide) _)
  · exact absurd rfl (hrender ']' (by decide) _)
  · rename_i c more _
    rw [if_neg]
    intro hc
    rcases Token.escapable_iff.mp hc with rfl | rfl | rfl | rfl
    · exact hrender '*' (by decide) _ rfl
    · exact hrender '+' (by decide) _ rfl
    · exact hrender '?' (by decide) _ rfl
    · exact hrender '|' (by decide) _ rfl
  · rfl

lemma turn_escape (h : At code x (renderChar c ++ more)) (hc : c ∈ escaped) :
    x.turn code = .ok (.onward (x.push c (byteLength (renderChar c)))) := by
  have hne : renderChar c ++ more ≠ [] := by
    intro hnil
    have hlength := (Lexeme.escape c).length_chars
    rw [Lexeme.chars, (List.append_eq_nil_iff.mp hnil).1] at hlength
    exact absurd hlength (Nat.lt_irrefl 0)
  rw [h.turn_eq hne, read.eq_def, escape?_renderChar hc]

lemma turn_plain (h : At code x (c :: more)) (he : ¬Escaped (c :: more)) (hc : c ≠ '[') :
    x.turn code = match reserved? c with
      | some kind => .ok (x.yield ⟨x.pos, x.pos + 1, kind⟩ (x.pos + 1))
      | none => .ok (.onward (x.push c c.utf8Size)) := by
  rw [h.turn_eq (List.cons_ne_nil c more), read, escape?_eq_none he]
  exact if_neg hc

lemma all_noBracket (hl : '[' ∉ content) (hr : ']' ∉ content) : content.all noBracket = true := by
  refine List.all_eq_true.mpr fun c hc => ?_
  rw [noBracket, Bool.and_eq_true, bne_iff_ne, bne_iff_ne]
  exact ⟨fun h => hl (h ▸ hc), fun h => hr (h ▸ hc)⟩

lemma bracket?_append (hl : '[' ∉ content) (hr : ']' ∉ content) (hc : noBracket c = false) :
    bracket? (content ++ c :: more) = some (byteLength content) := by
  have hall := List.all_eq_true.mp (all_noBracket hl hr)
  rw [bracket?, List.takeWhile_append_of_pos hall, List.takeWhile_cons, hc, if_neg (by simp [hc])]
  simp

lemma turn_open {t : Token} {next : Nat} (h : At code x ('[' :: more)) (he : ¬Escaped ('[' :: more))
    (hgroup : x.group code = .ok (.token t { x with pos := next })) : x.turn code = .ok (x.yield t next) := by
  rw [h.turn_eq (List.cons_ne_nil '[' more), read, escape?_eq_none he, yield]
  dsimp only
  rw [if_pos rfl, hgroup]
  cases x.flush? <;> rfl

lemma group_eq (h : At code x ('[' :: rest)) : x.group code = x.close code rest (bracket? rest) := by
  have hbody : slice (x.pos + 1) (byteLength code) code = .ok rest :=
    (h.advance (y := { x with pos := x.pos + 1 }) (w := ['[']) rfl).slice
  rw [group, hbody]
  rfl

lemma close_at_bracket (code content more : List Char) (x : Lexer) (c : Char) :
    x.close code (content ++ c :: more) (some (byteLength content)) =
      if c = ']' then .ok (.token ⟨x.pos, x.pos + 1 + byteLength content + 1, .group (.ofContent x.pos content)⟩
        { x with pos := x.pos + 1 + byteLength content + 1 })
      else x.unterminated code (x.pos + 1 + byteLength content) := by
  have hcontent : slice 0 (byteLength content) (content ++ c :: more) = .ok content :=
    Text.slice_append [] content (c :: more)
  simp only [close, slice_from, hcontent, List.head?_cons, Option.some.injEq, bind, Except.bind, pure, Except.pure]

lemma unterminated_ok {stop : Nat} (h : slice x.pos stop code = .ok w) : x.unterminated code stop =
    .ok (.token ⟨x.pos, stop, .unterminated w⟩ { x with pos := byteLength code }) := by
  rw [unterminated, h]
  rfl

lemma group_closed (h : At code x ('[' :: (content ++ ']' :: more))) (hl : '[' ∉ content) (hr : ']' ∉ content) :
    x.group code = .ok (.token ⟨x.pos, x.pos + 1 + byteLength content + 1, .group (.ofContent x.pos content)⟩
      { x with pos := x.pos + 1 + byteLength content + 1 }) := by
  rw [group_eq h, bracket?_append hl hr rfl, close_at_bracket]
  exact if_pos rfl

lemma group_dangling (h : At code x ('[' :: rest)) (hd : Dangling ('[' :: rest)) :
    x.group code = .ok (.token ⟨x.pos, x.pos + byteLength (snippet rest), .unterminated (snippet rest)⟩
      { x with pos := byteLength code }) := by
  obtain ⟨body, behind, hrest, hsnippet, hl, hr, hopen⟩ := hd.exists_body
  have hpart : At code x (snippet rest ++ behind) := by
    rw [hsnippet, List.cons_append, ← hrest]
    exact h
  have hsize : byteLength (snippet rest) = 1 + byteLength body := by
    rw [hsnippet]
    rfl
  rw [group_eq h, ← unterminated_ok hpart.slice_part, hsize, ← Nat.add_assoc, hrest]
  cases behind with
  | nil =>
    have hstop : byteLength code = x.pos + 1 + byteLength body := by
      rw [h.stop, hrest, List.append_nil]
      exact (Nat.add_assoc _ _ _).symm
    rw [List.append_nil, bracket?, if_pos (all_noBracket hl hr), close, hstop]
  | cons c behind =>
    obtain rfl := hopen c rfl
    rw [bracket?_append hl hr rfl, close_at_bracket]
    exact if_neg (by decide)

end Turns

section Tokens

variable {t : Token} {ts : List Token} {next width : Nat}

lemma At.congr (h : At code x rest) (hpos : y.pos = x.pos) : At code y rest := by
  obtain ⟨before, hcode, hbefore⟩ := h
  exact ⟨before, hcode, hbefore.trans hpos.symm⟩

lemma join_join (start mid stop : Nat) (cs ds : List Char) (ts : List Token) :
    Token.join ⟨start, mid, .text cs⟩ (Token.join ⟨mid, stop, .text ds⟩ ts) =
      Token.join ⟨start, stop, .text (cs ++ ds)⟩ ts := by
  cases ts with
  | nil => rfl
  | cons u us =>
    obtain ⟨ustart, ustop, kind⟩ := u
    cases kind with
    | text es => simp only [Token.join, List.append_assoc]
    | _ => rfl

lemma ahead_push
    (hto : tokensFrom x.pos rest = Token.join ⟨x.pos, x.pos + width, .text [c]⟩ (tokensFrom (x.pos + width) more)) :
    x.ahead rest = (x.push c width).ahead more := by
  have hpending : (x.push c width).pending.isEmpty = false := by simp [push]
  rw [ahead, ahead, hpending, hto, push]
  cases hp : x.pending with
  | nil => rfl
  | cons d ds => exact join_join _ _ _ _ _ _

lemma ahead_of_nil (h : x.pending = []) (rest : List Char) : x.ahead rest = tokensFrom x.pos rest := by
  rw [ahead, h]
  rfl

lemma Emits.push (h : x.turn code = .ok (.onward (x.push c width)))
    (hto : tokensFrom x.pos rest = Token.join ⟨x.pos, x.pos + width, .text [c]⟩ (tokensFrom (x.pos + width) more))
    (hnext : Emits code (x.push c width) ((x.push c width).ahead more)) : Emits code x (x.ahead rest) := by
  rw [ahead_push hto]
  exact .onward h hnext

lemma Emits.flush (h : x.pending ≠ []) (hturn : ∃ other, x.turn code = .ok (x.flush?.getD other))
    (hs : Token.StartsNoText (tokensFrom x.pos rest))
    (hnext : Emits code { x with pending := [] } (tokensFrom x.pos rest)) : Emits code x (x.ahead rest) := by
  have hempty : x.pending.isEmpty = false := List.isEmpty_eq_false_iff.mpr h
  obtain ⟨other, hturn⟩ := hturn
  rw [flush?, hempty] at hturn
  rw [ahead, hempty, if_neg Bool.false_ne_true, Token.join_of_startsNoText hs]
  exact .token hturn hnext

lemma Emits.yield (hturn : ∀ z : Lexer, z.pos = x.pos → z.turn code = .ok (z.yield t next))
    (ht : ∀ cs, t.kind ≠ .text cs) (hto : tokensFrom x.pos rest = t :: ts)
    (hnext : ∀ z : Lexer, z.pos = next → z.pending = [] → Emits code z ts) : Emits code x (x.ahead rest) := by
  have hflushed : ∀ z : Lexer, z.pos = x.pos → z.pending = [] → Emits code z (tokensFrom x.pos rest) := by
    intro z hz hp
    have h := hturn z hz
    rw [Lexer.yield, flush?, hp] at h
    rw [hto]
    exact .token h (hnext _ rfl rfl)
  by_cases hp : x.pending = []
  · rw [ahead_of_nil hp]
    exact hflushed x rfl hp
  · refine .flush hp ⟨_, hturn x rfl⟩ ?_ (hflushed _ rfl rfl)
    rw [hto]
    rintro _ ⟨⟩
    exact ht

lemma reserved?_eq_none (h : Token.escapable c = false) : reserved? c = none := by
  rw [← Bool.not_eq_true, Token.escapable_iff, not_or, not_or, not_or] at h
  obtain ⟨hany, hone, hmaybe, hbar⟩ := h
  rw [reserved?, Wildcard.ofChar?, if_neg hany, if_neg hone, if_neg hmaybe]
  exact if_neg hbar

lemma ofChar_of_reserved {kind : TokenKind} (h : reserved? c = some kind) (pos : Nat) :
    Token.ofChar pos c = ⟨pos, pos + 1, kind⟩ ∧ ∀ cs, kind ≠ .text cs := by
  have hc : Token.escapable c = true := by
    by_contra hc
    rw [reserved?_eq_none (Bool.not_eq_true _ ▸ hc)] at h
    cases h
  rcases Token.escapable_iff.mp hc with rfl | rfl | rfl | rfl <;> obtain rfl := Option.some.inj h <;> exact ⟨rfl, nofun⟩

lemma ofChar_of_none (h : reserved? c = none) (pos : Nat) :
    Token.ofChar pos c = ⟨pos, pos + c.utf8Size, .text [c]⟩ := by
  unfold reserved? at h
  unfold Token.ofChar
  cases hw : Wildcard.ofChar? c with
  | some w =>
    rw [hw] at h
    cases h
  | none =>
    rw [hw] at h
    split_ifs at h with hc
    rw [if_neg hc]

lemma tokensFrom_heads {l : Lexeme} (h : l.Heads rest more) (pos : Nat) :
    tokensFrom pos rest = Token.join (l.token pos) (tokensFrom (pos + byteLength l.chars) more) := by
  rw [tokensFrom, Lexeme.single_of_heads h]
  rfl

lemma emits_end (h : At code x []) : Emits code x (x.ahead []) := by
  have hdone : ∀ z, z.pos = x.pos → z.pending = [] → Emits code z [] := by
    intro z hz hp
    have hend := (h.congr hz).turn_end
    rw [finish, flush?, hp] at hend
    exact .done hend
  by_cases hp : x.pending = []
  · rw [ahead_of_nil hp]
    exact hdone x rfl hp
  · exact .flush hp ⟨.done, h.turn_end⟩ nofun (hdone _ rfl rfl)

lemma emits_dangling (h : At code x rest) (hd : Dangling rest) : Emits code x (x.ahead rest) := by
  obtain ⟨⟨rest, rfl⟩, he, -⟩ := id hd
  have hto : tokensFrom x.pos ('[' :: rest) =
      [⟨x.pos, x.pos + byteLength (snippet rest), .unterminated (snippet rest)⟩] := by
    rw [tokensFrom, hd.single_eq]
    rfl
  have hturn : ∀ z : Lexer, z.pos = x.pos → z.turn code =
      .ok (z.yield ⟨x.pos, x.pos + byteLength (snippet rest), .unterminated (snippet rest)⟩ (byteLength code)) := by
    intro z hz
    rw [← hz]
    exact turn_open (h.congr hz) he (group_dangling (h.congr hz) hd)
  refine .yield hturn (fun cs ht => TokenKind.noConfusion ht) hto fun z hz hp => ?_
  have hend : At code z [] := ⟨code, (List.append_nil code).symm, hz.symm⟩
  have hemits := emits_end hend
  rwa [ahead_of_nil hp] at hemits

/-- From wherever a pattern has been cut, its turns yield what is still to come. -/
lemma emits_ahead {ls : List Lexeme} {last : List Char} (hr : Reading rest ls last) (hend : last = [] ∨ Dangling last)
    (h : At code x rest) : Emits code x (x.ahead rest) := by
  induction hr generalizing x with
  | done rest =>
    rcases hend with rfl | hd
    · exact emits_end h
    · exact emits_dangling h hd
  | @next l ls text more last hl _ ih =>
    have hto := tokensFrom_heads hl x.pos
    obtain ⟨rfl, hl⟩ := hl
    have hnext : ∀ z, z.pos = x.pos + byteLength l.chars → Emits code z (z.ahead more) :=
      fun z hz => ih hend (h.advance hz)
    have hempty : ∀ z, z.pos = x.pos + byteLength l.chars → z.pending = [] →
        Emits code z (tokensFrom (x.pos + byteLength l.chars) more) := by
      intro z hz hp
      rw [← hz, ← ahead_of_nil hp]
      exact hnext z hz
    cases l with
    | escape c => exact .push (turn_escape h hl) hto (hnext _ rfl)
    | group content =>
      obtain ⟨he, hopen, hclose⟩ := hl
      have htext : (Lexeme.group content).chars ++ more = '[' :: (content ++ ']' :: more) := by simp [Lexeme.chars]
      have hsize : byteLength (Lexeme.group content).chars = 1 + byteLength content + 1 := by
        rw [Lexeme.chars, Text.byteLength_append]
        rfl
      rw [htext] at h he hto ⊢
      refine .yield (fun z hz => ?_) (fun cs ht => TokenKind.noConfusion ht) hto hempty
      have hturn := turn_open (h.congr hz) he (group_closed (h.congr hz) hopen hclose)
      rw [hz, Nat.add_assoc, Nat.add_assoc, ← Nat.add_assoc 1, ← hsize] at hturn
      exact hturn
    | plain c =>
      obtain ⟨he, hopen⟩ := hl
      have hturn := fun (z : Lexer) (hz : z.pos = x.pos) => turn_plain (h.congr hz) he hopen
      have hsize : byteLength (Lexeme.plain c).chars = c.utf8Size := Nat.add_zero _
      -- a character with a meaning ends the pending text, any other one is put to it
      cases hc : reserved? c with
      | some kind =>
        obtain ⟨hkind, htext⟩ := ofChar_of_reserved hc x.pos
        have hone : c.utf8Size = 1 := Nat.add_left_cancel (congrArg Token.stop hkind)
        have htoken : (Lexeme.plain c).token x.pos = ⟨x.pos, x.pos + 1, kind⟩ := by
          rw [Lexeme.token, hsize, hone, Lexeme.kind, hkind]
        rw [hc] at hturn
        rw [htoken, Token.join_of_no_text htext, hsize, hone] at hto
        rw [hsize, hone] at hempty
        exact .yield (fun z hz => hz ▸ hturn z hz) htext hto hempty
      | none =>
        have htoken : (Lexeme.plain c).token x.pos = ⟨x.pos, x.pos + c.utf8Size, .text [c]⟩ := by
          rw [Lexeme.token, hsize, Lexeme.kind, ofChar_of_none hc]
        rw [hc] at hturn
        rw [htoken, hsize] at hto
        rw [hsize] at hnext
        exact .push (hturn x rfl) hto (hnext _ rfl)

end Tokens

lemma Emits.unique {ts us : List Token} (h : Emits code x ts) (h' : Emits code x us) : ts = us := by
  induction h generalizing us with
  | done h =>
    cases h' with
    | done => rfl
    | onward h' => cases h.symm.trans h'
    | token h' => cases h.symm.trans h'
  | onward h _ ih =>
    cases h' with
    | done h' => cases h.symm.trans h'
    | onward h' hy =>
      cases h.symm.trans h'
      exact ih hy
    | token h' => cases h.symm.trans h'
  | token h _ ih =>
    cases h' with
    | done h' => cases h.symm.trans h'
    | onward h' => cases h.symm.trans h'
    | token h' hy =>
      cases h.symm.trans h'
      rw [ih hy]

/-- Cutting a pattern from its start ends after finitely many turns, none of which fails, with its tokens. -/
lemma emits_begin_iff (text : List Char) (ts : List Token) : Emits text begin ts ↔ ts = tokens text := by
  obtain ⟨ls, rest, hr, hend⟩ := Reading.exists_reading text
  have h : Emits text begin (tokens text) := emits_ahead hr hend ⟨[], rfl, rfl⟩
  exact ⟨fun hts => hts.unique h, fun hts => hts ▸ h⟩

end Lexer

end TypedPattern.Pattern
