import TypedPattern.Proofs.Pattern.Lexeme
import TypedPattern.Proofs.Pattern.Numbering

/-! Two patterns with a bar between them. -/

namespace TypedPattern.Pattern

open Text (byteLength)

def Segment.map {γ δ : Type} (f : γ → δ) : Segment γ → Segment δ
  | literal text => literal text
  | wildcard w => wildcard w
  | group g => group (f g)

def WrittenGroup.moved (k : Nat) (g : WrittenGroup) : WrittenGroup :=
  { g with pos := g.pos + k }

def TokenKind.moved (k : Nat) : TokenKind → TokenKind
  | group g => group (g.moved k)
  | kind => kind

namespace Token

def moved (k : Nat) (t : Token) : Token :=
  ⟨t.start + k, t.stop + k, t.kind.moved k⟩

lemma ofChar_moved (k pos : Nat) (c : Char) : ofChar (pos + k) c = (ofChar pos c).moved k := by
  unfold ofChar moved
  rw [Nat.add_right_comm]
  cases Wildcard.ofChar? c with
  | some w => rfl
  | none =>
    dsimp only
    split <;> rfl

lemma join_moved (k : Nat) (t : Token) (ts : List Token) :
    join (t.moved k) (ts.map (moved k)) = (join t ts).map (moved k) := by
  obtain ⟨start, mid, kind⟩ := t
  cases ts with
  | nil => cases kind <;> rfl
  | cons u us =>
    obtain ⟨mid', stop, kind'⟩ := u
    cases kind <;> cases kind' <;> rfl

def Ended (ts : List Token) : Prop :=
  ∀ t ∈ ts, ∀ snippet, t.kind ≠ .unterminated snippet

lemma ended_tail {t : Token} {ts : List Token} (h : Ended (t :: ts)) : Ended ts :=
  fun u hu => h u (List.mem_cons_of_mem t hu)

lemma startsNoText_bar (start stop : Nat) (ts : List Token) : StartsNoText (⟨start, stop, .bar⟩ :: ts) := by
  rintro t ht cs hk
  obtain rfl := Option.some.inj ht
  cases hk

lemma foldr_join_append (ts : List Token) {us : List Token} (h : StartsNoText us) :
    ts.foldr join us = ts.foldr join [] ++ us := by
  induction ts with
  | nil => rfl
  | cons t ts ih =>
    rw [List.foldr_cons, List.foldr_cons, ih]
    generalize ts.foldr join [] = vs
    cases vs with
    | nil =>
      rw [List.nil_append, join_of_startsNoText h, join_of_startsNoText fun _ hu => absurd hu (Option.not_mem_none _)]
      rfl
    | cons v vs =>
      obtain ⟨start, mid, kind⟩ := t
      obtain ⟨mid', stop, kind'⟩ := v
      cases kind <;> cases kind' <;> rfl

end Token

lemma Lexeme.token_moved (k pos : Nat) (l : Lexeme) : l.token (pos + k) = (l.token pos).moved k := by
  cases l with
  | escape c => rw [token, token, Token.moved, Nat.add_right_comm]; rfl
  | group content => rw [token, token, Token.moved, Nat.add_right_comm]; rfl
  | plain c =>
    have hkind : (plain c).kind (pos + k) = ((plain c).kind pos).moved k :=
      congrArg Token.kind (Token.ofChar_moved k pos c)
    rw [token, token, Token.moved, Nat.add_right_comm, hkind]

lemma Lexeme.tokens_moved (k pos : Nat) (ls : List Lexeme) :
    tokens (pos + k) ls = (tokens pos ls).map (Token.moved k) := by
  induction ls generalizing pos with
  | nil => rfl
  | cons l ls ih => rw [tokens, tokens, List.map_cons, token_moved, ← ih, Nat.add_right_comm]

lemma Token.single_moved (k pos : Nat) (cs : List Char) : single (pos + k) cs = (single pos cs).map (moved k) := by
  obtain ⟨ls, rest, h, rfl | hd⟩ := Reading.exists_reading cs
  · rw [h.single_eq, h.single_eq, List.map_append, Lexeme.tokens_moved]
    rfl
  · obtain ⟨rest, rfl⟩ := hd.1
    rw [h.single_eq, h.single_eq, List.map_append, Lexeme.tokens_moved, hd.single_eq, hd.single_eq, List.map_singleton,
      moved, Nat.add_right_comm pos k, Nat.add_right_comm _ k]
    rfl

/-- The one escape that a bar can complete is its own. -/
lemma escaped_of_bar {text more : List Char} (h : Escaped (text ++ '|' :: more)) : Escaped text ∨ text = ['['] := by
  obtain ⟨c, hc, hp⟩ := h
  rcases List.prefix_or_prefix_of_prefix hp (List.prefix_append text ('|' :: more)) with hp' | ⟨tail, htail⟩
  · exact Or.inl ⟨c, hc, hp'⟩
  rw [← htail, List.prefix_append_right_inj] at hp
  cases tail with
  | nil => exact Or.inl ⟨c, hc, by rw [← htail, List.append_nil]⟩
  | cons d tail =>
    obtain rfl : d = '|' := (List.cons_prefix_cons.mp hp).1
    have hbar : '|' ∈ renderChar c := htail ▸ List.mem_append_right text List.mem_cons_self
    obtain rfl : c = '|' := by
      unfold renderChar at hbar
      split_ifs at hbar <;> simpa [eq_comm] using hbar
    change text ++ '|' :: tail = ['[', '|', ']'] at htail
    have hsplit : text = ['['] ∧ tail = [']'] := by
      simpa [List.append_eq_cons_iff, List.cons_eq_append_iff] using htail
    exact Or.inr hsplit.1

lemma Lexeme.Heads.before_bar {l : Lexeme} {text rest : List Char} (h : l.Heads text rest) (more : List Char) :
    l.Heads (text ++ '|' :: more) (rest ++ '|' :: more) := by
  obtain ⟨rfl, h⟩ := h
  refine ⟨by rw [List.append_assoc], ?_⟩
  cases l with
  | escape c => exact h
  | group content =>
    obtain ⟨he, hbrackets⟩ := h
    refine ⟨fun hb => ?_, hbrackets⟩
    rcases escaped_of_bar hb with hb | hb
    · exact he hb
    · simp [chars] at hb
  | plain c =>
    obtain ⟨he, hc⟩ := h
    refine ⟨fun hb => ?_, hc⟩
    rcases escaped_of_bar hb with hb | hb
    · exact he hb
    · exact hc (List.cons.inj hb).1

lemma Reading.before_bar {text rest : List Char} {ls : List Lexeme} (h : Reading text ls rest) (more : List Char) :
    Reading (text ++ '|' :: more) ls (rest ++ '|' :: more) := by
  induction h with
  | done rest => exact .done _
  | next hl _ ih => exact .next (hl.before_bar more) ih

lemma Token.single_joined {pos : Nat} {cs : List Char} (h : Ended (single pos cs)) (more : List Char) :
    single pos (cs ++ '|' :: more) = single pos cs ++ single (pos + byteLength cs) ('|' :: more) := by
  obtain ⟨ls, rest, hr, rfl | hd⟩ := Reading.exists_reading cs
  · have hbytes : Lexeme.bytes ls = byteLength cs := by rw [Lexeme.bytes, ← List.append_nil (ls.flatMap _), ← hr.text_eq]
    have hnil : single pos cs = Lexeme.tokens pos ls := by rw [hr.single_eq]; exact List.append_nil _
    rw [(hr.before_bar more).single_eq, hnil, hbytes, List.nil_append]
  · -- the bracket that opens no group would be unterminated
    obtain ⟨rest, rfl⟩ := hd.1
    rw [hr.single_eq, hd.single_eq] at h
    exact absurd rfl (h _ (List.mem_append_right _ List.mem_cons_self) _)

lemma tokensFrom_moved (k pos : Nat) (cs : List Char) :
    tokensFrom (pos + k) cs = (tokensFrom pos cs).map (Token.moved k) := by
  rw [tokensFrom, Token.single_moved, tokensFrom]
  induction Token.single pos cs with
  | nil => rfl
  | cons t ts ih => rw [List.map_cons, List.foldr_cons, List.foldr_cons, ih, Token.join_moved]

lemma Token.ended_join {t : Token} {ts : List Token} (h : Ended (join t ts)) : Ended (t :: ts) := by
  obtain ⟨start, mid, kind⟩ := t
  cases ts with
  | nil => cases kind <;> exact h
  | cons u us =>
    obtain ⟨mid', stop, kind'⟩ := u
    cases kind <;> cases kind' <;> first
      | exact h
      | exact List.forall_mem_cons.mpr ⟨fun _ he => TokenKind.noConfusion he,
          List.forall_mem_cons.mpr ⟨fun _ he => TokenKind.noConfusion he, ended_tail h⟩⟩

lemma Token.ended_of_joined {ts : List Token} (h : Ended (ts.foldr join [])) : Ended ts := by
  induction ts with
  | nil => exact h
  | cons t ts ih =>
    have hjoin : Ended (t :: ts.foldr join []) := ended_join h
    exact List.forall_mem_cons.mpr ⟨hjoin t List.mem_cons_self, ih (ended_tail hjoin)⟩

lemma tokensFrom_joined (pos : Nat) {cs : List Char} (h : Token.Ended (tokensFrom pos cs)) (more : List Char) :
    tokensFrom pos (cs ++ '|' :: more) = tokensFrom pos cs ++ tokensFrom (pos + byteLength cs) ('|' :: more) := by
  rw [tokensFrom, Token.single_joined (Token.ended_of_joined h), List.foldr_append]
  change (Token.single pos cs).foldr Token.join (tokensFrom (pos + byteLength cs) ('|' :: more)) = _
  rw [tokensFrom_bar, Token.foldr_join_append _ (Token.startsNoText_bar _ _ _)]
  rfl

lemma readBranch_ended {ts : List Token} {ss : List (Segment WrittenGroup)} (h : readBranch ts = .ok (ss, [])) :
    Token.Ended ts := by
  induction ts generalizing ss with
  | nil => exact fun t ht => absurd ht List.not_mem_nil
  | cons t ts ih =>
    rcases readBranch_cons.mp h with ⟨-, -, hrest⟩ | ⟨s, more, hs, hmore, -⟩
    · cases hrest
    · refine List.forall_mem_cons.mpr ⟨fun snippet hk => ?_, ih hmore⟩
      rw [hk] at hs
      cases hs

lemma readBranch_append {ts us rest : List Token} {ss ss' : List (Segment WrittenGroup)}
    (h : readBranch ts = .ok (ss, [])) (hu : readBranch us = .ok (ss', rest)) :
    readBranch (ts ++ us) = .ok (ss ++ ss', rest) := by
  induction ts generalizing ss with
  | nil =>
    cases h
    exact hu
  | cons t ts ih =>
    rcases readBranch_cons.mp h with ⟨-, -, hrest⟩ | ⟨s, more, hs, hmore, rfl⟩
    · cases hrest
    · exact readBranch_cons.mpr (Or.inr ⟨s, _, hs, ih hmore, rfl⟩)

lemma readBranch_moved (k : Nat) {ts rest : List Token} {ss : List (Segment WrittenGroup)}
    (h : readBranch ts = .ok (ss, rest)) :
    readBranch (ts.map (Token.moved k)) = .ok (ss.map (Segment.map (WrittenGroup.moved k)), rest.map (Token.moved k)) := by
  induction ts generalizing ss with
  | nil =>
    cases h
    rfl
  | cons t ts ih =>
    obtain ⟨start, stop, kind⟩ := t
    rw [List.map_cons]
    rcases readBranch_cons.mp h with ⟨hk, rfl, rfl⟩ | ⟨s, more, hs, hmore, rfl⟩
    · obtain rfl : kind = .bar := hk
      rfl
    · refine readBranch_cons.mpr (Or.inr ⟨s.map (WrittenGroup.moved k), _, ?_, ih hmore, rfl⟩)
      cases kind <;> cases hs <;> rfl

lemma read_eq_one {text : String} {ss : List (Segment WrittenGroup)} :
    read text = .ok (.one ss) ↔ readBranch (tokensFrom 0 text.toList) = .ok (ss, []) := by
  rw [read_eq_ok]
  constructor
  · rintro ⟨left, rest, hleft, ⟨rfl, he⟩ | ⟨t, ts, right, -, -, he⟩⟩
    · cases he
      exact hleft
    · cases he
  · exact fun h => ⟨ss, [], h, Or.inl ⟨rfl, rfl⟩⟩

/-- Two texts that are one branch each are two branches with a bar between them. -/
theorem read_joined {l r : String} {left right : List (Segment WrittenGroup)} (hl : read l = .ok (.one left))
    (hr : read r = .ok (.one right)) : read (l ++ "|" ++ r) =
      .ok (.two left (right.map (Segment.map (WrittenGroup.moved (byteLength l.toList + 1))))) := by
  have hleft := read_eq_one.mp hl
  have hright := readBranch_moved (byteLength l.toList + 1) (read_eq_one.mp hr)
  have htokens : tokensFrom 0 (l ++ "|" ++ r).toList = tokensFrom 0 l.toList ++
      ⟨byteLength l.toList, byteLength l.toList + 1, .bar⟩ ::
        (tokensFrom 0 r.toList).map (Token.moved (byteLength l.toList + 1)) := by
    rw [String.toList_append, String.toList_append, List.append_assoc]
    change tokensFrom 0 (l.toList ++ '|' :: r.toList) = _
    rw [tokensFrom_joined 0 (readBranch_ended hleft), tokensFrom_bar, ← tokensFrom_moved, Nat.zero_add, Nat.zero_add]
  have hbar : ∀ t : Token, t.kind = .bar → ∀ ts, readBranch (t :: ts) = .ok ([], t :: ts) :=
    fun t hk ts => readBranch_cons.mpr (Or.inl ⟨hk, rfl, rfl⟩)
  have hboth := readBranch_append hleft (hbar ⟨byteLength l.toList, byteLength l.toList + 1, .bar⟩ rfl
    ((tokensFrom 0 r.toList).map (Token.moved (byteLength l.toList + 1))))
  rw [← htokens, List.append_nil] at hboth
  exact read_eq_ok.mpr ⟨_, _, hboth, Or.inr ⟨_, _, _, rfl, hright, rfl⟩⟩

def Capture.shift (k : Nat) (c : Capture) : Capture :=
  { c with order := c.order + k }

def shiftBranch (k : Nat) (segments : List (Segment Capture)) : List (Segment Capture) :=
  segments.map (Segment.map (Capture.shift k))

lemma number_shift (k next : Nat) (segments : List (Segment Group)) :
    number (next + k) segments = shiftBranch k (number next segments) := by
  induction segments generalizing next with
  | nil => rfl
  | cons s rest ih =>
    cases s with
    | literal text => exact congrArg (Segment.literal text :: ·) (ih next)
    | wildcard w => exact congrArg (Segment.wildcard w :: ·) (ih next)
    | group g =>
      have hrest : number (next + k + 1) rest = shiftBranch k (number (next + 1) rest) := by
        rw [← ih (next + 1), Nat.add_right_comm]
      exact congrArg (Segment.group (⟨next + k, g.name, g.constraint⟩ : Capture) :: ·) hrest

lemma groups_map {γ δ : Type} (f : γ → δ) (segments : List (Segment γ)) :
    Segment.groups (segments.map (Segment.map f)) = (Segment.groups segments).map f := by
  induction segments with
  | nil => rfl
  | cons s rest ih =>
    cases s with
    | literal text => exact ih
    | wildcard w => exact ih
    | group g => exact congrArg (f g :: ·) ih

lemma groups_shiftBranch (k : Nat) (segments : List (Segment Capture)) :
    Segment.groups (shiftBranch k segments) = (Segment.groups segments).map (Capture.shift k) :=
  groups_map _ segments

lemma names_shift (k : Nat) (groups : List Capture) :
    (groups.map (Capture.shift k)).filterMap (·.name) = groups.filterMap (·.name) := by
  rw [List.filterMap_map]
  rfl

variable {types : Registry} {flexible : Bool}

lemma Constraint.resolve_anywhere {pos : Nat} {text : Option String} {constraint : Constraint}
    (h : Constraint.resolve types pos text = .ok constraint) (pos' : Nat) :
    Constraint.resolve types pos' text = .ok constraint := by
  cases text with
  | none => exact h
  | some text =>
    unfold Constraint.resolve at h ⊢
    dsimp only at h ⊢
    split_ifs at h ⊢
    · exact h
    · exact h

lemma Group.resolve_moved (k : Nat) {g : WrittenGroup} {h : Group} (hr : Group.resolve types g = .ok h) :
    Group.resolve types (g.moved k) = .ok h := by
  unfold Group.resolve WrittenGroup.moved at *
  dsimp only
  cases hn : g.name.filter fun name => !isIdentifier name with
  | some name =>
    rw [hn] at hr
    cases hr
  | none =>
    rw [hn] at hr
    obtain ⟨constraint, hc, rfl⟩ := Regex.map_eq_ok.mp hr
    exact Regex.map_eq_ok.mpr ⟨constraint, Constraint.resolve_anywhere hc _, rfl⟩

lemma mapAllM_moved (k : Nat) {ss : List (Segment WrittenGroup)} {ts : List (Segment Group)}
    (h : Segment.mapAllM (Group.resolve types) ss = .ok ts) :
    Segment.mapAllM (Group.resolve types) (ss.map (Segment.map (WrittenGroup.moved k))) = .ok ts := by
  rw [Segment.mapAllM_eq_ok] at h ⊢
  rw [List.forall₂_map_left_iff]
  refine h.imp fun s t hs => ?_
  cases s with
  | literal text => exact hs
  | wildcard w => exact hs
  | group g =>
    obtain ⟨d, hd, rfl⟩ := Regex.map_eq_ok.mp hs
    exact Regex.map_eq_ok.mpr ⟨d, Group.resolve_moved k hd, rfl⟩

lemma compile_one {text : String} {c : Compiled} {segments : List (Segment Capture)}
    (h : compile types flexible text = .ok c) (hone : c.branches = .one segments) : ∃ written resolved,
      read text = .ok (.one written) ∧ Segment.mapAllM (Group.resolve types) written = .ok resolved ∧
        segments = number 0 resolved ∧ ((Segment.groups segments).filterMap (·.name)).Nodup := by
  obtain ⟨raw, resolved, hread, hres, rfl, hnames⟩ := compile_ok h
  cases resolved with
  | two left right => cases hone
  | one resolved =>
    cases hone
    cases raw with
    | two left right =>
      obtain ⟨l, -, hres⟩ := Regex.bind_eq_ok.mp hres
      obtain ⟨r, -, hres⟩ := Regex.bind_eq_ok.mp hres
      cases hres
    | one written =>
      obtain ⟨b, hb, he⟩ := Regex.map_eq_ok.mp hres
      cases he
      refine ⟨written, resolved, hread, hb, rfl, ?_⟩
      simpa [Compiled.groups, Resolved.number, Branches.toList] using hnames

/-- Two patterns of one branch that share no name, with a bar between them. -/
theorem compile_joined {l r : String} {cl cr : Compiled} {left right : List (Segment Capture)}
    (hl : compile types flexible l = .ok cl) (hleft : cl.branches = .one left)
    (hr : compile types flexible r = .ok cr) (hright : cr.branches = .one right)
    (hnames : (cl.groups.filterMap (·.name)).Disjoint (cr.groups.filterMap (·.name))) :
    compile types flexible (l ++ "|" ++ r) =
      .ok ⟨.two left (shiftBranch (Segment.groups left).length right), flexible⟩ := by
  obtain ⟨wl, rl, hwl, hrl, rfl, hnl⟩ := compile_one hl hleft
  obtain ⟨wr, rr, hwr, hrr, rfl, hnr⟩ := compile_one hr hright
  have hlength : (Segment.groups (number 0 rl)).length = (Segment.groups rl).length := by
    rw [← List.length_map Capture.group, groups_number]
  have hnumber : Resolved.number (.two rl rr) =
      .two (number 0 rl) (shiftBranch (Segment.groups (number 0 rl)).length (number 0 rr)) := by
    rw [Resolved.number, hlength, ← number_shift, Nat.zero_add]
  have hdisjoint : ((Segment.groups (number 0 rl)).filterMap (·.name)).Disjoint
      ((Segment.groups (number 0 rr)).filterMap (·.name)) := by
    simpa [Compiled.groups, hleft, hright, Branches.toList] using hnames
  refine Regex.bind_eq_ok.mpr ⟨_, read_joined hwl hwr, Regex.bind_eq_ok.mpr ⟨.two rl rr, ?_, ?_⟩⟩
  · exact Regex.bind_eq_ok.mpr ⟨rl, hrl, Regex.bind_eq_ok.mpr ⟨rr, mapAllM_moved _ hrr, rfl⟩⟩
  · have hnone : firstRepeated [] ((Compiled.groups ⟨Resolved.number (.two rl rr), flexible⟩).filterMap (·.name)) = none := by
      refine firstRepeated_eq_none.mpr ⟨?_, fun _ _ => List.not_mem_nil⟩
      rw [Compiled.groups, hnumber, Branches.toList, List.flatMap_cons, List.flatMap_singleton, List.filterMap_append,
        groups_shiftBranch, names_shift]
      exact List.nodup_append'.mpr ⟨hnl, hnr, hdisjoint⟩
    unfold Resolved.compile
    dsimp only
    rw [hnone, ← hnumber]

end TypedPattern.Pattern
