import TypedPattern.Proofs.Printing.Group

/-! Printed expressions are read back. -/

namespace TypedPattern.Regex

open TypedPattern.Regex.Group (CaptureName)

def levelFrom (opening : Option Nat) (k : Nat) :
    Level × List CaptureName × Cursor → Except Error (Syntax × List CaptureName × Cursor)
  | (l, seen, c) => readLevel k opening l seen c

namespace Level

/-- The finished branches and the items that a level holds, from left to right and without their places. -/
structure Holds (l : Level) (bs xs : List Syntax) : Prop where
  branches : l.branches.map Syntax.bare = bs.reverse
  items : l.items.map Syntax.bare = xs.reverse

variable {l : Level} {bs xs : List Syntax}

lemma holds_startingAt (pos : Nat) : (Level.startingAt pos).Holds [] [] :=
  ⟨rfl, rfl⟩

lemma Holds.push (h : l.Holds bs xs) {x y : Syntax} (hy : y.bare = x) : (l.push y).Holds bs (xs ++ [x]) := by
  refine ⟨h.branches, ?_⟩
  rw [Level.push, List.map_cons, h.items, hy, List.reverse_append]
  rfl

lemma Holds.branch (h : l.Holds bs xs) (stop : Nat) : (l.branch stop).bare = .ofItems ⟨0, 0⟩ xs := by
  rw [Level.branch, Syntax.ofItems_bare, List.map_reverse, h.items, List.reverse_reverse]

lemma Holds.split (h : l.Holds bs xs) (stop : Nat) : (l.split stop).Holds (bs ++ [.ofItems ⟨0, 0⟩ xs]) [] := by
  refine ⟨?_, rfl⟩
  rw [Level.split, List.map_cons, h.branches, h.branch, List.reverse_append]
  rfl

lemma Holds.toSyntax_single (h : l.Holds [] xs) (stop : Nat) : (l.toSyntax stop).bare = .ofItems ⟨0, 0⟩ xs := by
  have hb : l.branches = [] := List.map_eq_nil_iff.mp h.branches
  rw [Level.toSyntax, hb]
  exact h.branch stop

lemma Holds.toSyntax_alternation (h : l.Holds bs xs) (hn : bs ≠ []) (stop : Nat) :
    (l.toSyntax stop).bare = .alternation ⟨0, 0⟩ (bs ++ [.ofItems ⟨0, 0⟩ xs]) := by
  have hb : l.branches.isEmpty = false := by
    rw [← List.isEmpty_map, h.branches]
    simpa using hn
  rw [Level.toSyntax, hb]
  change Syntax.bare (.alternation _ (l.branch stop :: l.branches).reverse) = _
  rw [Syntax.bare, Syntax.bareAll_eq_map, List.map_reverse, List.map_cons, h.branch, h.branches, List.reverse_cons,
    List.reverse_reverse]

end Level

namespace Syntax

def names (x : Syntax) : List (List Char) :=
  x.captures.filterMap id

def namesOfAll (xs : List Syntax) : List (List Char) :=
  (capturesOfAll xs).filterMap id

lemma namesOfAll_cons (x : Syntax) (xs : List Syntax) : namesOfAll (x :: xs) = x.names ++ namesOfAll xs := by
  simp [namesOfAll, names, capturesOfAll]

lemma chars_ofItems (s : Span) (xs : List Syntax) : (ofItems s xs).chars = charsOfAll xs := by
  match xs with
  | [] => rfl
  | [x] => simp [ofItems, charsOfAll]
  | x :: y :: r =>
    change (concat s (x :: y :: r)).chars = _
    rw [chars]

lemma legible_ofItems (s : Span) (xs : List Syntax) : (ofItems s xs).legible = legibleAll xs := by
  match xs with
  | [] => simp [ofItems, legible, legibleAll]
  | [x] => simp [ofItems, legibleAll]
  | x :: y :: r =>
    change (concat s (x :: y :: r)).legible = _
    rw [legible]

lemma names_ofItems (s : Span) (xs : List Syntax) : (ofItems s xs).names = namesOfAll xs := by
  match xs with
  | [] => rfl
  | [x] => simp [ofItems, namesOfAll, capturesOfAll, names]
  | x :: y :: r => rfl

def signs : List Char :=
  [')', '|', '?', '*', '+', '\x7b']

lemma Written.head {v : Bool} {x : Syntax} (h : Written (.item v x)) :
    ∃ c cs, x.chars = c :: cs ∧ Solid v c ∧ c ∉ signs := by
  generalize hp : Part.item v x = p at h
  induction h generalizing v x with
  | @escaped w l hl =>
    cases hp
    obtain ⟨cs, hc⟩ := hl.chars
    exact ⟨'\\', cs, hc, solid_of_graph _ rfl (by decide), by decide⟩
  | @verbatim w l hl =>
    cases hp
    refine ⟨l.char, [], hl.chars, hl.2.2, fun hc => hl.2.1 ?_⟩
    simp only [signs, List.mem_cons, List.not_mem_nil, or_false] at hc
    rcases hc with hc | hc | hc | hc | hc | hc <;> rw [hc] <;> decide
  | dot w =>
    cases hp
    exact ⟨'.', [], rfl, solid_of_graph _ rfl (by decide), by decide⟩
  | assertion w kind =>
    cases hp
    obtain ⟨c, cs, hc, hs⟩ : ∃ c cs, kind.chars = c :: cs ∧ c ∈ ['\\', '^', '$'] := by
      cases kind <;> exact ⟨_, _, rfl, by decide⟩
    refine ⟨c, cs, hc, ?_⟩
    simp only [List.mem_cons, List.not_mem_nil, or_false] at hs
    rcases hs with rfl | rfl | rfl <;> exact ⟨solid_of_graph _ rfl (by decide), by decide⟩
  | unicode hu =>
    cases hp
    exact ⟨'\\', _, rfl, solid_of_graph _ rfl (by decide), by decide⟩
  | perl w p =>
    cases hp
    obtain ⟨c, hc⟩ := p.chars_cons
    exact ⟨'\\', [c], hc, solid_of_graph _ rfl (by decide), by decide⟩
  | @bracketed w negated inner hi =>
    cases hp
    cases negated <;> exact ⟨'[', _, rfl, solid_of_graph _ rfl (by decide), by decide⟩
  | flags hn hf =>
    cases hp
    exact ⟨'(', _, rfl, solid_of_graph _ rfl (by decide), by decide⟩
  | @repetition w kind greedy body hb hr hk ih =>
    cases hp
    obtain ⟨c, cs, hc, hs, hn⟩ := ih rfl
    refine ⟨c, cs ++ kind.chars ++ (if greedy then [] else ['?']), ?_, hs, hn⟩
    rw [chars, hc]
    rfl
  | @group w kind body hk hb ih =>
    cases hp
    obtain ⟨cs, hc⟩ : ∃ cs, kind.bare.chars = '(' :: cs := by
      cases kind with
      | named letter name => cases letter <;> exact ⟨_, rfl⟩
      | _ => exact ⟨_, rfl⟩
    refine ⟨'(', cs ++ body.chars ++ [')'], ?_, solid_of_graph _ rfl (by decide), by decide⟩
    rw [chars, hc]
    rfl
  | _ => cases hp

/-- What may stand behind the items of a branch. -/
def Stops (cs : List Char) : Prop :=
  ∀ c ∈ cs.head?, c = ')' ∨ c = '|'

/-- What stands behind a group, and behind the whole expression. -/
def Ends (opening : Option Nat) (cs : List Char) : Prop :=
  match opening with
  | none => cs = []
  | some _ => ∃ ds, cs = ')' :: ds

variable {v : Bool} {cs : List Char}

lemma Stops.tight (h : Stops cs) : Tight v cs := by
  intro c hc
  rcases h c hc with rfl | rfl <;> exact solid_of_graph v rfl (by decide)

lemma Ends.stops {opening : Option Nat} (h : Ends opening cs) : Stops cs := by
  cases opening with
  | none =>
    rw [show cs = [] from h]
    rintro c ⟨⟩
  | some start =>
    obtain ⟨ds, rfl⟩ := h
    rintro c ⟨⟩
    exact Or.inl rfl

lemma Written.behind {w : Bool} {xs : List Syntax} (h : Written (.items v xs w)) (hc : Stops cs) :
    Tight v (charsOfAll xs ++ cs) ∧ ∀ c ∈ (charsOfAll xs ++ cs).head?, c ∉ ['?', '\x7b'] := by
  cases h with
  | nil =>
    refine ⟨hc.tight, fun c h => ?_⟩
    rcases hc c h with rfl | rfl <;> decide
  | cons hx hxs =>
    obtain ⟨c, r, hr, hs, hn⟩ := hx.head
    rw [charsOfAll, hr]
    refine ⟨tight_cons.mpr hs, ?_⟩
    rintro d ⟨⟩ hd
    apply hn
    simp only [signs, List.mem_cons, List.not_mem_nil, or_false] at hd ⊢
    rcases hd with rfl | rfl <;> simp

/-- The text behind an item does not change how the item is read. -/
structure Behind (v : Bool) (x : Syntax) (cs : List Char) : Prop where
  tight : Tight (x.verboseAfter v) cs
  mark : x.isGreedy = true → cs.head? ≠ some '?'
  brace : Escape.NoBoundary cs

lemma Behind.of_head {x : Syntax} (ht : Tight (x.verboseAfter v) cs) (h : ∀ c ∈ cs.head?, c ∉ ['?', '\x7b']) :
    Behind v x cs := by
  refine ⟨ht, fun _ hc => h '?' hc (by decide), ?_⟩
  rintro ds rfl
  exact absurd (by decide) (h _ rfl)

/-- What the reader makes of the text of a part, if that is legible. -/
def Part.Readable : Part → Prop
  | .item v x => x.legible = true → ∀ follow, Behind v x follow → ∀ opening (l : Level) (seen : List CaptureName) pos,
      (seen.map (·.name) ++ x.names).Nodup → ∃ y seen' stop, y.bare = x ∧ seen'.map (·.name) = seen.map (·.name) ++ x.names ∧
        Passes (levelFrom opening) x.chars.length (l, seen, ⟨pos, x.chars ++ follow, v⟩)
          (l.push y, seen', ⟨stop, follow, x.verboseAfter v⟩)
  | .items v xs w => legibleAll xs = true → ∀ follow, Stops follow → ∀ opening (l : Level) (seen : List CaptureName) pos bs ys,
      l.Holds bs ys → (seen.map (·.name) ++ namesOfAll xs).Nodup → ∃ l' seen' stop, l'.Holds bs (ys ++ xs) ∧
        seen'.map (·.name) = seen.map (·.name) ++ namesOfAll xs ∧
        Passes (levelFrom opening) (charsOfAll xs).length (l, seen, ⟨pos, charsOfAll xs ++ follow, v⟩)
          (l', seen', ⟨stop, follow, w⟩)
  | .branches v bs w => legibleAll bs = true → ∀ follow, Stops follow → ∀ opening (l : Level) (seen : List CaptureName) pos as,
      l.Holds as [] → (seen.map (·.name) ++ namesOfAll bs).Nodup → ∃ l' seen' stop cs ys, l'.Holds cs ys ∧
        cs ++ [.ofItems ⟨0, 0⟩ ys] = as ++ bs ∧ seen'.map (·.name) = seen.map (·.name) ++ namesOfAll bs ∧
        Passes (levelFrom opening) (charsBetweenBars bs).length (l, seen, ⟨pos, charsBetweenBars bs ++ follow, v⟩)
          (l', seen', ⟨stop, follow, w⟩)
  | .level v x => x.legible = true → ∀ opening follow, Ends opening follow → ∀ (seen : List CaptureName) start pos,
      (seen.map (·.name) ++ x.names).Nodup → ∃ y seen' stop w, y.bare = x ∧
        seen'.map (·.name) = seen.map (·.name) ++ x.names ∧ ∀ k, x.chars.length < k →
          readLevel k opening (Level.startingAt start) seen ⟨pos, x.chars ++ follow, v⟩ =
            .ok (y, seen', ⟨stop, follow, w⟩)

lemma not_operator {c : Char} (h : c ∉ signs) : c ≠ ')' ∧ c ≠ '|' ∧ isOperator c = false := by
  simp only [signs, List.mem_cons, List.not_mem_nil, or_false, not_or] at h
  obtain ⟨h1, h2, h3, h4, h5, h6⟩ := h
  exact ⟨h1, h2, by simp [isOperator, h3, h4, h5, h6]⟩

lemma skip_of_head {c : Char} {cs : List Char} {pos : Nat} (hs : Solid v c) :
    (⟨pos, c :: cs, v⟩ : Cursor).skip = ⟨pos, c :: cs, v⟩ :=
  Cursor.skip_of_tight (tight_cons.mpr hs)

lemma readable_primitive {x : Syntax} {c : Char} {cs : List Char} (hc : x.chars = c :: cs) (hs : Solid v c)
    (hn : c ∉ signs) (ho : c ≠ '(') (hv : x.verboseAfter v = v) (hnames : x.names = [])
    (hr : x.legible = true → ∀ follow, Behind v x follow → ∀ pos, ∃ y stop, y.bare = x ∧
      readPrimitive c ⟨pos, x.chars ++ follow, v⟩ = .ok (y, ⟨stop, follow, v⟩)) : Part.Readable (.item v x) := by
  intro hl follow hb opening l seen pos _
  obtain ⟨y, stop, hy, hread⟩ := hr hl follow hb pos
  refine ⟨y, seen, stop, hy, by simp [hnames], ?_⟩
  rw [hv]
  rw [hc] at hread ⊢
  refine Passes.step (Nat.succ_pos _) fun k _ => ?_
  obtain ⟨h1, h2, h3⟩ := not_operator hn
  have hskip : (⟨pos, c :: cs ++ follow, v⟩ : Cursor).skip = ⟨pos, c :: cs ++ follow, v⟩ := skip_of_head hs
  rw [levelFrom, levelFrom, readLevel_cons (by rw [hskip]; rfl), if_neg ho, if_neg h1, if_neg h2, h3, hskip]
  simp only [Bool.false_eq_true, if_false]
  rw [hread, bind_of_ok rfl]

lemma readPrimitive_literal {l : Literal} {c : Char} {cs follow : List Char} (h : l.Escaped ∨ l.Verbatim v specials)
    (hc : l.chars = c :: cs) (hf : Tight v follow) (pos : Nat) : ∃ y stop, y.bare = .literal l.bare ∧
      readPrimitive c ⟨pos, l.chars ++ follow, v⟩ = .ok (y, ⟨stop, follow, v⟩) := by
  rcases h with h | h
  · obtain ⟨m, stop, hm, hr⟩ := Escape.read_literal h hf pos
    obtain ⟨ds, hd⟩ := h.chars
    rw [hd] at hc
    obtain ⟨rfl, -⟩ := List.cons.inj hc
    exact ⟨.literal m, stop, by rw [bare, hm], hr⟩
  · obtain ⟨span, form, d⟩ := l
    obtain ⟨rfl, hn, -⟩ := h
    obtain ⟨rfl, rfl⟩ := List.cons.inj hc
    simp only [specials, List.mem_cons, List.not_mem_nil, or_false, not_or] at hn
    obtain ⟨-, -, -, -, -, -, -, h1, h2, h3, h4, h5⟩ := hn
    refine ⟨.literal ⟨⟨pos, pos + 1⟩, .verbatim, d⟩, pos + 1, rfl, ?_⟩
    rw [readPrimitive, if_neg h1, if_neg h2, if_neg h3, if_neg h4, if_neg h5]
    rfl

lemma readable_literal {l : Literal} (h : l.Escaped ∨ l.Verbatim v specials) :
    Part.Readable (.item v (.literal l.bare)) := by
  obtain ⟨c, cs, hc, hs, hne⟩ := Literal.chars_cons h
  have hn : c ∉ signs ∧ c ≠ '(' := by
    rcases hne with rfl | ⟨hn, -⟩
    · decide
    · simp only [specials, signs, List.mem_cons, List.not_mem_nil, or_false, not_or] at hn ⊢
      tauto
  exact readable_primitive (x := .literal l.bare) hc hs hn.1 hn.2 rfl rfl fun _ follow hb pos =>
    readPrimitive_literal h hc hb.tight pos

lemma readable_assertion (kind : AssertionKind) : Part.Readable (.item v (.assertion ⟨0, 0⟩ kind)) := by
  by_cases hs : kind = .lineStart
  · subst hs
    refine readable_primitive rfl (solid_of_graph v rfl (by decide)) (by decide) (by decide) rfl rfl fun _ follow hb pos =>
      ⟨.assertion ⟨pos, pos + 1⟩ .lineStart, pos + 1, rfl, rfl⟩
  by_cases he : kind = .lineEnd
  · subst he
    refine readable_primitive rfl (solid_of_graph v rfl (by decide)) (by decide) (by decide) rfl rfl fun _ follow hb pos =>
      ⟨.assertion ⟨pos, pos + 1⟩ .lineEnd, pos + 1, rfl, rfl⟩
  obtain ⟨cs, hc⟩ : ∃ cs, kind.chars = '\\' :: cs := by
    cases kind <;> first | exact absurd rfl hs | exact absurd rfl he | exact ⟨_, rfl⟩
  refine readable_primitive (x := .assertion ⟨0, 0⟩ kind) hc (solid_of_graph v rfl (by decide)) (by decide) (by decide) rfl
    rfl fun _ follow hb pos => ?_
  obtain ⟨sp, stop, hr⟩ := Escape.read_assertion hs he hb.brace pos
  exact ⟨.assertion sp kind, stop, rfl, hr⟩

lemma readable_bracketed {negated : Bool} {inner : ClassSet} (h : ClassSet.Written v (.body negated inner)) :
    Part.Readable (.item v (.bracketed ⟨0, 0⟩ negated inner)) := by
  obtain ⟨cs, hc⟩ : ∃ cs, (Syntax.bracketed ⟨0, 0⟩ negated inner).chars = '[' :: cs := by
    cases negated <;> exact ⟨_, rfl⟩
  refine readable_primitive hc (solid_of_graph v rfl (by decide)) (by decide) (by decide) rfl rfl fun hl follow hb pos => ?_
  obtain ⟨y, stop, hy, hr⟩ : ∃ y stop, _ ∧ Bracket.read ⟨pos, _ ++ (_ ++ ']' :: follow), v⟩ = _ :=
    Bracket.read_bracketed h (by simpa [legible] using hl) pos
  refine ⟨y, stop, hy, ?_⟩
  rw [chars, List.append_assoc, List.append_assoc]
  exact hr

lemma levelFrom_group {k : Nat} {opening : Option Nat} {l : Level} {seen : List CaptureName} {cs : List Char} {pos : Nat} :
    levelFrom opening (k + 1) (l, seen, ⟨pos, '(' :: cs, v⟩) =
      (Group.readHead seen ⟨pos, '(' :: cs, v⟩).bind (readGroup k opening l ⟨pos, '(' :: cs, v⟩) := by
  have hskip : (⟨pos, '(' :: cs, v⟩ : Cursor).skip = ⟨pos, '(' :: cs, v⟩ := skip_of_head (solid_of_graph v rfl (by decide))
  rw [levelFrom, readLevel_cons (by rw [hskip]), if_pos rfl, hskip]

lemma verboseAfter_eq {xs ys : List FlagItem} (h : xs.map FlagItem.bare = ys.map FlagItem.bare) (v : Bool) :
    Regex.verboseAfter xs v = Regex.verboseAfter ys v := by
  rw [Regex.verboseAfter, ← flagState_bare, h, flagState_bare]
  rfl

lemma readable_flags {items : List FlagItem} (hn : items ≠ []) (hf : FlagsWritten (items.map FlagItem.bare)) :
    Part.Readable (.item v (.flags ⟨0, 0⟩ (items.map FlagItem.bare))) := by
  intro _ follow hb opening l seen pos _
  have hf' : FlagsWritten ((items.map FlagItem.bare).map FlagItem.bare) := by rwa [FlagItem.map_bare_bare]
  obtain ⟨result, stop, hr, hread⟩ : ∃ result stop, _ ∧ Group.readHead seen ⟨pos, '(' :: '?' :: (_ ++ ')' :: follow), v⟩ = _ :=
    Group.readHead_setting hf' (by simpa using hn) pos
  rw [FlagItem.map_bare_bare] at hr
  have hchars : (flags ⟨0, 0⟩ (items.map FlagItem.bare)).chars ++ follow =
      '(' :: '?' :: ((items.map FlagItem.bare).map FlagItem.char ++ ')' :: follow) := by
    simp only [chars, List.cons_append, List.append_assoc, List.nil_append]
  refine ⟨.flags ⟨pos, stop⟩ result, seen, stop, by rw [bare, hr], by simp [names, captures], ?_⟩
  refine Passes.step (Nat.succ_pos _) fun k _ => ?_
  rw [hchars, levelFrom_group, hread, bind_of_ok rfl, readGroup, levelFrom]
  dsimp only
  rw [verboseAfter, verboseAfter_eq hr, verboseAfter_eq (FlagItem.map_bare_bare items)]

lemma readHead_opened {kind : GroupKind} {seen : List CaptureName} {follow : List Char} (hw : kind.bare.Written)
    (hn : (seen.map (·.name) ++ Group.namesOf kind).Nodup) (ht : kind = .numbered → Tight v follow)
    (hq : follow.head? ≠ some '?') (pos : Nat) : ∃ kind' seen' stop, kind'.bare = kind.bare ∧
      seen'.map (·.name) = seen.map (·.name) ++ Group.namesOf kind ∧
      Group.readHead seen ⟨pos, kind.bare.chars ++ follow, v⟩ = .ok (.opened kind', seen', ⟨stop, follow, v⟩) := by
  cases kind with
  | numbered =>
    exact ⟨.numbered, seen, pos + 1, rfl, by simp [Group.namesOf], Group.readHead_numbered (ht rfl) hq pos⟩
  | named letter name =>
    have hs : ∀ other ∈ seen, other.name ≠ name := by
      intro other hm he
      exact (List.nodup_append.mp hn).2.2 _ (List.mem_map_of_mem hm) name (by simp [Group.namesOf]) he
    obtain ⟨found, stop, hf, hr⟩ : ∃ found stop, _ ∧ Group.readHead seen ⟨pos, _ ++ follow, v⟩ = _ :=
      Group.readHead_named letter hw hs pos
    exact ⟨.named letter name, seen ++ [found], stop, rfl, by simp [Group.namesOf, hf], hr⟩
  | plain items =>
    have hw' : FlagsWritten ((items.map FlagItem.bare).map FlagItem.bare) := by rwa [FlagItem.map_bare_bare]
    obtain ⟨result, stop, hr, hread⟩ : ∃ result stop, _ ∧ Group.readHead seen ⟨pos, _ ++ follow, v⟩ = _ :=
      Group.readHead_plain hw' pos
    rw [FlagItem.map_bare_bare] at hr
    exact ⟨.plain result, seen, stop, by rw [GroupKind.bare, GroupKind.bare, hr], by simp [Group.namesOf], hread⟩

lemma names_group (s : Span) (kind : GroupKind) (body : Syntax) :
    (group s kind body).names = Group.namesOf kind ++ body.names := by
  cases kind <;> simp [names, captures, Group.namesOf]

lemma verbose_eq {a b : GroupKind} (h : a.bare = b.bare) (v : Bool) : a.verbose v = b.verbose v := by
  rw [← GroupKind.verbose_bare, h, GroupKind.verbose_bare]

lemma Written.level_behind {w : Bool} {x : Syntax} (h : Written (.level w x)) (ds : List Char) :
    Tight w (x.chars ++ ')' :: ds) ∧ (x.chars ++ ')' :: ds).head? ≠ some '?' := by
  cases h with
  | single hxs =>
    have hs : Stops (')' :: ds) := by
      rintro c ⟨⟩
      exact Or.inl rfl
    rw [chars_ofItems]
    obtain ⟨ht, hh⟩ := hxs.behind hs
    exact ⟨ht, fun hq => hh '?' hq (by decide)⟩
  | alternation hb =>
    cases hb with
    | next hxs hbs =>
      have hs : ∀ cs, Stops ('|' :: cs) := by
        rintro cs c ⟨⟩
        exact Or.inr rfl
      rw [chars, charsBetweenBars, chars_ofItems, List.append_assoc, List.cons_append]
      obtain ⟨ht, hh⟩ := hxs.behind (hs _)
      exact ⟨ht, fun hq => hh '?' hq (by decide)⟩

lemma readable_group {kind : GroupKind} {body : Syntax} (hk : kind.bare.Written)
    (hb : Written (.level (kind.verbose v) body)) (ih : Part.Readable (.level (kind.verbose v) body)) :
    Part.Readable (.item v (.group ⟨0, 0⟩ kind.bare body)) := by
  intro hl follow _ opening l seen pos hn
  rw [names_group, show Group.namesOf kind.bare = Group.namesOf kind by cases kind <;> rfl] at hn ⊢
  obtain ⟨htight, hq⟩ := hb.level_behind follow
  have hnum : kind = .numbered → Tight v (body.chars ++ ')' :: follow) := by
    rintro rfl
    exact htight
  obtain ⟨kind', seen₁, p, hkind, hseen, hhead⟩ := readHead_opened hk
    (List.Nodup.of_append_left (by rwa [← List.append_assoc] at hn)) hnum hq pos
  obtain ⟨y, seen₂, stop, w, hy, hseen₂, hr⟩ := ih (by simpa [legible] using hl) (some pos) (')' :: follow) ⟨follow, rfl⟩
    seen₁ p p (by rwa [hseen, List.append_assoc])
  refine ⟨.group ⟨pos, stop + 1⟩ kind' y, seen₂, stop + 1, by rw [bare, hkind, hy], by rw [hseen₂, hseen, List.append_assoc],
    ?_⟩
  obtain ⟨cs, hc⟩ : ∃ cs, kind.bare.chars = '(' :: cs := by
    cases kind with
    | named letter name => cases letter <;> exact ⟨_, rfl⟩
    | _ => exact ⟨_, rfl⟩
  refine Passes.step (by rw [chars, hc]; exact Nat.succ_pos _) fun k hk => ?_
  have hlen : body.chars.length < k := by
    rw [chars, hc] at hk
    simp at hk
    omega
  rw [chars, List.append_assoc, List.append_assoc, List.singleton_append]
  rw [hc] at hhead ⊢
  rw [List.cons_append, levelFrom_group, ← List.cons_append, hhead, bind_of_ok rfl, readGroup]
  dsimp only
  rw [verbose_eq hkind, hr k hlen, bind_of_ok rfl]
  rfl

lemma noBoundary_operator (kind : RepetitionKind) (cs : List Char) : Escape.NoBoundary (kind.chars ++ cs) := by
  have hd : ∀ n ds, ∃ e es, Text.decimal n ++ ds = e :: es ∧ Text.isDigit e = true := by
    intro n ds
    obtain ⟨e, es, he⟩ := List.exists_cons_of_ne_nil (Text.decimal_ne_nil n)
    exact ⟨e, es ++ ds, by rw [he]; rfl, Text.isDigit_of_mem_decimal (he ▸ List.mem_cons_self ..)⟩
  intro ds h
  cases kind with
  | exactly n =>
    simp only [RepetitionKind.chars, List.cons_append, List.append_assoc, List.cons.injEq, true_and] at h
    exact h ▸ hd n _
  | atLeast n =>
    simp only [RepetitionKind.chars, List.cons_append, List.append_assoc, List.cons.injEq, true_and] at h
    exact h ▸ hd n _
  | between m n =>
    simp only [RepetitionKind.chars, List.cons_append, List.append_assoc, List.cons.injEq, true_and] at h
    exact h ▸ hd m _
  | _ => exact absurd (List.cons.inj h).1 (by decide)

lemma operator_cons (kind : RepetitionKind) : ∃ c cs, kind.chars = c :: cs ∧ (∀ v, Solid v c) ∧ c ≠ '(' ∧ c ≠ ')' ∧
    c ≠ '|' ∧ isOperator c = true := by
  cases kind <;>
    exact ⟨_, _, rfl, fun v => solid_of_graph v rfl (by decide), by decide, by decide, by decide, by decide⟩

lemma levelFrom_operator {k : Nat} {opening : Option Nat} {l : Level} {seen : List CaptureName} {y : Syntax}
    {kind : RepetitionKind} {greedy : Bool} {follow cs : List Char} {pos stop : Nat}
    (hy : Repetition.repeatable y = true)
    (hr : Repetition.read ⟨pos, kind.chars ++ cs, v⟩ = .ok (kind, greedy, ⟨stop, follow, v⟩)) :
    levelFrom opening (k + 1) (l.push y, seen, ⟨pos, kind.chars ++ cs, v⟩) =
      levelFrom opening k
        (l.push (.repetition ⟨y.span.start, stop⟩ ⟨pos, stop⟩ kind greedy y), seen, ⟨stop, follow, v⟩) := by
  obtain ⟨c, ds, hc, hs, h1, h2, h3, h4⟩ := operator_cons kind
  rw [hc, List.cons_append] at hr ⊢
  have hskip : (⟨pos, c :: (ds ++ cs), v⟩ : Cursor).skip = ⟨pos, c :: (ds ++ cs), v⟩ := skip_of_head (hs v)
  rw [levelFrom, levelFrom, readLevel_cons (by rw [hskip]), if_neg h1, if_neg h2, if_neg h3, if_pos h4, hskip]
  have hrep : readRepetition (l.push y) ⟨pos, c :: (ds ++ cs), v⟩ =
      .ok (l.push (.repetition ⟨y.span.start, stop⟩ ⟨pos, stop⟩ kind greedy y), ⟨stop, follow, v⟩) := by
    unfold readRepetition
    simp only [Level.push, hy, Bool.not_true, Bool.false_eq_true, if_false, hr]
    rfl
  rw [hrep, bind_of_ok rfl]

lemma readable_repetition {kind : RepetitionKind} {greedy : Bool} {body : Syntax} (hr : Repetition.repeatable body = true)
    (hk : kind.Written) (ih : Part.Readable (.item v body)) :
    Part.Readable (.item v (.repetition ⟨0, 0⟩ ⟨0, 0⟩ kind greedy body)) := by
  intro hl follow hb opening l seen pos hn
  rw [legible, Bool.and_eq_true, Bool.not_eq_true', Bool.and_eq_false_iff] at hl
  have hv : body.verboseAfter v = v := by
    cases body with
    | flags s items => cases hr
    | _ => rfl
  obtain ⟨c, cs, hc, hs, -⟩ := operator_cons kind
  have hbody : Behind v body (kind.chars ++ (Repetition.lazyMark greedy ++ follow)) := by
    refine ⟨?_, fun hg => ?_, noBoundary_operator kind _⟩
    · rw [hv, hc]
      exact tight_cons.mpr (hs v)
    · rcases hl.2 with h | h
      · cases kind with
        | zeroOrOne => cases h
        | _ => exact fun hq => absurd (Option.some.inj hq) (by decide)
      · rw [hg] at h
        cases h
  obtain ⟨y, seen', p, hy, hseen, hpass⟩ := ih hl.1 _ hbody opening l seen pos hn
  obtain ⟨stop, hread⟩ := Repetition.read_chars (v := v) hk hb.tight hb.mark p
  have hrep : Repetition.repeatable y = true := by rw [← Repetition.repeatable_bare, hy, hr]
  rw [hv] at hpass
  refine ⟨.repetition ⟨y.span.start, stop⟩ ⟨p, stop⟩ kind greedy y, seen', stop, by rw [bare, hy], hseen, ?_⟩
  have hop : Passes (levelFrom opening) (kind.chars ++ Repetition.lazyMark greedy).length
      (l.push y, seen', ⟨p, kind.chars ++ (Repetition.lazyMark greedy ++ follow), v⟩)
      (l.push (.repetition ⟨y.span.start, stop⟩ ⟨p, stop⟩ kind greedy y), seen', ⟨stop, follow, v⟩) :=
    Passes.step (by rw [hc]; exact Nat.succ_pos _) fun k _ => levelFrom_operator hrep hread
  have hchars : (repetition ⟨0, 0⟩ ⟨0, 0⟩ kind greedy body).chars =
      body.chars ++ (kind.chars ++ Repetition.lazyMark greedy) := by
    rw [chars, List.append_assoc]
    rfl
  rw [hchars, List.length_append, List.append_assoc, List.append_assoc]
  exact hpass.trans hop

lemma levelFrom_end {opening : Option Nat} {cs : List Char} (h : Ends opening cs) (l : Level) (seen : List CaptureName)
    (pos : Nat) : ∀ k, 0 < k → levelFrom opening k (l, seen, ⟨pos, cs, v⟩) = .ok (l.toSyntax pos, seen, ⟨pos, cs, v⟩) := by
  intro k hk
  obtain ⟨j, rfl⟩ : ∃ j, k = j + 1 := ⟨k - 1, by omega⟩
  have hskip : (⟨pos, cs, v⟩ : Cursor).skip = ⟨pos, cs, v⟩ := Cursor.skip_of_tight h.stops.tight
  cases opening with
  | none =>
    obtain rfl : cs = [] := h
    rw [levelFrom, readLevel_nil (by rw [hskip]), hskip]
  | some start =>
    obtain ⟨ds, rfl⟩ := h
    rw [levelFrom, readLevel_cons (by rw [hskip]), if_neg (by decide), if_pos rfl, hskip]

lemma passes_bar (opening : Option Nat) (l : Level) (seen : List CaptureName) (pos : Nat) (cs : List Char) :
    Passes (levelFrom opening) 1 (l, seen, ⟨pos, '|' :: cs, v⟩) (l.split pos, seen, ⟨pos + 1, cs, v⟩) := by
  refine Passes.step (Nat.le_refl 1) fun k _ => ?_
  have hskip : (⟨pos, '|' :: cs, v⟩ : Cursor).skip = ⟨pos, '|' :: cs, v⟩ := skip_of_head (solid_of_graph v rfl (by decide))
  rw [levelFrom, levelFrom, readLevel_cons (by rw [hskip]), if_neg (by decide), if_neg (by decide), if_pos rfl, hskip]
  rfl

lemma readable_cons {w : Bool} {x : Syntax} {xs : List Syntax} (hxs : Written (.items (x.verboseAfter v) xs w))
    (ihx : Part.Readable (.item v x)) (ihxs : Part.Readable (.items (x.verboseAfter v) xs w)) :
    Part.Readable (.items v (x :: xs) w) := by
  intro hl follow hf opening l seen pos bs ys hh hn
  rw [legibleAll, Bool.and_eq_true] at hl
  rw [namesOfAll_cons] at hn ⊢
  obtain ⟨ht, hhead⟩ := hxs.behind hf
  obtain ⟨y, seen₁, p, hy, hseen, hr⟩ := ihx hl.1 _ (Behind.of_head ht hhead) opening l seen pos
    (List.Nodup.of_append_left (by rwa [← List.append_assoc] at hn))
  obtain ⟨l', seen₂, stop, hl', hseen₂, hr'⟩ := ihxs hl.2 follow hf opening (l.push y) seen₁ p bs _ (hh.push hy)
    (by rwa [hseen, List.append_assoc])
  refine ⟨l', seen₂, stop, by simpa using hl', by rw [hseen₂, hseen, List.append_assoc], ?_⟩
  rw [charsOfAll, List.length_append, List.append_assoc]
  exact hr.trans hr'

lemma readable_last {w : Bool} {xs : List Syntax} (ih : Part.Readable (.items v xs w)) :
    Part.Readable (.branches v [.ofItems ⟨0, 0⟩ xs] w) := by
  intro hl follow hf opening l seen pos as hh hn
  rw [legibleAll, legible_ofItems, Bool.and_eq_true] at hl
  have hnames : namesOfAll [ofItems ⟨0, 0⟩ xs] = namesOfAll xs := by
    rw [namesOfAll_cons, names_ofItems]
    exact List.append_nil _
  rw [hnames] at hn ⊢
  obtain ⟨l', seen', stop, hl', hseen, hr⟩ := ih hl.1 follow hf opening l seen pos as [] hh hn
  refine ⟨l', seen', stop, as, xs, hl', rfl, hseen, ?_⟩
  rw [charsBetweenBars, chars_ofItems]
  exact hr

lemma readable_next {w u : Bool} {xs bs : List Syntax} (hbs : Written (.branches w bs u))
    (ih : Part.Readable (.items v xs w)) (ihbs : Part.Readable (.branches w bs u)) :
    Part.Readable (.branches v (.ofItems ⟨0, 0⟩ xs :: bs) u) := by
  intro hl follow hf opening l seen pos as hh hn
  rw [legibleAll, legible_ofItems, Bool.and_eq_true] at hl
  rw [namesOfAll_cons, names_ofItems] at hn ⊢
  have hchars : charsBetweenBars (ofItems ⟨0, 0⟩ xs :: bs) = charsOfAll xs ++ '|' :: charsBetweenBars bs := by
    obtain ⟨b, rest, rfl⟩ : ∃ b rest, bs = b :: rest := by cases hbs <;> exact ⟨_, _, rfl⟩
    rw [charsBetweenBars, chars_ofItems]
  obtain ⟨l₁, seen₁, p, hl₁, hseen₁, hr₁⟩ := ih hl.1 ('|' :: (charsBetweenBars bs ++ follow))
    (by rintro c ⟨⟩; exact Or.inr rfl) opening l seen pos as [] hh
    (List.Nodup.of_append_left (by rwa [← List.append_assoc] at hn))
  obtain ⟨l₂, seen₂, stop, cs, ys, hl₂, hcs, hseen₂, hr₂⟩ := ihbs hl.2 follow hf opening (l₁.split p) seen₁ (p + 1) _
    (hl₁.split p) (by rwa [hseen₁, List.append_assoc])
  refine ⟨l₂, seen₂, stop, cs, ys, hl₂, by simpa using hcs, by rw [hseen₂, hseen₁, List.append_assoc], ?_⟩
  have hr := (hr₁.trans (passes_bar opening l₁ seen₁ p (charsBetweenBars bs ++ follow))).trans hr₂
  rw [hchars, List.append_assoc, List.cons_append]
  exact hr.of_eq (by simp; omega)

lemma readable_single {w : Bool} {xs : List Syntax} (ih : Part.Readable (.items v xs w)) :
    Part.Readable (.level v (.ofItems ⟨0, 0⟩ xs)) := by
  intro hl opening follow hf seen start pos hn
  rw [legible_ofItems] at hl
  rw [names_ofItems] at hn ⊢
  obtain ⟨l, seen', stop, hh, hseen, hr⟩ := ih hl follow hf.stops opening _ seen pos [] [] (Level.holds_startingAt start) hn
  refine ⟨l.toSyntax stop, seen', stop, w, hh.toSyntax_single stop, hseen, fun k hk => ?_⟩
  rw [chars_ofItems] at hk ⊢
  exact hr.finish (levelFrom_end hf l seen' stop) hk

lemma readable_alternation {w : Bool} {a b : Syntax} {bs : List Syntax} (ih : Part.Readable (.branches v (a :: b :: bs) w)) :
    Part.Readable (.level v (.alternation ⟨0, 0⟩ (a :: b :: bs))) := by
  intro hl opening follow hf seen start pos hn
  obtain ⟨l, seen', stop, cs, ys, hh, hcs, hseen, hr⟩ := ih (by simpa [legible] using hl) follow hf.stops opening _ seen pos
    [] (Level.holds_startingAt start) hn
  have hne : cs ≠ [] := by
    rintro rfl
    have := congrArg List.length hcs
    simp at this
  refine ⟨l.toSyntax stop, seen', stop, w, by rw [hh.toSyntax_alternation hne, hcs]; rfl, hseen, fun k hk => ?_⟩
  rw [chars] at hk ⊢
  exact hr.finish (levelFrom_end hf l seen' stop) hk

/-- The text of every part that is written and legible is read back. -/
theorem Written.readable {p : Part} (h : Written p) : Part.Readable p := by
  induction h with
  | escaped hl => exact readable_literal (Or.inl hl)
  | verbatim hl => exact readable_literal (Or.inr hl)
  | dot v =>
    exact readable_primitive rfl (solid_of_graph v rfl (by decide)) (by decide) (by decide) rfl rfl
      fun _ follow hb pos => ⟨.dot ⟨pos, pos + 1⟩, pos + 1, rfl, rfl⟩
  | assertion v kind => exact readable_assertion kind
  | @unicode v u hu =>
    refine readable_primitive rfl (solid_of_graph v rfl (by decide)) (by decide) (by decide) rfl rfl
      fun _ follow hb pos => ?_
    obtain ⟨w, stop, hw, hr⟩ := Escape.read_unicode hu hb.tight pos
    exact ⟨.unicode w, stop, by rw [bare, hw], hr⟩
  | perl v p =>
    obtain ⟨c, hc⟩ := p.chars_cons
    refine readable_primitive (x := .perl p.bare) hc (solid_of_graph v rfl (by decide)) (by decide) (by decide) rfl rfl
      fun _ follow hb pos => ?_
    obtain ⟨q, stop, hq, hr⟩ := Escape.read_perl p pos
    exact ⟨.perl q, stop, by rw [bare, hq], hr⟩
  | bracketed hi => exact readable_bracketed hi
  | flags hn hf => exact readable_flags hn hf
  | repetition hb hr hk ih => exact readable_repetition hr hk ih
  | group hk hb ih => exact readable_group hk hb ih
  | nil v =>
    intro _ follow _ opening l seen pos bs ys hl _
    exact ⟨l, seen, pos, by simpa using hl, by simp [namesOfAll, capturesOfAll], Passes.refl _⟩
  | cons _ hxs ihx ihxs => exact readable_cons hxs ihx ihxs
  | last _ ih => exact readable_last ih
  | next _ hbs ih ihbs => exact readable_next hbs ih ihbs
  | single _ ih => exact readable_single ih
  | alternation _ ih => exact readable_alternation ih

end Syntax

mutual

lemma ClassSet.chars_bare : ∀ s : ClassSet, s.bare.chars = s.chars
  | .empty _ => rfl
  | .literal _ => rfl
  | .range _ _ _ => rfl
  | .ascii _ _ _ => rfl
  | .unicode _ => rfl
  | .perl _ => rfl
  | .bracketed _ _ inner => by rw [ClassSet.bare, ClassSet.chars, ClassSet.chars, ClassSet.chars_bare inner]
  | .union _ items => ClassSet.charsOfAll_bare items
  | .operation _ _ left right => by
    rw [ClassSet.bare, ClassSet.chars, ClassSet.chars, ClassSet.chars_bare left, ClassSet.chars_bare right]

lemma ClassSet.charsOfAll_bare : ∀ xs : List ClassSet,
    ClassSet.charsOfAll (ClassSet.bareAll xs) = ClassSet.charsOfAll xs
  | [] => rfl
  | x :: xs => by
    rw [ClassSet.bareAll, ClassSet.charsOfAll, ClassSet.charsOfAll, ClassSet.chars_bare x, ClassSet.charsOfAll_bare xs]

end

lemma map_char_bare (items : List FlagItem) : (items.map FlagItem.bare).map FlagItem.char = items.map FlagItem.char := by
  rw [List.map_map]
  congr 1
  funext item
  cases item <;> rfl

lemma GroupKind.chars_bare (kind : GroupKind) : kind.bare.chars = kind.chars := by
  cases kind with
  | plain items => rw [GroupKind.bare, GroupKind.chars, GroupKind.chars, map_char_bare]
  | _ => rfl

mutual

lemma Syntax.chars_bare : ∀ s : Syntax, s.bare.chars = s.chars
  | .empty _ => rfl
  | .flags _ items => by rw [Syntax.bare, Syntax.chars, Syntax.chars, map_char_bare]
  | .literal _ => rfl
  | .dot _ => rfl
  | .assertion _ _ => rfl
  | .unicode _ => rfl
  | .perl _ => rfl
  | .bracketed _ _ inner => by rw [Syntax.bare, Syntax.chars, Syntax.chars, ClassSet.chars_bare]
  | .repetition _ _ _ _ body => by rw [Syntax.bare, Syntax.chars, Syntax.chars, Syntax.chars_bare body]
  | .group _ _ body => by rw [Syntax.bare, Syntax.chars, Syntax.chars, GroupKind.chars_bare, Syntax.chars_bare body]
  | .alternation _ branches => Syntax.charsBetweenBars_bare branches
  | .concat _ items => Syntax.charsOfAll_bare items

lemma Syntax.charsOfAll_bare : ∀ xs : List Syntax, Syntax.charsOfAll (Syntax.bareAll xs) = Syntax.charsOfAll xs
  | [] => rfl
  | x :: xs => by
    rw [Syntax.bareAll, Syntax.charsOfAll, Syntax.charsOfAll, Syntax.chars_bare x, Syntax.charsOfAll_bare xs]

lemma Syntax.charsBetweenBars_bare : ∀ xs : List Syntax,
    Syntax.charsBetweenBars (Syntax.bareAll xs) = Syntax.charsBetweenBars xs
  | [] => rfl
  | [x] => Syntax.chars_bare x
  | x :: y :: rest => by
    have h := Syntax.charsBetweenBars_bare (y :: rest)
    simp only [Syntax.bareAll, Syntax.charsBetweenBars] at h ⊢
    rw [Syntax.chars_bare x, h]

end

namespace ClassSet

lemma isVerbatim_bare (c : Char) (s : ClassSet) : s.bare.isVerbatim c = s.isVerbatim c := by
  cases s <;> rfl

lemma isParted_bare (s : ClassSet) (behind : List Char) : s.bare.isParted behind = s.isParted behind := by
  cases s with
  | bracketed span negated inner =>
    exact congrArg (fun cs => !isSpelledNamed cs) (ClassSet.chars_bare (.bracketed span negated inner))
  | _ => rfl

lemma isClear_bare (s : ClassSet) (behind : List Char) : s.bare.isClear behind = s.isClear behind := by
  rw [isClear, isClear, chars_bare, isParted_bare]

mutual

lemma legible_bare : ∀ (b : Bool) (behind : List Char) (s : ClassSet), s.bare.legible b behind = s.legible b behind
  | _, _, .empty _ => rfl
  | _, _, .literal _ => rfl
  | _, _, .range _ _ _ => rfl
  | _, _, .ascii _ _ _ => rfl
  | _, _, .unicode _ => rfl
  | _, _, .perl _ => rfl
  | _, behind, .bracketed span negated inner => by
    have h := isClear_bare (.bracketed span negated inner) behind
    rw [bare] at h
    rw [bare, legible, legible, legible_bare true [']'] inner, h]
  | b, behind, .union _ items => by rw [bare, legible, legible, legibleAll_bare b behind items]
  | b, behind, .operation _ o left right => by
    rw [bare, legible, legible, legible_bare _ _ left, legible_bare _ _ right, chars_bare]

lemma legibleAll_bare : ∀ (b : Bool) (behind : List Char) (xs : List ClassSet),
    legibleAll b behind (bareAll xs) = legibleAll b behind xs
  | _, _, [] => rfl
  | b, behind, x :: xs => by
    rw [bareAll, legibleAll, legibleAll, legible_bare _ _ x, legibleAll_bare _ _ xs, charsOfAll_bare, isVerbatim_bare]

end

end ClassSet

namespace Syntax

lemma isGreedy_bare (s : Syntax) : s.bare.isGreedy = s.isGreedy := by
  cases s <;> rfl

mutual

lemma legible_bare : ∀ s : Syntax, s.bare.legible = s.legible
  | .empty _ => rfl
  | .flags _ _ => rfl
  | .literal _ => rfl
  | .dot _ => rfl
  | .assertion _ _ => rfl
  | .unicode _ => rfl
  | .perl _ => rfl
  | .bracketed _ _ inner => by rw [bare, legible, legible, ClassSet.legible_bare]
  | .repetition _ _ _ _ body => by rw [bare, legible, legible, legible_bare body, isGreedy_bare]
  | .group _ _ body => by rw [bare, legible, legible, legible_bare body]
  | .alternation _ branches => by rw [bare, legible, legible, legibleAll_bare branches]
  | .concat _ items => by rw [bare, legible, legible, legibleAll_bare items]

lemma legibleAll_bare : ∀ xs : List Syntax, legibleAll (bareAll xs) = legibleAll xs
  | [] => rfl
  | x :: xs => by rw [bareAll, legibleAll, legibleAll, legible_bare x, legibleAll_bare xs]

end

end Syntax

/-- A printed expression is read back, unless it nests too deep. -/
theorem read_chars {x : Syntax} (h : Syntax.Written (.level false x.bare)) (hl : x.legible = true)
    (hn : x.names.Nodup) : ∃ y, y.bare = x.bare ∧ read x.chars = match y.tooDeep? nestLimit with
      | some span => .error ⟨.nestLimitExceeded, span, none⟩
      | none => .ok y := by
  have hn' : (([] : List CaptureName).map (·.name) ++ x.bare.names).Nodup := by
    simpa [Syntax.names, Syntax.captures_bare] using hn
  obtain ⟨y, seen, stop, w, hy, -, hr⟩ := h.readable (by rwa [Syntax.legible_bare]) none [] rfl [] 0 0 hn'
  refine ⟨y, hy, ?_⟩
  have hr := hr (x.chars.length + 1) (by rw [Syntax.chars_bare]; omega)
  rw [List.append_nil, Syntax.chars_bare] at hr
  unfold read
  rw [hr]
  simp only [Bind.bind, Except.bind]
  cases y.tooDeep? nestLimit <;> rfl

end TypedPattern.Regex
