import TypedPattern.Proofs.Printing.Escape

/-! Printed classes are read back. -/

namespace TypedPattern.Regex

namespace Literal

variable {l : Literal} {v : Bool} {but : List Char}

lemma Escaped.chars (h : l.Escaped) : ∃ cs, l.chars = '\\' :: cs := by
  obtain ⟨span, form, c⟩ := l
  cases form with
  | verbatim => cases h
  | _ => exact ⟨_, rfl⟩

lemma Verbatim.chars (h : l.Verbatim v but) : l.chars = [l.char] := by
  obtain ⟨span, form, c⟩ := l
  obtain ⟨rfl, -, -⟩ := h
  rfl

lemma chars_bare (l : Literal) : l.bare.chars = l.chars :=
  rfl

lemma chars_cons (h : l.Escaped ∨ l.Verbatim v but) :
    ∃ c cs, l.chars = c :: cs ∧ Solid v c ∧ (c = '\\' ∨ c ∉ but ∧ l.form = .verbatim ∧ c = l.char ∧ cs = []) := by
  rcases h with h | h
  · obtain ⟨cs, hc⟩ := h.chars
    exact ⟨'\\', cs, hc, solid_of_graph v rfl (by decide), Or.inl rfl⟩
  · exact ⟨l.char, [], h.chars, h.2.2, Or.inr ⟨h.2.1, h.1, rfl, rfl⟩⟩

end Literal

lemma PerlClass.chars_cons (p : PerlClass) : ∃ c, p.chars = ['\\', c] := by
  obtain ⟨span, kind, negated⟩ := p
  cases kind <;> cases negated <;> exact ⟨_, rfl⟩

namespace Bracket

variable {v : Bool} {follow : List Char}

lemma readItem_literal {l : Literal} {but : List Char} (hb : '\\' ∈ but) (h : l.Escaped ∨ l.Verbatim v but)
    (hf : Tight v follow) (pos : Nat) : ∃ m stop,
      m.bare = l.bare ∧ readItem ⟨pos, l.chars ++ follow, v⟩ = .ok (.literal m, ⟨stop, follow, v⟩) := by
  rcases h with h | h
  · obtain ⟨m, stop, hm, hr⟩ := Escape.read_literal h hf pos
    obtain ⟨cs, hc⟩ := h.chars
    refine ⟨m, stop, hm, ?_⟩
    rw [hc] at hr ⊢
    exact hr
  · obtain ⟨span, form, c⟩ := l
    obtain ⟨rfl, hn, -⟩ := h
    have hc : c ≠ '\\' := by
      rintro rfl
      exact hn hb
    refine ⟨⟨⟨pos, pos + 1⟩, .verbatim, c⟩, pos + 1, rfl, ?_⟩
    change (if c = '\\' then _ else _) = _
    rw [if_neg hc]
    rfl

lemma operator?_of_not_doubled {cs : List Char} (h : ClassSet.startsDoubled cs = false) (pos : Nat) :
    operator? ⟨pos, cs, v⟩ = none := by
  match cs with
  | [] => rfl
  | [x] => exact operator?_single rfl
  | x :: y :: r =>
    rw [operator?_pair rfl]
    split
    · rename_i hxy
      rw [ClassSet.startsDoubled, beq_iff_eq.mpr hxy, Bool.true_and] at h
      simpa using h
    · rfl

lemma operator?_chars (o : SetOperator) (pos : Nat) : operator? ⟨pos, o.chars ++ follow, v⟩ = some o := by
  cases o <;> rfl

lemma after?_eq_some {c d : Cursor} {text : List Char} (h : c.after? text = some d) :
    c.rest = text ++ d.rest ∧ d.verbose = c.verbose := by
  unfold Cursor.after? at h
  split at h
  · rename_i hp
    cases h
    obtain ⟨t, ht⟩ := List.isPrefixOf_iff_prefix.mp hp
    rw [← ht]
    simp
  · cases h

lemma ofName?_eq_some {cs : List Char} {kind : AsciiKind} (h : AsciiKind.ofName? cs = some kind) :
    kind.name.toList = cs := by
  have hk := List.find?_some h
  exact beq_iff_eq.mp hk

lemma readAscii?_eq_some {c d : Cursor} {item : ClassSet} (h : readAscii? c = some (item, d)) :
    ∃ kind negated, item = .ascii ⟨c.pos, d.pos⟩ kind negated ∧ d.verbose = c.verbose ∧
      c.rest = (ClassSet.ascii ⟨0, 0⟩ kind negated).chars ++ d.rest := by
  rw [readAscii?_eq] at h
  obtain ⟨i, hi, h⟩ := Option.bind_eq_some_iff.mp h
  obtain ⟨done, hd, h⟩ := Option.bind_eq_some_iff.mp h
  obtain ⟨kind, hk, h⟩ := Option.map_eq_some_iff.mp h
  cases h
  obtain ⟨hc, hv⟩ := after?_eq_some hi
  obtain ⟨hn, hv'⟩ := after?_eq_some hd
  refine ⟨kind, i.at? '^', rfl, ?_, ?_⟩
  · rw [hv', ← hv]
    change Cursor.verbose (if i.at? '^' then i.bump else i) = _
    split <;> simp
  · have hname := ofName?_eq_some hk
    have hj : (if i.at? '^' then i.bump else i).rest = kind.name.toList ++ ':' :: ']' :: d.rest := by
      have hd : ':' :: ']' :: d.rest = (pastName (if i.at? '^' then i.bump else i)).rest := hn.symm
      rw [hname, hd]
      exact List.takeWhile_append_dropWhile.symm
    have hi' : i.rest = (if i.at? '^' then ['^'] else []) ++ (if i.at? '^' then i.bump else i).rest := by
      by_cases hcaret : i.at? '^' = true
      · rw [if_pos hcaret, if_pos hcaret, Cursor.rest_bump]
        rw [Cursor.at?, beq_iff_eq] at hcaret
        exact (List.cons_head?_tail hcaret).symm
      · rw [if_neg hcaret, if_neg hcaret]
        rfl
    rw [hc, hi', hj]
    simp [ClassSet.chars]

/-- What ends at its only mark stands in front if some mark does. -/
lemma prefix_of_append_eq {α : Type} {a r cs ds : List α} {x : α} (h : a ++ [x] ++ r = cs ++ ds) (ha : x ∉ a)
    (hc : x ∈ cs) : a ++ [x] <+: cs := by
  rcases List.append_eq_append_iff.mp h with ⟨t, ht, -⟩ | ⟨t, ht, -⟩
  · exact ⟨t, ht.symm⟩
  · rcases List.eq_nil_or_concat t with rfl | ⟨u, y, rfl⟩
    · rw [List.append_nil] at ht
      exact ht ▸ List.prefix_refl _
    · rw [List.concat_eq_append, ← List.append_assoc] at ht
      obtain ⟨hu, -⟩ := List.append_inj' ht rfl
      exact absurd (hu ▸ List.mem_append_left u hc) ha

lemma readAscii?_chars (kind : AsciiKind) (negated : Bool) (pos : Nat) : ∃ sp stop,
    readAscii? ⟨pos, (ClassSet.ascii ⟨0, 0⟩ kind negated).chars ++ follow, v⟩ =
      some (.ascii sp kind negated, ⟨stop, follow, v⟩) := by
  cases kind <;> cases negated <;> exact ⟨_, _, rfl⟩

lemma readAscii?_eq_none {cs : List Char} (h : ClassSet.isSpelledNamed cs = false) (hc : ']' ∈ cs) (pos : Nat) :
    readAscii? ⟨pos, cs ++ follow, v⟩ = none := by
  by_contra hn
  obtain ⟨⟨item, d⟩, hr⟩ := Option.ne_none_iff_exists'.mp hn
  obtain ⟨kind, negated, -, -, he⟩ := readAscii?_eq_some hr
  have hname : ']' ∉ '[' :: ':' :: (if negated then ['^'] else []) ++ kind.name.toList ++ [':'] := by
    cases kind <;> cases negated <;> decide
  have hchars : (ClassSet.ascii ⟨0, 0⟩ kind negated).chars =
      '[' :: ':' :: (if negated then ['^'] else []) ++ kind.name.toList ++ [':'] ++ [']'] := by
    simp [ClassSet.chars]
  have hp : (ClassSet.ascii ⟨0, 0⟩ kind negated).chars <+: cs := by
    rw [hchars] at he ⊢
    exact prefix_of_append_eq he.symm hname hc
  have hall : kind ∈ AsciiKind.all := by cases kind <;> decide
  rw [← Bool.not_eq_true] at h
  apply h
  refine List.any_eq_true.mpr ⟨kind, hall, ?_⟩
  cases negated
  · rw [List.isPrefixOf_iff_prefix.mpr hp, Bool.true_or]
  · rw [List.isPrefixOf_iff_prefix.mpr hp, Bool.or_true]

/-- Text behind an item whose hyphen, if it begins with one, makes no range. -/
structure Parted (cs : List Char) : Prop where
  more : cs ≠ []
  hyphen : ∀ r, cs = '-' :: r → ∃ d ds, r = d :: ds ∧ (d = ']' ∨ d = '-')

lemma Parted.of_joins {b : List Char} (h : ClassSet.joins (b ++ [']']) = false) : Parted (b ++ ']' :: follow) := by
  refine ⟨by simp, fun r hr => ?_⟩
  match b with
  | [] => simp at hr
  | [c] =>
    obtain ⟨rfl, rfl⟩ := List.cons.inj hr
    exact ⟨']', follow, rfl, Or.inl rfl⟩
  | c :: d :: ds =>
    obtain ⟨rfl, rfl⟩ := List.cons.inj hr
    refine ⟨d, ds ++ ']' :: follow, rfl, ?_⟩
    simp only [List.cons_append, ClassSet.joins, Bool.and_eq_false_iff, bne_eq_false_iff_eq] at h
    exact h

lemma skip_mark {c : Char} (h : asciiGraph.contains c = true) (hc : c ≠ '#') (r : List Char) (pos : Nat) :
    (⟨pos, c :: r, v⟩ : Cursor).skip = ⟨pos, c :: r, v⟩ :=
  Cursor.skip_of_tight (tight_cons.mpr (solid_of_graph v h hc))

lemma peekPast_cons {x d : Char} {r : List Char} {pos : Nat} (h : Solid v d) :
    (⟨pos, x :: d :: r, v⟩ : Cursor).peekPast = some d := by
  unfold Cursor.peekPast
  split
  · rename_i hv
    obtain ⟨hw, hh⟩ := h hv
    simp [Cursor.firstPast, hw, hh]
  · rfl

variable {opening : Opening} {cs : List Char} {pos stop : Nat}

lemma readRange_single {s : Syntax} {x : ClassSet} (hr : readItem ⟨pos, cs, v⟩ = .ok (s, ⟨stop, follow, v⟩))
    (hs : itemSet s = .ok x) (hf : Tight v follow) (hp : Parted follow) :
    readRange opening ⟨pos, cs, v⟩ = .ok (x, ⟨stop, follow, v⟩) := by
  unfold readRange
  rw [hr]
  obtain ⟨c, r, rfl⟩ := List.exists_cons_of_ne_nil hp.more
  have hcond : (!(⟨stop, c :: r, v⟩ : Cursor).at? '-' || (⟨stop, c :: r, v⟩ : Cursor).peekPast == some ']' ||
      (⟨stop, c :: r, v⟩ : Cursor).peekPast == some '-') = true := by
    by_cases hc : c = '-'
    · subst hc
      obtain ⟨d, ds, rfl, hd⟩ := hp.hyphen r rfl
      have hsolid : Solid v d := by
        rcases hd with rfl | rfl <;> exact solid_of_graph v rfl (by decide)
      rw [peekPast_cons hsolid]
      rcases hd with rfl | rfl <;> simp
    · simp [hc]
  simp only [Bind.bind, Except.bind, Cursor.skip_of_tight hf, Cursor.atEnd_cons, Bool.false_eq_true, if_false, hcond,
    if_true, hs]

lemma readRange_range {first last : Literal} (hf : first.Escaped ∨ first.Verbatim v ['\\', '[', ']'])
    (hl : last.Escaped ∨ last.Verbatim v ['\\']) (hle : first.char ≤ last.char)
    (hb : (last.form != .verbatim || (last.char != ']' && last.char != '-')) = true) (ht : Tight v follow) (pos : Nat) :
    ∃ x stop, x.bare = .range ⟨0, 0⟩ first.bare last.bare ∧
      readRange opening ⟨pos, first.chars ++ '-' :: (last.chars ++ follow), v⟩ = .ok (x, ⟨stop, follow, v⟩) := by
  have hhyphen : Tight v ('-' :: (last.chars ++ follow)) := tight_cons.mpr (solid_of_graph v rfl (by decide))
  obtain ⟨m, p, hm, hr⟩ := readItem_literal (by decide) hf hhyphen pos
  obtain ⟨n, q, hn, hr'⟩ := readItem_literal (by decide) hl ht (p + 1)
  obtain ⟨c, cs, hc, hs, hne⟩ := Literal.chars_cons hl
  have hlast : Tight v (last.chars ++ follow) := by
    rw [hc]
    exact tight_cons.mpr hs
  have hsign : (some c == some ']' || some c == some '-') = false := by
    rcases hne with rfl | ⟨-, hv, rfl, -⟩
    · decide
    · simpa [hv] using hb
  have hlo : m.bare.char = first.bare.char := congrArg Literal.char hm
  have hhi : n.bare.char = last.bare.char := congrArg Literal.char hn
  change m.char = first.char at hlo
  change n.char = last.char at hhi
  refine ⟨.range ⟨m.span.start, n.span.stop⟩ m n, q, by rw [ClassSet.bare, hm, hn], ?_⟩
  have hpeek : (⟨p, '-' :: (last.chars ++ follow), v⟩ : Cursor).peekPast = some c := by
    rw [hc]
    exact peekPast_cons hs
  have hend : (⟨p + 1, last.chars ++ follow, v⟩ : Cursor).atEnd = false := by
    rw [hc]
    rfl
  unfold readRange
  rw [hr]
  simp only [Bind.bind, Except.bind, Cursor.skip_of_tight hhyphen, Cursor.atEnd_cons, Cursor.at?_cons, beq_self_eq_true,
    Bool.not_true, Bool.false_or, hpeek, hsign, Bool.false_eq_true, if_false, Cursor.bumpSkip_cons hlast, hend, hr',
    itemLiteral, hlo, hhi, hle, if_true]
  rfl

def restFrom (opening : Opening) (k : Nat) : Pending × Union × Cursor → Except Error (ClassSet × Cursor)
  | (pending, u, c) => readRest k opening pending u c

variable {pending : Pending} {u : Union}

lemma passes_range {x : ClassSet} {n : Nat} (hn : 1 ≤ n) (ht : Tight v cs)
    (hc : ∃ c r, cs = c :: r ∧ c ≠ ']' ∧ c ≠ '[') (ho : ClassSet.startsDoubled cs = false)
    (hr : readRange opening ⟨pos, cs, v⟩ = .ok (x, ⟨stop, follow, v⟩)) :
    Passes (restFrom opening) n (pending, u, ⟨pos, cs, v⟩) (pending, u.push x, ⟨stop, follow, v⟩) := by
  obtain ⟨c, r, rfl, hclose, hopen⟩ := hc
  refine Passes.step hn fun k _ => ?_
  have hs : (⟨pos, c :: r, v⟩ : Cursor).skip = ⟨pos, c :: r, v⟩ := Cursor.skip_of_tight ht
  rw [restFrom, restFrom, readRest_cons (by rw [hs]), if_neg hclose, if_neg hopen, hs, operator?_of_not_doubled ho]
  dsimp only
  rw [hr]
  rfl

lemma passes_ascii {x : ClassSet} {n : Nat} {r : List Char} (hn : 1 ≤ n)
    (hr : readAscii? ⟨pos, '[' :: r, v⟩ = some (x, ⟨stop, follow, v⟩)) :
    Passes (restFrom opening) n (pending, u, ⟨pos, '[' :: r, v⟩) (pending, u.push x, ⟨stop, follow, v⟩) := by
  refine Passes.step hn fun k _ => ?_
  have hs : (⟨pos, '[' :: r, v⟩ : Cursor).skip = ⟨pos, '[' :: r, v⟩ := skip_mark rfl (by decide) r pos
  rw [restFrom, restFrom, readRest_cons (by rw [hs]), if_neg (by decide), if_pos rfl, hs, hr]

lemma passes_operator (o : SetOperator) (pos : Nat) : Passes (restFrom opening) 2
    (pending, u, ⟨pos, o.chars ++ follow, v⟩)
    (some (o, close pending u.toSet), Union.startingAt (pos + 2), ⟨pos + 2, follow, v⟩) := by
  have hs : (⟨pos, o.chars ++ follow, v⟩ : Cursor).skip = ⟨pos, o.chars ++ follow, v⟩ := by
    cases o <;> exact skip_mark rfl (by decide) _ pos
  refine Passes.step (by omega) fun k _ => ?_
  rw [restFrom, restFrom]
  have ho : operator? ⟨pos, o.chars ++ follow, v⟩ = some o := operator?_chars o pos
  cases o <;> rw [readRest_cons (by rw [hs]; rfl), if_neg (by decide), if_neg (by decide), hs, ho] <;> rfl

/-- The items that a union holds, from left to right and without their places. -/
def Union.Holds (u : Union) (xs : List ClassSet) : Prop :=
  u.items.map ClassSet.bare = xs.reverse

lemma holds_startingAt (pos : Nat) : (Union.startingAt pos).Holds [] :=
  rfl

lemma Union.Holds.push {xs : List ClassSet} (h : u.Holds xs) {x y : ClassSet} (hy : y.bare = x) :
    (u.push y).Holds (xs ++ [x]) := by
  have h : u.items.map ClassSet.bare = xs.reverse := h
  change (y :: u.items).map ClassSet.bare = _
  rw [List.map_cons, h, hy, List.reverse_append]
  rfl

lemma Union.Holds.toSet {xs : List ClassSet} (h : u.Holds xs) : u.toSet.bare = ClassSet.ofItems xs := by
  have h : u.items.reverse.map ClassSet.bare = xs := by
    rw [List.map_reverse, h, List.reverse_reverse]
  unfold Union.toSet
  match hu : u.items with
  | [] =>
    rw [← h, hu]
    rfl
  | [x] =>
    rw [← h, hu]
    rfl
  | x :: y :: zs =>
    rw [← h, hu]
    dsimp only
    rw [ClassSet.bare, ClassSet.bareAll_eq_map]
    obtain ⟨a, b, r, hr⟩ : ∃ a b r, (x :: y :: zs).reverse = a :: b :: r := by
      match hz : (x :: y :: zs).reverse with
      | [] => simp at hz
      | [a] =>
        have := congrArg List.length hz
        simp at this
      | a :: b :: r => exact ⟨a, b, r, rfl⟩
    rw [hr]
    rfl

lemma leadingHyphens_replicate (start : Nat) {n k : Nat} (hk : n ≤ k) (hh : follow.head? ≠ some '-')
    (hn : follow ≠ []) (ht : Tight v follow) {xs : List ClassSet} (hu : u.Holds xs) (pos : Nat) : ∃ w,
      w.Holds (xs ++ List.replicate n .hyphen) ∧
        leadingHyphens start k u ⟨pos, List.replicate n '-' ++ follow, v⟩ = .ok (w, ⟨pos + n, follow, v⟩) := by
  induction n generalizing u xs k pos with
  | zero =>
    refine ⟨u, by simpa using hu, ?_⟩
    cases k with
    | zero => rfl
    | succ k =>
      rw [leadingHyphens, List.replicate_zero, List.nil_append, Cursor.at?_eq_false hh]
      rfl
  | succ n ih =>
    obtain ⟨j, rfl⟩ : ∃ j, k = j + 1 := ⟨k - 1, by omega⟩
    have ht' : Tight v (List.replicate n '-' ++ follow) := by
      refine tight_append (fun c hc => ?_) ht
      rw [List.eq_of_mem_replicate hc]
      exact solid_of_graph v rfl (by decide)
    have hend : (⟨pos + 1, List.replicate n '-' ++ follow, v⟩ : Cursor).atEnd = false := by
      simp [Cursor.atEnd, hn]
    have hp : (u.push (.literal ⟨(⟨pos, '-' :: (List.replicate n '-' ++ follow), v⟩ : Cursor).spanChar, .verbatim, '-'⟩)).Holds
        (xs ++ [.hyphen]) := hu.push rfl
    obtain ⟨w, hw, hr⟩ := ih (by omega : n ≤ j) hp (pos + 1)
    refine ⟨w, by simpa [List.replicate_succ] using hw, ?_⟩
    rw [List.replicate_succ, List.cons_append, leadingHyphens, Cursor.at?_cons, beq_self_eq_true, if_pos rfl]
    dsimp only
    rw [Cursor.bumpSkip_cons ht', hend]
    simp only [Bool.false_eq_true, if_false]
    rw [hr, show pos + 1 + n = pos + (n + 1) by omega]

lemma replicate_ne_closer (n : Nat) : List.replicate n ClassSet.hyphen ≠ [.closer] := by
  intro he
  have hc : ClassSet.closer ∈ List.replicate n ClassSet.hyphen := he ▸ List.mem_singleton_self _
  have := List.eq_of_mem_replicate hc
  simp [ClassSet.closer, ClassSet.hyphen] at this

lemma charsOfAll_hyphens (n : Nat) : ClassSet.charsOfAll (List.replicate n .hyphen) = List.replicate n '-' := by
  induction n with
  | zero => rfl
  | succ n ih =>
    rw [List.replicate_succ, ClassSet.charsOfAll, ih]
    rfl

/-- What is read at the start of a class behind its bracket and caret. -/
def readLead (start : Nat) (negated : Bool) (c : Cursor) : Except Error (Opening × Union × Cursor) :=
  (leadingHyphens start c.rest.length (Union.startingAt c.pos) c).bind fun (u, c) =>
    if u.items.isEmpty && c.at? ']' then
      if c.bumpSkip.atEnd then fail .classUnclosed start start
      else .ok (⟨⟨start, c.bumpSkip.pos⟩, negated⟩, u.push (.literal ⟨c.spanChar, .verbatim, ']'⟩), c.bumpSkip)
    else .ok (⟨⟨start, c.pos⟩, negated⟩, u, c)

lemma readOpening_eq {c d : Cursor} {negated : Bool} (he : c.bumpSkip.atEnd = false) (hn : c.bumpSkip.at? '^' = negated)
    (hd : (if negated then c.bumpSkip.bumpSkip else c.bumpSkip) = d) (he' : d.atEnd = false) {r : Opening × Union × Cursor}
    (hr : readLead c.pos negated d = .ok r) : readOpening c = .ok r := by
  unfold readOpening
  subst hd
  simp only [he, hn, he', Bool.false_eq_true, if_false]
  unfold readLead at hr
  obtain ⟨⟨u, e⟩, hu, hr⟩ := bind_eq_ok.mp hr
  rw [hu]
  dsimp only at hr
  simp only [Bind.bind, Except.bind]
  split
  · rename_i hc
    rw [if_pos hc] at hr
    split
    · rename_i hend
      rw [if_pos hend] at hr
      cases hr
    · rename_i hend
      rw [if_neg hend] at hr
      exact hr
  · rename_i hc
    rw [if_neg hc] at hr
    exact hr

lemma readLead_ok {negated : Bool} {lead : List ClassSet} (hl : ClassSet.Lead lead)
    (hg : ClassSet.GoesOn negated lead follow) (hn : follow ≠ []) (ht : Tight v follow) (start pos : Nat) :
    ∃ opening w stop, opening.negated = negated ∧ w.Holds lead ∧
      readLead start negated ⟨pos, ClassSet.charsOfAll lead ++ follow, v⟩ = .ok (opening, w, ⟨stop, follow, v⟩) := by
  cases hl with
  | hyphens n =>
    rw [charsOfAll_hyphens]
    obtain ⟨w, hw, hr⟩ : ∃ w, w.Holds ([] ++ List.replicate n .hyphen) ∧
        leadingHyphens start (List.replicate n '-' ++ follow).length (Union.startingAt pos)
          ⟨pos, List.replicate n '-' ++ follow, v⟩ = .ok (w, ⟨pos + n, follow, v⟩) :=
      leadingHyphens_replicate start (by simp) (hg.hyphen (replicate_ne_closer n)) hn ht (holds_startingAt pos) pos
    rw [List.nil_append] at hw
    refine ⟨⟨⟨start, pos + n⟩, negated⟩, w, pos + n, rfl, hw, ?_⟩
    rw [readLead, hr]
    have hc : (w.items.isEmpty && (⟨pos + n, follow, v⟩ : Cursor).at? ']') = false := by
      cases n with
      | zero => rw [Cursor.at?_eq_false (hg.closer rfl), Bool.and_false]
      | succ n =>
        have hlen := congrArg List.length hw
        simp only [List.length_map, List.length_reverse, List.length_replicate] at hlen
        cases hi : w.items with
        | nil => simp [hi] at hlen
        | cons x xs => rfl
    simp [Except.bind, hc]
  | closer =>
    have hp : ((Union.startingAt pos).push (.literal ⟨⟨pos, pos + 1⟩, .verbatim, ']'⟩)).Holds [ClassSet.closer] :=
      (holds_startingAt pos).push rfl
    have hend : (⟨pos + 1, follow, v⟩ : Cursor).atEnd = false := by simpa [Cursor.atEnd] using hn
    refine ⟨⟨⟨start, pos + 1⟩, negated⟩, _, pos + 1, rfl, hp, ?_⟩
    have hr : leadingHyphens start (']' :: follow).length (Union.startingAt pos) ⟨pos, ']' :: follow, v⟩ =
        .ok (Union.startingAt pos, ⟨pos, ']' :: follow, v⟩) := by
      rw [List.length_cons, leadingHyphens, Cursor.at?_cons]
      rfl
    change readLead start negated ⟨pos, ']' :: follow, v⟩ = _
    rw [readLead, hr]
    simp only [Except.bind, Cursor.at?_cons, beq_self_eq_true, Cursor.bumpSkip_cons ht, hend]
    rfl

lemma readOpening_lead {negated : Bool} {lead : List ClassSet} (hl : ClassSet.Lead lead)
    (hg : ClassSet.GoesOn negated lead follow) (hn : follow ≠ []) (ht : Tight v follow) (pos : Nat) :
    ∃ opening w stop, opening.negated = negated ∧ w.Holds lead ∧
      readOpening ⟨pos, openBracket negated ++ (ClassSet.charsOfAll lead ++ follow), v⟩ =
        .ok (opening, w, ⟨stop, follow, v⟩) := by
  have htight : Tight v (ClassSet.charsOfAll lead ++ follow) := by
    refine tight_append (fun c hc => ?_) ht
    cases hl with
    | hyphens n =>
      rw [charsOfAll_hyphens] at hc
      rw [List.eq_of_mem_replicate hc]
      exact solid_of_graph v rfl (by decide)
    | closer =>
      rw [List.mem_singleton.mp hc]
      exact solid_of_graph v rfl (by decide)
  have hend : ∀ p, (⟨p, ClassSet.charsOfAll lead ++ follow, v⟩ : Cursor).atEnd = false := by
    simp [Cursor.atEnd, hn]
  cases negated with
  | true =>
    have hcaret : Tight v ('^' :: (ClassSet.charsOfAll lead ++ follow)) := tight_cons.mpr (solid_of_graph v rfl (by decide))
    obtain ⟨opening, w, stop, ho, hw, hr⟩ := readLead_ok hl hg hn ht pos (pos + 1 + 1)
    refine ⟨opening, w, stop, ho, hw, ?_⟩
    change readOpening ⟨pos, '[' :: '^' :: (ClassSet.charsOfAll lead ++ follow), v⟩ = _
    refine readOpening_eq ?_ ?_ ?_ (hend (pos + 1 + 1)) hr
    · rw [Cursor.bumpSkip_cons hcaret]
      rfl
    · rw [Cursor.bumpSkip_cons hcaret, Cursor.at?_cons]
      rfl
    · rw [if_pos rfl, Cursor.bumpSkip_cons hcaret, Cursor.bumpSkip_cons htight]
  | false =>
    have hcaret : (ClassSet.charsOfAll lead ++ follow).head? ≠ some '^' := by
      cases hl with
      | hyphens n =>
        rw [charsOfAll_hyphens]
        cases n with
        | zero => exact hg.caret rfl rfl
        | succ n => simp [List.replicate_succ]
      | closer => simp [ClassSet.charsOfAll, ClassSet.closer, ClassSet.chars, Literal.chars]
    obtain ⟨opening, w, stop, ho, hw, hr⟩ := readLead_ok hl hg hn ht pos (pos + 1)
    refine ⟨opening, w, stop, ho, hw, ?_⟩
    change readOpening ⟨pos, '[' :: (ClassSet.charsOfAll lead ++ follow), v⟩ = _
    refine readOpening_eq ?_ ?_ ?_ (hend (pos + 1)) hr
    · rw [Cursor.bumpSkip_cons htight]
      exact hend (pos + 1)
    · rw [Cursor.bumpSkip_cons htight, Cursor.at?_eq_false hcaret]
    · rw [if_neg (by decide), Cursor.bumpSkip_cons htight]

end Bracket

namespace ClassSet

open TypedPattern.Regex.Bracket

variable {v : Bool}

def legibleMore (behind : List Char) : List (SetOperator × List ClassSet) → Bool
  | [] => true
  | (_, xs) :: more => legibleAll false (charsOfMore more ++ behind) xs && legibleMore behind more

lemma legible_ofItems (b : Bool) (behind : List Char) (xs : List ClassSet) :
    (ofItems xs).legible b behind = legibleAll b behind xs := by
  match xs with
  | [] => simp [ofItems, legible, legibleAll]
  | [x] => simp [ofItems, legibleAll, charsOfAll]
  | x :: y :: r =>
    change (union ⟨0, 0⟩ (x :: y :: r)).legible b behind = _
    rw [legible]

lemma chars_ofItems (xs : List ClassSet) : (ofItems xs).chars = charsOfAll xs := by
  match xs with
  | [] => rfl
  | [x] => simp [ofItems, charsOfAll]
  | x :: y :: r =>
    change (union ⟨0, 0⟩ (x :: y :: r)).chars = _
    rw [chars]

lemma charsOfMore_cons (o : SetOperator) (xs : List ClassSet) (more : List (SetOperator × List ClassSet)) :
    charsOfMore ((o, xs) :: more) = o.chars ++ (charsOfAll xs ++ charsOfMore more) := by
  simp [charsOfMore]

lemma chars_operate (s : ClassSet) (more : List (SetOperator × List ClassSet)) :
    (operate s more).chars = s.chars ++ charsOfMore more := by
  induction more generalizing s with
  | nil => simp [operate, charsOfMore]
  | cons m more ih =>
    obtain ⟨o, xs⟩ := m
    rw [operate, ih, chars, chars_ofItems, charsOfMore_cons]
    simp only [List.append_assoc]

lemma legible_operate (b : Bool) (behind : List Char) (s : ClassSet) (more : List (SetOperator × List ClassSet)) :
    (operate s more).legible b behind = (s.legible b (charsOfMore more ++ behind) && legibleMore behind more) := by
  induction more generalizing s with
  | nil => simp [operate, charsOfMore, legibleMore]
  | cons m more ih =>
    obtain ⟨o, xs⟩ := m
    rw [operate, ih, legible, chars_ofItems, legible_ofItems, charsOfMore_cons, legibleMore]
    simp only [List.append_assoc, Bool.and_assoc]

lemma charsOfAll_append (xs ys : List ClassSet) : charsOfAll (xs ++ ys) = charsOfAll xs ++ charsOfAll ys := by
  induction xs with
  | nil => rfl
  | cons x xs ih => rw [List.cons_append, charsOfAll, charsOfAll, ih, List.append_assoc]

lemma Written.head {x : ClassSet} (h : Written v (.item x)) : ∃ c cs, x.chars = c :: cs ∧ Solid v c ∧ c ≠ ']' := by
  cases h with
  | escaped hl =>
    obtain ⟨cs, hc⟩ := hl.chars
    exact ⟨'\\', cs, hc, solid_of_graph v rfl (by decide), by decide⟩
  | @verbatim l hl =>
    refine ⟨l.char, [], hl.chars, hl.2.2, fun hc => hl.2.1 ?_⟩
    rw [hc]
    decide
  | @range first last hf hl hle =>
    obtain ⟨c, cs, hc, hs, hne⟩ := Literal.chars_cons hf
    refine ⟨c, cs ++ '-' :: last.chars, ?_, hs, ?_⟩
    · rw [chars, Literal.chars_bare, hc]
      rfl
    · rcases hne with rfl | ⟨hn, -⟩
      · decide
      · rintro rfl
        exact hn (by decide)
  | ascii kind negated => exact ⟨'[', _, rfl, solid_of_graph v rfl (by decide), by decide⟩
  | unicode hu => exact ⟨'\\', _, rfl, solid_of_graph v rfl (by decide), by decide⟩
  | perl p =>
    obtain ⟨c, hc⟩ := p.chars_cons
    exact ⟨'\\', [c], hc, solid_of_graph v rfl (by decide), by decide⟩
  | @bracketed negated inner hi =>
    cases negated <;> exact ⟨'[', _, rfl, solid_of_graph v rfl (by decide), by decide⟩

lemma Written.tight {xs : List ClassSet} (h : Written v (.items xs)) {cs : List Char} (hc : Tight v cs) :
    Tight v (charsOfAll xs ++ cs) := by
  cases h with
  | nil => exact hc
  | cons hx hxs =>
    obtain ⟨c, r, hr, hs, -⟩ := hx.head
    rw [charsOfAll, hr]
    exact tight_cons.mpr hs

lemma tight_charsOfMore (more : List (SetOperator × List ClassSet)) (follow : List Char) :
    Tight v (charsOfMore more ++ ']' :: follow) := by
  cases more with
  | nil => exact tight_cons.mpr (solid_of_graph v rfl (by decide))
  | cons m more =>
    obtain ⟨o, xs⟩ := m
    rw [charsOfMore_cons]
    cases o <;> exact tight_cons.mpr (solid_of_graph v rfl (by decide))

/-- What the reader of classes makes of the text of a part, if that is legible. -/
def Part.Readable (v : Bool) : Part → Prop
  | .item x => ∀ b, x.legible false (b ++ [']']) = true → ∀ follow, Tight v (b ++ ']' :: follow) →
      ∀ opening pending u pos, ∃ y stop, y.bare = x ∧ Passes (restFrom opening) x.chars.length
        (pending, u, ⟨pos, x.chars ++ (b ++ ']' :: follow), v⟩) (pending, u.push y, ⟨stop, b ++ ']' :: follow, v⟩)
  | .items xs => ∀ b, legibleAll false (b ++ [']']) xs = true → ∀ follow, Tight v (b ++ ']' :: follow) →
      ∀ opening pending (u : Union) pos ys, u.Holds ys → ∃ w stop, w.Holds (ys ++ xs) ∧
        Passes (restFrom opening) (charsOfAll xs).length
          (pending, u, ⟨pos, charsOfAll xs ++ (b ++ ']' :: follow), v⟩) (pending, w, ⟨stop, b ++ ']' :: follow, v⟩)
  | .more ms => legibleMore [']'] ms = true → ∀ follow opening pending u pos, ∃ t span stop,
      t.bare = operate (close pending u.toSet).bare ms ∧ ∀ k, (charsOfMore ms).length < k →
        restFrom opening k (pending, u, ⟨pos, charsOfMore ms ++ ']' :: follow, v⟩) =
          .ok (.bracketed span opening.negated t, ⟨stop, follow, v⟩)
  | .body negated inner => inner.legible true [']'] = true → ∀ follow pos, ∃ opening u d t span stop,
      t.bare = inner ∧ readOpening ⟨pos, openBracket negated ++ (inner.chars ++ ']' :: follow), v⟩ = .ok (opening, u, d) ∧
        ∀ k, inner.chars.length < k → readRest k opening none u d = .ok (.bracketed span negated t, ⟨stop, follow, v⟩)

lemma startsDoubled_closing {cs follow : List Char} (hn : cs ≠ []) :
    startsDoubled (cs ++ ']' :: follow) = startsDoubled (cs ++ [']']) := by
  match cs with
  | [] => exact absurd rfl hn
  | [c] => rfl
  | c :: d :: r => rfl

lemma startsDoubled_behind {cs b follow : List Char} (hn : cs ≠ []) (h : startsDoubled (cs ++ (b ++ [']'])) = false) :
    startsDoubled (cs ++ (b ++ ']' :: follow)) = false := by
  rw [← List.append_assoc] at h ⊢
  rw [startsDoubled_closing (by simp [hn]), h]

lemma readable_single {x : ClassSet} {c : Char} {cs : List Char} (hc : x.chars = c :: cs) (hsolid : Solid v c)
    (hclose : c ≠ ']') (hopen : c ≠ '[')
    (hl : ∀ b, x.legible false b = true → startsDoubled (x.chars ++ b) = false ∧ joins b = false)
    (hr : ∀ follow, Tight v follow → ∀ pos, ∃ s y stop, y.bare = x ∧ itemSet s = .ok y ∧
      readItem ⟨pos, x.chars ++ follow, v⟩ = .ok (s, ⟨stop, follow, v⟩)) : Part.Readable v (.item x) := by
  intro b hb follow ht opening pending u pos
  obtain ⟨hd, hj⟩ := hl _ hb
  obtain ⟨s, y, stop, hy, hs, hi⟩ := hr _ ht pos
  have hne : x.chars ≠ [] := by simp [hc]
  refine ⟨y, stop, hy, passes_range ?_ ?_ ?_ (startsDoubled_behind hne hd)
    (readRange_single hi hs ht (Parted.of_joins hj))⟩
  · rw [hc]
    exact Nat.succ_pos _
  · rw [hc]
    exact tight_cons.mpr hsolid
  · rw [hc]
    exact ⟨c, _, rfl, hclose, hopen⟩

lemma readable_literal {l : Literal} (h : l.Escaped ∨ l.Verbatim v ['\\', '[', ']']) :
    Part.Readable v (.item (.literal l.bare)) := by
  obtain ⟨c, cs, hc, hsolid, hne⟩ := Literal.chars_cons h
  have hbr : c ≠ ']' ∧ c ≠ '[' := by
    rcases hne with rfl | ⟨hn, -⟩
    · decide
    · constructor <;> rintro rfl <;> exact hn (by decide)
  refine readable_single (x := .literal l.bare) hc hsolid hbr.1 hbr.2 (fun b hb => ?_) fun follow ht pos => ?_
  · simpa [legible, isClear, isParted] using hb
  · obtain ⟨m, stop, hm, hr⟩ := readItem_literal (by decide) h ht pos
    exact ⟨.literal m, .literal m, stop, by rw [bare, hm], rfl, hr⟩

lemma readable_range {first last : Literal} (hf : first.Escaped ∨ first.Verbatim v ['\\', '[', ']'])
    (hl : last.Escaped ∨ last.Verbatim v ['\\']) (hle : first.char ≤ last.char) :
    Part.Readable v (.item (.range ⟨0, 0⟩ first.bare last.bare)) := by
  intro b hb follow ht opening pending u pos
  have hb : (range ⟨0, 0⟩ first.bare last.bare).isClear (b ++ [']']) = true := by simpa [legible] using hb
  rw [isClear, Bool.and_eq_true, Bool.not_eq_true'] at hb
  obtain ⟨x, stop, hx, hr⟩ : ∃ x stop, _ ∧ readRange opening _ = _ := readRange_range hf hl hle hb.2 ht pos
  obtain ⟨c, cs, hc, hsolid, hne⟩ := Literal.chars_cons hf
  have hbr : c ≠ ']' ∧ c ≠ '[' := by
    rcases hne with rfl | ⟨hn, -⟩
    · decide
    · constructor <;> rintro rfl <;> exact hn (by decide)
  have hchars : (range ⟨0, 0⟩ first.bare last.bare).chars = first.chars ++ '-' :: last.chars := rfl
  refine ⟨x, stop, hx, ?_⟩
  rw [hchars]
  refine passes_range ?_ ?_ ?_ (startsDoubled_behind (by simp) hb.1) ?_
  · simp
    omega
  · rw [hc]
    exact tight_cons.mpr hsolid
  · rw [hc]
    exact ⟨c, _, rfl, hbr.1, hbr.2⟩
  · simpa using hr

lemma chars_of_verbatim {x : ClassSet} {c : Char} (h : x.isVerbatim c = true) : x.chars = [c] := by
  cases x with
  | literal l =>
    obtain ⟨span, form, d⟩ := l
    simp only [isVerbatim, Bool.and_eq_true, beq_iff_eq] at h
    obtain ⟨rfl, rfl⟩ := h
    rfl
  | _ => cases h

lemma Written.legible_start {x : ClassSet} (h : Written v (.item x)) {b : List Char} (hh : x.isVerbatim '-' = false)
    (hb : x.legible true b = true) : x.legible false b = true := by
  have hc : x.isVerbatim ']' = false := by
    rw [← Bool.not_eq_true]
    intro hc
    obtain ⟨c, cs, hx, -, hne⟩ := h.head
    rw [chars_of_verbatim hc] at hx
    exact hne (List.cons.inj hx).1.symm
  cases h with
  | bracketed => exact hb
  | _ =>
    simp only [legible, hh, hc, Bool.or_self, Bool.and_false, Bool.false_or] at hb ⊢
    exact hb

lemma Written.legibleAll_start {xs : List ClassSet} (h : Written v (.items xs)) {b : List Char}
    (hh : (charsOfAll xs ++ b).head? ≠ some '-') (hb : legibleAll true b xs = true) : legibleAll false b xs = true := by
  cases h with
  | nil => rfl
  | @cons x xs hx hxs =>
    have hv : x.isVerbatim '-' = false := by
      rw [← Bool.not_eq_true]
      intro hc
      rw [charsOfAll, chars_of_verbatim hc] at hh
      exact hh rfl
    rw [legibleAll, hv, Bool.and_false, Bool.and_eq_true] at hb
    rw [legibleAll, Bool.false_and, Bool.and_eq_true]
    exact ⟨hx.legible_start hv hb.1, hb.2⟩

lemma Written.legibleAll_lead {negated : Bool} {lead xs : List ClassSet} {b : List Char} (hl : Lead lead)
    (h : Written v (.items xs)) (hg : GoesOn negated lead (charsOfAll xs ++ b))
    (hb : legibleAll true b (lead ++ xs) = true) : legibleAll false b xs = true := by
  cases hl with
  | hyphens n =>
    refine h.legibleAll_start (hg.hyphen (replicate_ne_closer n)) ?_
    clear hg
    induction n with
    | zero => exact hb
    | succ n ih =>
      rw [List.replicate_succ, List.cons_append, legibleAll, Bool.and_eq_true] at hb
      exact ih hb.2
  | closer =>
    rw [List.singleton_append, legibleAll, Bool.and_eq_true] at hb
    exact hb.2

lemma readable_ascii (kind : AsciiKind) (negated : Bool) : Part.Readable v (.item (.ascii ⟨0, 0⟩ kind negated)) := by
  intro b hb follow ht opening pending u pos
  obtain ⟨sp, stop, hr⟩ := readAscii?_chars kind negated pos
  exact ⟨_, stop, rfl, passes_ascii (Nat.succ_pos _) hr⟩

lemma readable_unicode {u : UnicodeClass} (hu : u.kind.Written v) : Part.Readable v (.item (.unicode u.bare)) := by
  refine readable_single rfl (solid_of_graph v rfl (by decide)) (by decide) (by decide) (fun b hb => ?_)
    fun follow ht pos => ?_
  · simpa [legible, isClear, isParted] using hb
  · obtain ⟨w, stop, hw, hr⟩ := Escape.read_unicode hu ht pos
    exact ⟨.unicode w, .unicode w, stop, by rw [bare, hw], rfl, hr⟩

lemma readable_perl (p : PerlClass) : Part.Readable v (.item (.perl p.bare)) := by
  obtain ⟨c, hc⟩ := p.chars_cons
  refine readable_single (x := .perl p.bare) hc (solid_of_graph v rfl (by decide)) (by decide) (by decide)
    (fun b hb => ?_) fun follow ht pos => ?_
  · simpa [legible, isClear, isParted] using hb
  · obtain ⟨q, stop, hq, hr⟩ := Escape.read_perl p pos
    refine ⟨.perl q, .perl q, stop, by rw [bare, hq], rfl, ?_⟩
    change readItem ⟨pos, p.chars ++ follow, v⟩ = _
    rw [hc] at hr ⊢
    exact hr

lemma readable_bracketed {negated : Bool} {inner : ClassSet} (h : Part.Readable v (.body negated inner)) :
    Part.Readable v (.item (.bracketed ⟨0, 0⟩ negated inner)) := by
  intro b hb follow ht opening pending u pos
  rw [legible, Bool.and_eq_true, isClear, Bool.and_eq_true, isParted, Bool.not_eq_true', Bool.not_eq_true'] at hb
  obtain ⟨o, w, d, t, span, stop, ht, ho, hr⟩ := h hb.1 (b ++ ']' :: follow) pos
  refine ⟨.bracketed span negated t, stop, by rw [bare, ht], Passes.step ?_ fun k hk => ?_⟩
  · cases negated <;> exact Nat.succ_pos _
  · have hchars : (ClassSet.bracketed ⟨0, 0⟩ negated inner).chars ++ (b ++ ']' :: follow) =
        openBracket negated ++ (inner.chars ++ ']' :: (b ++ ']' :: follow)) := by
      simp [chars]
    have hn : readAscii? ⟨pos, (ClassSet.bracketed ⟨0, 0⟩ negated inner).chars ++ (b ++ ']' :: follow), v⟩ = none :=
      readAscii?_eq_none hb.2.2 (by simp [chars]) pos
    have hlen : inner.chars.length < k := by
      rw [chars, List.length_append, List.length_append, List.length_singleton] at hk
      have : 1 ≤ (openBracket negated).length := by cases negated <;> decide
      omega
    obtain ⟨r, hbr⟩ : ∃ r, openBracket negated ++ (inner.chars ++ ']' :: (b ++ ']' :: follow)) = '[' :: r := by
      cases negated <;> exact ⟨_, rfl⟩
    rw [hchars] at hn ⊢
    rw [hbr] at hn ho ⊢
    have hs : (⟨pos, '[' :: r, v⟩ : Cursor).skip = ⟨pos, '[' :: r, v⟩ := skip_mark rfl (by decide) r pos
    rw [restFrom, restFrom, readRest_cons (by rw [hs]), if_neg (by decide), if_pos rfl, hs, hn]
    dsimp only
    rw [ho, bind_of_ok rfl]
    dsimp only
    rw [hr k hlen, bind_of_ok rfl]

lemma readable_cons {x : ClassSet} {xs : List ClassSet} (hxs : Written v (.items xs)) (ihx : Part.Readable v (.item x))
    (ihxs : Part.Readable v (.items xs)) : Part.Readable v (.items (x :: xs)) := by
  intro b hb follow ht opening pending u pos ys hu
  rw [legibleAll, Bool.and_eq_true, Bool.false_and] at hb
  have ht' : Tight v ((charsOfAll xs ++ b) ++ ']' :: follow) := by
    rw [List.append_assoc]
    exact hxs.tight ht
  obtain ⟨y, p, hy, hr⟩ := ihx (charsOfAll xs ++ b) (by simpa using hb.1) follow ht' opening pending u pos
  obtain ⟨w, stop, hw, hr'⟩ := ihxs b hb.2 follow ht opening pending (u.push y) p _ (hu.push hy)
  refine ⟨w, stop, by simpa using hw, ?_⟩
  rw [charsOfAll, List.length_append]
  refine Passes.trans ?_ hr'
  simpa using hr

lemma readable_last : Part.Readable v (.more []) := by
  intro hb follow opening pending u pos
  refine ⟨close pending u.toSet, ⟨opening.span.start, pos + 1⟩, pos + 1, rfl, fun k hk => ?_⟩
  obtain ⟨j, rfl⟩ : ∃ j, k = j + 1 := ⟨k - 1, by omega⟩
  have hs : (⟨pos, ']' :: follow, v⟩ : Cursor).skip = ⟨pos, ']' :: follow, v⟩ := skip_mark rfl (by decide) follow pos
  change readRest (j + 1) opening pending u ⟨pos, ']' :: follow, v⟩ = _
  rw [readRest_cons (by rw [hs]), if_pos rfl, hs]
  rfl

lemma readable_operator {o : SetOperator} {xs : List ClassSet} {ms : List (SetOperator × List ClassSet)}
    (ihxs : Part.Readable v (.items xs)) (ihm : Part.Readable v (.more ms)) : Part.Readable v (.more ((o, xs) :: ms)) := by
  intro hb follow opening pending u pos
  rw [legibleMore, Bool.and_eq_true] at hb
  have ht : Tight v (charsOfMore ms ++ ']' :: follow) := tight_charsOfMore ms follow
  obtain ⟨w, p, hw, hr⟩ := ihxs (charsOfMore ms) hb.1 follow ht opening (some (o, close pending u.toSet))
    (Union.startingAt (pos + 2)) (pos + 2) [] (holds_startingAt _)
  obtain ⟨t, span, stop, ht, hr'⟩ := ihm hb.2 follow opening (some (o, close pending u.toSet)) w p
  refine ⟨t, span, stop, ?_, fun k hk => ?_⟩
  · rw [ht, operate]
    congr 1
    rw [close, bare, hw.toSet]
    rfl
  · have ho : Passes (restFrom opening) 2
        (pending, u, ⟨pos, o.chars ++ (charsOfAll xs ++ (charsOfMore ms ++ ']' :: follow)), v⟩)
        (some (o, close pending u.toSet), Union.startingAt (pos + 2),
          ⟨pos + 2, charsOfAll xs ++ (charsOfMore ms ++ ']' :: follow), v⟩) := passes_operator o pos
    have hlen : o.chars.length = 2 := by cases o <;> rfl
    rw [charsOfMore_cons, List.length_append, List.length_append, hlen] at hk
    rw [charsOfMore_cons, List.append_assoc, List.append_assoc]
    exact (ho.trans hr).finish hr' (by omega)

lemma readable_body {negated : Bool} {lead xs : List ClassSet} {ms : List (SetOperator × List ClassSet)} (hl : Lead lead)
    (hxs : Written v (.items xs)) (hg : GoesOn negated lead (charsOfAll xs ++ charsOfMore ms ++ [']']))
    (ihxs : Part.Readable v (.items xs)) (ihm : Part.Readable v (.more ms)) :
    Part.Readable v (.body negated (operate (ofItems (lead ++ xs)) ms)) := by
  intro hb follow pos
  rw [legible_operate, legible_ofItems, Bool.and_eq_true] at hb
  rw [List.append_assoc] at hg
  have hxs' := hxs.legibleAll_lead hl hg hb.1
  have ht : Tight v (charsOfMore ms ++ ']' :: follow) := tight_charsOfMore ms follow
  have hg' : GoesOn negated lead (charsOfAll xs ++ (charsOfMore ms ++ ']' :: follow)) := by
    have hh : (charsOfAll xs ++ (charsOfMore ms ++ ']' :: follow)).head? =
        (charsOfAll xs ++ (charsOfMore ms ++ [']'])).head? := by simp [List.head?_append]
    obtain ⟨h1, h2, h3⟩ := hg
    exact ⟨hh ▸ h1, hh ▸ h2, hh ▸ h3⟩
  obtain ⟨opening, u, p, hn, hu, ho⟩ := readOpening_lead hl hg' (by simp) (hxs.tight ht) pos
  obtain ⟨w, q, hw, hr⟩ := ihxs (charsOfMore ms) hxs' follow ht opening none u p lead hu
  obtain ⟨t, span, stop, ht, hr'⟩ := ihm hb.2 follow opening none w q
  refine ⟨opening, u, ⟨p, charsOfAll xs ++ (charsOfMore ms ++ ']' :: follow), v⟩, t, span, stop, ?_, ?_,
    fun k hk => ?_⟩
  · rw [ht, close, hw.toSet]
  · rw [chars_operate, chars_ofItems, charsOfAll_append]
    simpa only [List.append_assoc] using ho
  · rw [chars_operate, chars_ofItems, charsOfAll_append, List.length_append, List.length_append] at hk
    rw [hn] at hr'
    exact hr.finish hr' (by omega)

theorem Written.readable {p : Part} (h : Written v p) : Part.Readable v p := by
  induction h with
  | escaped hl => exact readable_literal (Or.inl hl)
  | verbatim hl => exact readable_literal (Or.inr hl)
  | range hf hl hle => exact readable_range hf hl hle
  | ascii kind negated => exact readable_ascii kind negated
  | unicode hu => exact readable_unicode hu
  | perl p => exact readable_perl p
  | bracketed _ ih => exact readable_bracketed ih
  | nil =>
    intro b hb follow ht opening pending u pos ys hu
    exact ⟨u, pos, by simpa using hu, Passes.refl _⟩
  | cons _ hxs ihx ihxs => exact readable_cons hxs ihx ihxs
  | last => exact readable_last
  | operator _ _ ihxs ihm => exact readable_operator ihxs ihm
  | body hl hxs _ hg ihxs ihm => exact readable_body hl hxs hg ihxs ihm

end ClassSet

namespace Bracket

variable {v : Bool} {follow : List Char}

/-- A printed class is read back. -/
theorem read_bracketed {negated : Bool} {inner : ClassSet} (h : ClassSet.Written v (.body negated inner))
    (hl : inner.legible true [']'] = true) (pos : Nat) : ∃ s stop, s.bare = .bracketed ⟨0, 0⟩ negated inner ∧
      read ⟨pos, openBracket negated ++ (inner.chars ++ ']' :: follow), v⟩ = .ok (s, ⟨stop, follow, v⟩) := by
  obtain ⟨opening, u, d, t, span, stop, ht, ho, hr⟩ := h.readable hl follow pos
  refine ⟨.bracketed span negated t, stop, by rw [Syntax.bare, ht], ?_⟩
  have hlen : inner.chars.length < (openBracket negated ++ (inner.chars ++ ']' :: follow)).length + 1 := by
    simp
    omega
  rw [read_eq, ho, bind_of_ok rfl]
  dsimp only
  rw [hr _ hlen]
  rfl

end Bracket

end TypedPattern.Regex
