import TypedPattern.Proofs.Printing.Bracket

/-! Printed operators and heads of groups are read back. -/

namespace TypedPattern.Regex

namespace Repetition

open Text

variable {v : Bool} {follow : List Char}

lemma digits_append {ds : List Char} (hd : ∀ d ∈ ds, isDigit d = true) (hf : Tight v follow)
    (hn : ∀ c ∈ follow.head?, isDigit c = false) {k : Nat} (hk : ds.length < k) (pos : Nat) :
    digits k ⟨pos, ds ++ follow, v⟩ = (ds, ⟨pos + ds.length, follow, v⟩) := by
  induction ds generalizing pos k with
  | nil =>
    obtain ⟨j, rfl⟩ : ∃ j, k = j + 1 := ⟨k - 1, by omega⟩
    cases follow with
    | nil => rfl
    | cons c cs =>
      rw [digits]
      simp [hn c rfl]
  | cons d ds ih =>
    obtain ⟨j, rfl⟩ : ∃ j, k = j + 1 := ⟨k - 1, by omega⟩
    have hs : ∀ e ∈ ds, isDigit e = true := fun e he => hd e (List.mem_cons_of_mem _ he)
    have ht : Tight v (ds ++ follow) := tight_append (fun e he => solid_of_digit v (hs e he)) hf
    simp only [List.cons_append, digits, hd d (List.mem_cons_self ..), if_true]
    rw [Cursor.bumpSkip_cons ht, ih hs (by simpa using hk)]
    simp only [List.length_cons, Nat.add_comm 1, Nat.add_assoc]

lemma passWhite_stop (hw : ∀ c ∈ follow.head?, isWhite c = false) (k pos : Nat) :
    passWhite k ⟨pos, follow, v⟩ = ⟨pos, follow, v⟩ := by
  cases k with
  | zero => rfl
  | succ k =>
    cases follow with
    | nil => rfl
    | cons c cs =>
      rw [passWhite]
      simp [hw c rfl]

/-- A character that ends a count. -/
structure EndsCount (c : Char) : Prop where
  graph : asciiGraph.contains c = true
  hash : c ≠ '#'
  digit : isDigit c = false

lemma count_decimal {n : Nat} (hn : n < twoTo 32) {c : Char} (hc : EndsCount c) (pos : Nat) :
    count ⟨pos, decimal n ++ c :: follow, v⟩ = (.ok n, ⟨pos + (decimal n).length, c :: follow, v⟩) := by
  have hd : ∀ d ∈ decimal n, isDigit d = true := fun d => isDigit_of_mem_decimal
  have hne : decimal n ≠ [] := decimal_ne_nil n
  have hwhite : (decimal n ++ c :: follow).takeWhile isWhite = [] := by
    obtain ⟨d, ds, he⟩ := List.exists_cons_of_ne_nil hne
    have hw := (solid_of_digit true (hd d (he ▸ List.mem_cons_self ..)) rfl).1
    rw [he, List.cons_append, List.takeWhile_cons, hw]
    rfl
  have hr : digits (decimal n ++ c :: follow).length ⟨pos, decimal n ++ c :: follow, v⟩ =
      (decimal n, ⟨pos + (decimal n).length, c :: follow, v⟩) :=
    digits_append hd (tight_cons.mpr (solid_of_graph v hc.graph hc.hash))
      (by rintro d ⟨⟩; exact hc.digit) (by simp) pos
  have hp := @passWhite_stop v (c :: follow) (by rintro d ⟨⟩; exact not_white_of_graph hc.graph)
    (c :: follow).length (pos + (decimal n).length)
  unfold count
  simp only [hwhite, List.length_nil, Nat.add_zero, List.drop_zero, hr, hp]
  simp [hne, decimalValue_decimal, hn]

lemma endsCount_comma : EndsCount ',' :=
  ⟨rfl, by decide, rfl⟩

lemma endsCount_brace : EndsCount '\x7d' :=
  ⟨rfl, by decide, rfl⟩

def inside : RepetitionKind → List Char
  | .exactly n => decimal n
  | .atLeast n => decimal n ++ [',']
  | .between m n => decimal m ++ ',' :: decimal n
  | _ => []

def isCounted : RepetitionKind → Bool
  | .exactly _ => true
  | .atLeast _ => true
  | .between _ _ => true
  | _ => false

lemma chars_counted {kind : RepetitionKind} (h : isCounted kind = true) :
    kind.chars = '\x7b' :: (inside kind ++ ['\x7d']) := by
  cases kind with
  | zeroOrOne => cases h
  | zeroOrMore => cases h
  | oneOrMore => cases h
  | exactly n => rfl
  | atLeast n => simp [RepetitionKind.chars, inside]
  | between m n => simp [RepetitionKind.chars, inside]

lemma tight_decimal (n : Nat) (cs : List Char) : Tight v (decimal n ++ cs) :=
  tight_append_of_ne_nil (by
    obtain ⟨d, ds, he⟩ := List.exists_cons_of_ne_nil (decimal_ne_nil n)
    rw [he]
    exact tight_cons.mpr (solid_of_digit v (isDigit_of_mem_decimal (he ▸ List.mem_cons_self ..)))) (decimal_ne_nil n)

lemma counts_inside {kind : RepetitionKind} (hk : isCounted kind = true) (hw : kind.Written) (start pos : Nat) :
    ∃ stop, counts start ⟨pos, inside kind ++ '\x7d' :: follow, v⟩ = .ok (kind, ⟨stop, '\x7d' :: follow, v⟩) := by
  cases kind with
  | zeroOrOne => cases hk
  | zeroOrMore => cases hk
  | oneOrMore => cases hk
  | exactly n =>
    refine ⟨pos + (decimal n).length, ?_⟩
    unfold counts inside
    rw [count_decimal hw endsCount_brace]
    rfl
  | atLeast n =>
    refine ⟨pos + (decimal n).length + 1, ?_⟩
    have ht : Tight v ('\x7d' :: follow) := tight_cons.mpr (solid_of_graph v rfl (by decide))
    unfold counts inside
    rw [List.append_assoc, List.singleton_append, count_decimal hw endsCount_comma]
    simp only [Cursor.atEnd_cons, Cursor.at?_cons, Cursor.bumpSkip_cons ht]
    rfl
  | between m n =>
    have ht : Tight v (decimal n ++ '\x7d' :: follow) := tight_decimal n _
    obtain ⟨d, ds, he⟩ := List.exists_cons_of_ne_nil (decimal_ne_nil n)
    have hd : isDigit d = true := isDigit_of_mem_decimal (he ▸ List.mem_cons_self ..)
    have hne : d ≠ '\x7d' := by
      rintro rfl
      exact absurd hd (by decide)
    refine ⟨pos + (decimal m).length + 1 + (decimal n).length, ?_⟩
    have hend : (⟨pos + (decimal m).length + 1, decimal n ++ '\x7d' :: follow, v⟩ : Cursor).atEnd = false := by
      rw [he]
      rfl
    have hat : (⟨pos + (decimal m).length + 1, decimal n ++ '\x7d' :: follow, v⟩ : Cursor).at? '\x7d' = false := by
      rw [he, List.cons_append, Cursor.at?_cons, beq_eq_false_iff_ne.mpr hne]
    unfold counts inside
    rw [List.append_assoc, List.cons_append, count_decimal (hw.1.trans_lt hw.2) endsCount_comma]
    simp only [Cursor.atEnd_cons, Cursor.at?_cons, Cursor.bumpSkip_cons ht, hend, hat, count_decimal hw.2 endsCount_brace]
    rfl

def lazyMark (greedy : Bool) : List Char :=
  if greedy then [] else ['?']

lemma isValid_of_written {kind : RepetitionKind} (h : kind.Written) : isValid kind = true := by
  cases kind with
  | between m n => exact decide_eq_true h.1
  | _ => rfl

lemma at?_lazyMark {greedy : Bool} (hg : greedy = true → follow.head? ≠ some '?') (pos : Nat) :
    (⟨pos, lazyMark greedy ++ follow, v⟩ : Cursor).at? '?' = !greedy := by
  cases greedy with
  | true => exact Cursor.at?_eq_false (hg rfl)
  | false => rfl

lemma readCounted_chars {kind : RepetitionKind} {greedy : Bool} (hk : isCounted kind = true) (hw : kind.Written)
    (hf : Tight v follow) (hg : greedy = true → follow.head? ≠ some '?') (pos : Nat) : ∃ stop,
      readCounted ⟨pos, '\x7b' :: (inside kind ++ '\x7d' :: (lazyMark greedy ++ follow)), v⟩ =
        .ok (kind, greedy, ⟨stop, follow, v⟩) := by
  have hl : Tight v (lazyMark greedy ++ follow) := by
    cases greedy with
    | true => exact hf
    | false => exact tight_cons.mpr (solid_of_graph v rfl (by decide))
  have hi : Tight v (inside kind ++ '\x7d' :: (lazyMark greedy ++ follow)) := by
    cases kind with
    | exactly n => exact tight_decimal n _
    | atLeast n =>
      rw [inside, List.append_assoc]
      exact tight_decimal n _
    | between m n =>
      rw [inside, List.append_assoc]
      exact tight_decimal m _
    | _ => cases hk
  obtain ⟨p, hr⟩ : ∃ p, counts pos ⟨pos + 1, inside kind ++ '\x7d' :: (lazyMark greedy ++ follow), v⟩ =
      .ok (kind, ⟨p, '\x7d' :: (lazyMark greedy ++ follow), v⟩) := counts_inside hk hw pos (pos + 1)
  have hend : (⟨pos + 1, inside kind ++ '\x7d' :: (lazyMark greedy ++ follow), v⟩ : Cursor).atEnd = false := by
    simp [Cursor.atEnd]
  have hc : readCounted ⟨pos, '\x7b' :: (inside kind ++ '\x7d' :: (lazyMark greedy ++ follow)), v⟩ =
      closeCounts pos kind ⟨p, '\x7d' :: (lazyMark greedy ++ follow), v⟩ := by
    rw [readCounted_eq, Cursor.bumpSkip_cons hi, hend]
    simp only [Bool.false_eq_true, if_false, hr]
    rfl
  refine ⟨if greedy then p + 1 else p + 1 + 1, ?_⟩
  rw [hc, closeCounts, Cursor.at?_cons, Cursor.bumpSkip_cons hl, at?_lazyMark hg, isValid_of_written hw]
  cases greedy <;> rfl

lemma readSign_cons {greedy : Bool} (hg : greedy = true → follow.head? ≠ some '?') (kind : RepetitionKind) (c : Char)
    (pos : Nat) : readSign kind ⟨pos, c :: (lazyMark greedy ++ follow), v⟩ =
      (kind, greedy, ⟨if greedy then pos + 1 else pos + 1 + 1, follow, v⟩) := by
  rw [readSign, Cursor.bump_cons, at?_lazyMark hg]
  cases greedy <;> rfl

lemma read_chars {kind : RepetitionKind} {greedy : Bool} (hw : kind.Written) (hf : Tight v follow)
    (hg : greedy = true → follow.head? ≠ some '?') (pos : Nat) : ∃ stop,
      read ⟨pos, kind.chars ++ (lazyMark greedy ++ follow), v⟩ = .ok (kind, greedy, ⟨stop, follow, v⟩) := by
  by_cases hk : isCounted kind = true
  · rw [chars_counted hk]
    simp only [List.cons_append, List.append_assoc, List.nil_append]
    exact readCounted_chars hk hw hf hg pos
  · refine ⟨if greedy then pos + 1 else pos + 1 + 1, ?_⟩
    cases kind with
    | zeroOrOne => exact congrArg Except.ok (readSign_cons hg .zeroOrOne '?' pos)
    | zeroOrMore => exact congrArg Except.ok (readSign_cons hg .zeroOrMore '*' pos)
    | oneOrMore => exact congrArg Except.ok (readSign_cons hg .oneOrMore '+' pos)
    | exactly n => exact absurd rfl hk
    | atLeast n => exact absurd rfl hk
    | between m n => exact absurd rfl hk

end Repetition

namespace Group

variable {v : Bool} {follow : List Char} {seen : List CaptureName}

lemma not_alphanumeric_greater : isAlphanumeric '>' = false :=
  (not_alphanumeric (contains_outsideNames_of_mark (by decide))).2

lemma isNamePart_ne {c : Char} (h : isNamePart c = true) : c ≠ '>' := by
  rintro rfl
  simp [isNamePart, not_alphanumeric_greater] at h

/-- A name that a group may have. -/
def IsName (name : List Char) : Prop :=
  ∃ c cs, name = c :: cs ∧ isNameStart c = true ∧ ∀ d ∈ cs, isNamePart d = true

lemma isNamePart_of_start {c : Char} (h : isNameStart c = true) : isNamePart c = true := by
  simp only [isNameStart, Bool.or_eq_true] at h
  rcases h with h | h
  · simp [isNamePart, h]
  · simp [isNamePart, isAlphanumeric, h]

lemma nameChars_parts {cs : List Char} (h : ∀ c ∈ cs, isNamePart c = true) {k : Nat} (hk : cs.length < k) (pos : Nat) :
    nameChars k false ⟨pos, cs ++ '>' :: follow, v⟩ = .ok (cs, ⟨pos + cs.length, '>' :: follow, v⟩) := by
  induction cs generalizing pos k with
  | nil =>
    obtain ⟨j, rfl⟩ : ∃ j, k = j + 1 := ⟨k - 1, by omega⟩
    rfl
  | cons c cs ih =>
    obtain ⟨j, rfl⟩ : ∃ j, k = j + 1 := ⟨k - 1, by omega⟩
    have hc := h c (List.mem_cons_self ..)
    simp only [List.cons_append, nameChars, isNamePart_ne hc, hc, if_true, if_false, Bool.false_eq_true,
      Cursor.bump_cons]
    rw [ih (fun d hd => h d (List.mem_cons_of_mem _ hd)) (by simpa using hk)]
    simp only [Except.map, List.length_cons, Nat.add_comm 1, Nat.add_assoc]

lemma readName_name {name : List Char} (h : IsName name) (hs : ∀ other ∈ seen, other.name ≠ name) (pos : Nat) :
    ∃ found stop, found.name = name ∧
      readName seen ⟨pos, name ++ '>' :: follow, v⟩ = .ok (found, ⟨stop, follow, v⟩) := by
  obtain ⟨c, cs, rfl, hc, hcs⟩ := h
  refine ⟨⟨c :: cs, ⟨pos, pos + 1 + cs.length⟩⟩, pos + 1 + cs.length + 1, rfl, ?_⟩
  have hr : nameChars (c :: (cs ++ '>' :: follow)).length true ⟨pos, c :: (cs ++ '>' :: follow), v⟩ =
      .ok (c :: cs, ⟨pos + 1 + cs.length, '>' :: follow, v⟩) := by
    rw [List.length_cons, nameChars]
    simp only [isNamePart_ne (isNamePart_of_start hc), hc, if_true, if_false, Cursor.bump_cons]
    rw [nameChars_parts hcs (by simp)]
    rfl
  have hf : seen.find? (fun other => other.name == c :: cs) = none := by
    rw [List.find?_eq_none]
    intro other hm
    simpa using hs other hm
  unfold readName
  simp only [List.cons_append, hr, Bind.bind, Except.bind, Cursor.atEnd_cons, List.isEmpty_cons, hf, Bool.false_eq_true,
    if_false, Cursor.bump_cons]

lemma flagOf?_letter (f : Flag) : flagOf? f.letter = some f := by
  cases f <;> rfl

lemma letter_ne (f : Flag) : f.letter ≠ ':' ∧ f.letter ≠ ')' ∧ f.letter ≠ '-' := by
  cases f <;> decide

lemma repeated?_eq_none {done : List FlagItem} {item : FlagItem} (h : item.bare ∉ done.map FlagItem.bare) :
    repeated? done item = none := by
  rw [← Option.isNone_iff_eq_none, ← Option.not_isSome, repeated?_bare]
  simpa using h

lemma readFlags_cons {done : List FlagItem} (item : FlagItem) (h : item.bare ∉ done.map FlagItem.bare) (k pos : Nat)
    (cs : List Char) : ∃ new : FlagItem, new.bare = item.bare ∧
      readFlags (k + 1) done ⟨pos, item.char :: cs, v⟩ = readFlags k (done ++ [new]) ⟨pos + 1, cs, v⟩ := by
  cases item with
  | negation s =>
    refine ⟨.negation ⟨pos, pos + 1⟩, rfl, ?_⟩
    have hnew : repeated? done (.negation (⟨pos, '-' :: cs, v⟩ : Cursor).spanChar) = none := repeated?_eq_none h
    rw [FlagItem.char, readFlags]
    simp only [hnew]
    rfl
  | flag s f =>
    refine ⟨.flag ⟨pos, pos + 1⟩ f, rfl, ?_⟩
    have hnew : repeated? done (.flag (⟨pos, f.letter :: cs, v⟩ : Cursor).spanChar f) = none := repeated?_eq_none h
    obtain ⟨h1, h2, h3⟩ := letter_ne f
    rw [FlagItem.char, readFlags]
    simp only [hnew, h1, h2, h3, or_self, if_false, flagOf?_letter]
    rfl

lemma readFlags_chars {items done : List FlagItem} (hw : FlagsWritten (done.map FlagItem.bare ++ items.map FlagItem.bare))
    {x : Char} (hx : x = ':' ∨ x = ')') {k : Nat} (hk : items.length < k) (pos : Nat) : ∃ result stop,
      result.map FlagItem.bare = done.map FlagItem.bare ++ items.map FlagItem.bare ∧
        readFlags k done ⟨pos, items.map FlagItem.char ++ x :: follow, v⟩ = .ok (result, ⟨stop, x :: follow, v⟩) := by
  induction items generalizing done pos k with
  | nil =>
    obtain ⟨j, rfl⟩ : ∃ j, k = j + 1 := ⟨k - 1, by omega⟩
    refine ⟨done, pos, by simp, ?_⟩
    have hn : ¬∃ s, done.getLast? = some (.negation s) := by
      rw [negation_getLast?_iff]
      simpa using hw.2
    rw [List.map_nil, List.nil_append, readFlags]
    simp only [hx, if_true]
    split
    · rename_i s h
      exact absurd ⟨s, h⟩ hn
    · rfl
  | cons item items ih =>
    obtain ⟨j, rfl⟩ : ∃ j, k = j + 1 := ⟨k - 1, by omega⟩
    have hnew : item.bare ∉ done.map FlagItem.bare :=
      fun hm => (List.nodup_append.mp hw.1).2.2 _ hm _ (by simp) rfl
    obtain ⟨new, hbare, hstep⟩ := readFlags_cons (v := v) item hnew j pos (items.map FlagItem.char ++ x :: follow)
    have hdone : (done ++ [new]).map FlagItem.bare ++ items.map FlagItem.bare =
        done.map FlagItem.bare ++ (item :: items).map FlagItem.bare := by simp [hbare]
    obtain ⟨result, stop, hresult, hread⟩ := ih (hdone ▸ hw) (by simpa using hk) (pos + 1)
    exact ⟨result, stop, hresult.trans hdone, hstep.trans hread⟩

lemma after?_lookAround {x : Char} {cs : List Char} {pos : Nat} (h : x ≠ '=' ∧ x ≠ '!')
    (hl : x = '<' → ∀ c ∈ cs.head?, c ≠ '=' ∧ c ≠ '!') :
    lookAroundMarks.findSome? (⟨pos, '?' :: x :: cs, v⟩ : Cursor).after? = none := by
  rw [List.findSome?_eq_none_iff]
  intro mark hm
  have hne : mark.isPrefixOf ('?' :: x :: cs) = false := by
    rw [← Bool.not_eq_true, List.isPrefixOf_iff_prefix]
    rintro ⟨t, ht⟩
    simp only [lookAroundMarks, List.mem_cons, List.not_mem_nil, or_false] at hm
    rcases hm with rfl | rfl | rfl | rfl <;> simp only [List.cons_append, List.nil_append, List.cons.injEq, true_and] at ht
    · exact h.1 ht.1.symm
    · exact h.2 ht.1.symm
    · exact (hl ht.1.symm '=' (by rw [← ht.2]; rfl)).1 rfl
    · exact (hl ht.1.symm '!' (by rw [← ht.2]; rfl)).2 rfl
  rw [Cursor.after?, hne]
  rfl

def namesOf : GroupKind → List (List Char)
  | .named _ name => [name]
  | _ => []

lemma isNameStart_ne {c : Char} (h : isNameStart c = true) : c ≠ '=' ∧ c ≠ '!' := by
  have hm : ∀ d, asciiMarks.contains d = true → d ≠ '_' → isNameStart d = false := by
    intro d hd hu
    simp [isNameStart, hu, (not_alphanumeric (contains_outsideNames_of_mark hd)).1]
  constructor
  · rintro rfl
    rw [hm '=' (by decide) (by decide)] at h
    cases h
  · rintro rfl
    rw [hm '!' (by decide) (by decide)] at h
    cases h

lemma readHead_named {name : List Char} (letter : Bool) (h : IsName name) (hs : ∀ other ∈ seen, other.name ≠ name)
    (pos : Nat) : ∃ found stop, found.name = name ∧
      readHead seen ⟨pos, (GroupKind.named letter name).chars ++ follow, v⟩ =
        .ok (.opened (.named letter name), seen ++ [found], ⟨stop, follow, v⟩) := by
  obtain ⟨c, cs, hname, hc, -⟩ := id h
  have hq : ∀ cs, Tight v ('?' :: cs) := fun cs => tight_cons.mpr (solid_of_graph v rfl (by decide))
  cases letter with
  | true =>
    obtain ⟨found, stop, hf, hr⟩ : ∃ found stop, _ ∧ readName seen ⟨_, _ ++ '>' :: follow, v⟩ = _ :=
      readName_name h hs (pos + 1 + 3)
    refine ⟨found, stop, hf, ?_⟩
    simp only [GroupKind.chars, List.cons_append, List.append_assoc, List.nil_append]
    unfold readHead
    rw [Cursor.bumpSkip_cons (hq _)]
    dsimp only
    rw [after?_lookAround (by decide) fun h => absurd h (by decide)]
    change openNamed true seen ⟨pos + 1 + 3, name ++ '>' :: follow, v⟩ = _
    rw [openNamed, hr, ← hf]
    rfl
  | false =>
    obtain ⟨found, stop, hf, hr⟩ : ∃ found stop, _ ∧ readName seen ⟨_, _ ++ '>' :: follow, v⟩ = _ :=
      readName_name h hs (pos + 1 + 2)
    refine ⟨found, stop, hf, ?_⟩
    simp only [GroupKind.chars, List.cons_append, List.append_assoc, List.nil_append]
    unfold readHead
    rw [Cursor.bumpSkip_cons (hq _)]
    dsimp only
    rw [after?_lookAround (by decide) fun _ => by
      rw [hname]
      rintro d ⟨⟩
      exact isNameStart_ne hc]
    change openNamed false seen ⟨pos + 1 + 2, name ++ '>' :: follow, v⟩ = _
    rw [openNamed, hr, ← hf]
    rfl

lemma flags_cons (items : List FlagItem) {x : Char} (hx : x = ':' ∨ x = ')') : ∃ y ys,
    items.map FlagItem.char ++ x :: follow = y :: ys ∧ y ∈ ['-', 'i', 'm', 's', 'U', 'u', 'R', 'x', ':', ')'] := by
  cases items with
  | nil =>
    refine ⟨x, follow, rfl, ?_⟩
    rcases hx with rfl | rfl <;> decide
  | cons item items =>
    refine ⟨item.char, items.map FlagItem.char ++ x :: follow, rfl, ?_⟩
    cases item with
    | negation s => simp [FlagItem.char]
    | flag s f => cases f <;> simp [FlagItem.char, Flag.letter]

lemma readHead_flags (items : List FlagItem) {x : Char} (hx : x = ':' ∨ x = ')') (pos : Nat) :
    readHead seen ⟨pos, '(' :: '?' :: (items.map FlagItem.char ++ x :: follow), v⟩ =
      openFlags pos (pos + 1) seen ⟨pos + 2, items.map FlagItem.char ++ x :: follow, v⟩ := by
  have hq : ∀ cs, Tight v ('?' :: cs) := fun cs => tight_cons.mpr (solid_of_graph v rfl (by decide))
  obtain ⟨y, ys, he, hy⟩ := flags_cons items hx
  unfold readHead
  rw [Cursor.bumpSkip_cons (hq _), he]
  simp only [List.mem_cons, List.not_mem_nil, or_false] at hy
  rcases hy with rfl | rfl | rfl | rfl | rfl | rfl | rfl | rfl | rfl | rfl <;> rfl

lemma readHead_plain {items : List FlagItem} (hw : FlagsWritten (items.map FlagItem.bare)) (pos : Nat) :
    ∃ result stop, result.map FlagItem.bare = items.map FlagItem.bare ∧
      readHead seen ⟨pos, (GroupKind.plain items).chars ++ follow, v⟩ =
        .ok (.opened (.plain result), seen, ⟨stop, follow, v⟩) := by
  have hlen : items.length < (items.map FlagItem.char ++ ':' :: follow).length + 1 := by
    simp
  obtain ⟨result, stop, hb, hr⟩ : ∃ result stop, _ ∧
      readFlags _ [] ⟨pos + 2, items.map FlagItem.char ++ ':' :: follow, v⟩ = .ok (result, ⟨stop, ':' :: follow, v⟩) :=
    readFlags_chars (x := ':') (by simpa using hw) (Or.inl rfl) hlen (pos + 2)
  refine ⟨result, stop + 1, hb, ?_⟩
  have he : (⟨pos + 2, items.map FlagItem.char ++ ':' :: follow, v⟩ : Cursor).atEnd = false := by simp [Cursor.atEnd]
  simp only [GroupKind.chars, List.cons_append, List.append_assoc, List.nil_append]
  rw [readHead_flags items (Or.inl rfl), openFlags, he]
  simp only [hr, Bind.bind, Except.bind, Bool.false_eq_true, if_false, Cursor.at?_cons, Cursor.bump_cons]
  rfl

lemma readHead_setting {items : List FlagItem} (hw : FlagsWritten (items.map FlagItem.bare)) (hn : items ≠ [])
    (pos : Nat) : ∃ result stop, result.map FlagItem.bare = items.map FlagItem.bare ∧
      readHead seen ⟨pos, '(' :: '?' :: (items.map FlagItem.char ++ ')' :: follow), v⟩ =
        .ok (.setting result, seen, ⟨stop, follow, v⟩) := by
  have hlen : items.length < (items.map FlagItem.char ++ ')' :: follow).length + 1 := by
    simp
  obtain ⟨result, stop, hb, hr⟩ : ∃ result stop, _ ∧
      readFlags _ [] ⟨pos + 2, items.map FlagItem.char ++ ')' :: follow, v⟩ = .ok (result, ⟨stop, ')' :: follow, v⟩) :=
    readFlags_chars (x := ')') (by simpa using hw) (Or.inr rfl) hlen (pos + 2)
  refine ⟨result, stop + 1, hb, ?_⟩
  have he : (⟨pos + 2, items.map FlagItem.char ++ ')' :: follow, v⟩ : Cursor).atEnd = false := by simp [Cursor.atEnd]
  have hne : result.isEmpty = false := by
    cases result with
    | nil =>
      rw [List.map_nil, eq_comm, List.nil_append, List.map_eq_nil_iff] at hb
      exact absurd hb hn
    | cons => rfl
  rw [readHead_flags items (Or.inr rfl), openFlags, he]
  simp only [hr, Bind.bind, Except.bind, Bool.false_eq_true, if_false, Cursor.at?_cons, beq_self_eq_true, if_true, hne,
    Cursor.bump_cons]

lemma readHead_numbered (ht : Tight v follow) (hq : follow.head? ≠ some '?') (pos : Nat) :
    readHead seen ⟨pos, '(' :: follow, v⟩ = .ok (.opened .numbered, seen, ⟨pos + 1, follow, v⟩) := by
  have hn : ∀ text : List Char, text.head? = some '?' → (⟨pos + 1, follow, v⟩ : Cursor).after? text = none := by
    intro text hh
    have hp : text.isPrefixOf follow = false := by
      rw [← Bool.not_eq_true, List.isPrefixOf_iff_prefix]
      rintro ⟨t, rfl⟩
      rw [List.head?_append, hh] at hq
      exact hq rfl
    rw [Cursor.after?, hp]
    rfl
  have hl : lookAroundMarks.findSome? (⟨pos + 1, follow, v⟩ : Cursor).after? = none := by
    rw [List.findSome?_eq_none_iff]
    intro mark hm
    apply hn
    simp only [lookAroundMarks, List.mem_cons, List.not_mem_nil, or_false] at hm
    rcases hm with rfl | rfl | rfl | rfl <;> rfl
  unfold readHead
  rw [Cursor.bumpSkip_cons ht]
  dsimp only
  rw [hl, hn _ rfl, hn _ rfl, hn _ rfl]

end Group

end TypedPattern.Regex
