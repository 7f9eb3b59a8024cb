import TypedPattern.Proofs.Reading.Escape
import TypedPattern.Proofs.Printing.Level

/-! What is read of a class. -/

namespace TypedPattern.Regex

/-- A text and what is printed of its beginning. They differ behind backslashes, and in blanks that are passed over. -/
inductive Like (v : Bool) : List Char → List Char → Prop
  | nil (cs : List Char) : Like v cs []
  | same {cs ps : List Char} (x : Char) : Like v cs ps → Like v (x :: cs) (x :: ps)
  | escape {cs ps : List Char} (a b : List Char) : Like v cs ps → Like v ('\\' :: (a ++ cs)) ('\\' :: (b ++ ps))
  | blanks {c : Cursor} {ps : List Char} : v = true → c.verbose = v → Like v c.skip.rest ps → Like v c.rest ps

lemma Cursor.skip_eq {c : Cursor} (h : Tight c.verbose c.rest) : c.skip = c :=
  Cursor.skip_of_tight h

namespace Like

variable {v : Bool} {cs ps : List Char}

lemma skip {c : Cursor} (h : Like c.verbose c.skip.rest ps) : Like c.verbose c.rest ps := by
  cases hv : c.verbose with
  | true =>
    rw [hv] at h
    exact .blanks rfl hv h
  | false =>
    rw [Cursor.skip_eq (hv ▸ tight_false), hv] at h
    exact h

lemma append (w : List Char) (h : Like v cs ps) : Like v (w ++ cs) (w ++ ps) := by
  induction w with
  | nil => exact h
  | cons x w ih => exact .same x ih

lemma head {p : Char} (h : Like v cs (p :: ps)) (ht : Tight v cs) : ∃ ds, cs = p :: ds := by
  generalize hq : p :: ps = qs at h
  induction h with
  | nil => cases hq
  | same x h ih =>
    cases hq
    exact ⟨_, rfl⟩
  | escape a b h ih =>
    cases hq
    exact ⟨_, rfl⟩
  | @blanks c qs hv hc h ih =>
    rw [Cursor.skip_eq (hc ▸ ht)] at ih
    exact ih ht hq

lemma head?_eq {p : Char} (h : Like v cs (p :: ps)) (ht : Tight v cs) : cs.head? = some p := by
  obtain ⟨ds, rfl⟩ := h.head ht
  rfl

lemma tail {p : Char} (h : Like false cs (p :: ps)) (hp : p ≠ '\\') : ∃ ds, cs = p :: ds ∧ Like false ds ps := by
  cases h with
  | same x h => exact ⟨_, rfl, h⟩
  | escape a b h => exact absurd rfl hp
  | blanks hv => cases hv

lemma drop {w : List Char} (h : Like false cs (w ++ ps)) (hw : '\\' ∉ w) : ∃ ds, cs = w ++ ds ∧ Like false ds ps := by
  induction w generalizing cs with
  | nil => exact ⟨cs, rfl, h⟩
  | cons x w ih =>
    obtain ⟨ds, rfl, hd⟩ := h.tail fun hx => hw (hx ▸ List.mem_cons_self ..)
    obtain ⟨es, rfl, he⟩ := ih hd fun hm => hw (List.mem_cons_of_mem _ hm)
    exact ⟨es, rfl, he⟩

lemma startsDoubled (h : Like false cs ps) (hd : ClassSet.startsDoubled ps = true) : ClassSet.startsDoubled cs = true := by
  match ps with
  | [] => cases hd
  | [p] => cases hd
  | p :: q :: r =>
    rw [ClassSet.startsDoubled, Bool.and_eq_true, beq_iff_eq] at hd
    obtain ⟨rfl, hp⟩ := hd
    have hne : p ≠ '\\' := by
      rintro rfl
      cases hp
    obtain ⟨ds, rfl, hds⟩ := h.tail hne
    obtain ⟨es, rfl, -⟩ := hds.tail hne
    rw [ClassSet.startsDoubled, hp, beq_self_eq_true]
    rfl

end Like

/-- A text up to some place is printed so. -/
def Prints (c d : Cursor) (ps : List Char) : Prop :=
  d.verbose = c.verbose ∧ ∀ qs, Like c.verbose d.rest qs → Like c.verbose c.rest (ps ++ qs)

namespace Prints

variable {c d e : Cursor} {ps qs : List Char}

lemma refl (c : Cursor) : Prints c c [] :=
  ⟨rfl, fun _ h => h⟩

lemma trans (h : Prints c d ps) (h' : Prints d e qs) : Prints c e (ps ++ qs) := by
  refine ⟨h'.1.trans h.1, fun rs hr => ?_⟩
  rw [List.append_assoc]
  apply h.2
  have := h'.2 rs
  rw [h.1] at this
  exact this hr

lemma skip (h : Prints c d ps) : Prints c d.skip ps := by
  refine ⟨d.verbose_skip.trans h.1, fun qs hq => h.2 qs ?_⟩
  rw [← h.1] at hq ⊢
  exact hq.skip

lemma bump {x : Char} {r : List Char} (h : c.rest = x :: r) : Prints c c.bump [x] := by
  refine ⟨c.verbose_bump, fun qs hq => ?_⟩
  rw [Cursor.rest_bump, h] at hq
  rw [h]
  exact .same x hq

lemma of_eq (hv : d.verbose = c.verbose) (h : c.rest = ps ++ d.rest) : Prints c d ps :=
  ⟨hv, fun _ hq => h ▸ hq.append ps⟩

lemma escape {r b : List Char} (h : c.rest = '\\' :: r) (hf : Follows c.bump d) : Prints c d ('\\' :: b) := by
  refine ⟨hf.verbose.trans c.verbose_bump, fun qs hq => ?_⟩
  obtain ⟨a, ha⟩ := hf.rest
  rw [Cursor.rest_bump, h, List.tail_cons] at ha
  rw [h, ← ha]
  exact .escape a b hq

end Prints

namespace Bracket

variable {c d : Cursor}

lemma readItem_ok {s : Syntax} {x : Char} {r : List Char} (hr : c.rest = x :: r) (ht : Tight c.verbose c.rest)
    (h : readItem c = .ok (s, d)) :
    (∃ l, s = .literal l ∧ Prints c d l.chars ∧ (l.Escaped ∨ l.Verbatim c.verbose ['\\']) ∧
      (l.form = .verbatim → l.char = x)) ∨
    (∃ u, s = .unicode u ∧ Prints c d u.chars ∧ u.kind.Written c.verbose) ∨
    (∃ p, s = .perl p ∧ Prints c d p.chars) ∨ ∃ span kind, s = .assertion span kind := by
  unfold readItem at h
  rw [hr] at h
  dsimp only at h
  split at h
  · rename_i hx
    subst hx
    obtain ⟨hf, hs⟩ := Escape.read_ok h
    cases s with
    | literal l =>
      obtain ⟨cs, hc⟩ := Literal.Escaped.chars hs
      refine Or.inl ⟨l, rfl, hc ▸ Prints.escape hr hf, Or.inl hs, fun hv => ?_⟩
      rw [Escape.Spelled, Literal.Escaped, hv] at hs
      cases hs
    | unicode u => exact Or.inr (Or.inl ⟨u, rfl, Prints.escape hr hf, hs⟩)
    | perl p =>
      obtain ⟨y, hc⟩ := p.chars_cons
      exact Or.inr (Or.inr (Or.inl ⟨p, rfl, hc ▸ Prints.escape hr hf⟩))
    | assertion span kind => exact Or.inr (Or.inr (Or.inr ⟨span, kind, rfl⟩))
    | _ => cases hs
  · rename_i hx
    cases h
    rw [hr] at ht
    exact Or.inl ⟨_, rfl, Prints.bump hr, Or.inr ⟨rfl, by simpa using hx, tight_cons.mp ht⟩, fun _ => rfl⟩

lemma itemLiteral_ok {s : Syntax} {l : Literal} (h : itemLiteral s = .ok l) : s = .literal l := by
  cases s <;> cases h
  rfl

lemma peekPast_bare {c : Cursor} (hv : c.verbose = false) : c.peekPast = c.rest.tail.head? := by
  unfold Cursor.peekPast
  rw [hv]
  rfl

/-- Without blanks a hyphen that is read as the next item makes no range in print either. -/
lemma not_joins {q : List Char} (hv : d.verbose = false)
    (hd : (!d.at? '-' || d.peekPast == some ']' || d.peekPast == some '-') = true) (hq : Like false d.rest q) :
    ClassSet.joins q = false := by
  rw [← Bool.not_eq_true]
  intro hj
  match q with
  | [] => cases hj
  | [x] =>
    unfold ClassSet.joins at hj
    split at hj <;> simp_all
  | x :: y :: qs =>
    unfold ClassSet.joins at hj
    split at hj
    · rename_i a b hab
      obtain ⟨rfl, rfl, rfl⟩ : x = '-' ∧ y = a ∧ qs = b := by simpa using hab
      obtain ⟨ds, hr, hds⟩ := hq.tail (by decide)
      have hy : d.peekPast = some y := by
        rw [peekPast_bare hv, hr, List.tail_cons]
        exact hds.head?_eq tight_false
      rw [hy] at hd
      simp_all [Cursor.at?]
    · cases hj

lemma written_first {l : Literal} {x : Char} {v : Bool} (hclose : x ≠ ']') (hopen : x ≠ '[')
    (hl : l.Escaped ∨ l.Verbatim v ['\\']) (hx : l.form = .verbatim → l.char = x) :
    l.Escaped ∨ l.Verbatim v ['\\', '[', ']'] := by
  rcases hl with hl | ⟨hform, hn, hs⟩
  · exact Or.inl hl
  · refine Or.inr ⟨hform, ?_, hs⟩
    rw [List.mem_singleton] at hn
    rw [hx hform] at hn ⊢
    simp [hn, hclose, hopen]

lemma tight_bumpSkip (c : Cursor) : Tight c.bumpSkip.verbose c.bumpSkip.rest := by
  rw [Cursor.verbose_bumpSkip, ← Cursor.verbose_bump]
  exact c.bump.tight_skip

lemma rest_of_at? {x : Char} (h : c.at? x = true) : ∃ r, c.rest = x :: r := by
  rw [Cursor.at?, beq_iff_eq] at h
  exact List.head?_eq_some_iff.mp h

/-- What a reader of one member of a class has read: the text of an item, which is legible unless what is behind it
goes on with it. -/
structure RangeReads (c d : Cursor) (s : ClassSet) : Prop where
  prints : Prints c d s.chars
  written : ClassSet.Written c.verbose (.item s.bare)
  legible : ∀ q, s.legible false q = s.isClear q
  parted : c.verbose = false → ∀ q, Like false d.rest q → s.isParted q = true

lemma single_reads {s : ClassSet} {first : Syntax} {x : Char} {r : List Char} (hr : c.rest = x :: r)
    (ht : Tight c.verbose c.rest) (hclose : x ≠ ']') (hopen : x ≠ '[') (hf : readItem c = .ok (first, d))
    (hs : itemSet first = .ok s)
    (hsingle : (!d.skip.at? '-' || d.skip.peekPast == some ']' || d.skip.peekPast == some '-') = true) :
    RangeReads c d.skip s := by
  have hparted : ∀ hv : d.skip.verbose = false, ∀ q, Like false d.skip.rest q → (!ClassSet.joins q) = true := by
    intro hv q hq
    rw [not_joins hv hsingle hq]
    rfl
  rcases readItem_ok hr ht hf with ⟨l, rfl, hp, hl⟩ | ⟨u, rfl, hp, hu⟩ | ⟨p, rfl, hp⟩ | ⟨span, kind, rfl⟩
  · cases hs
    refine ⟨hp.skip, ?_, fun _ => rfl, fun hv => hparted (hp.skip.1.trans hv)⟩
    rcases written_first hclose hopen hl.1 hl.2 with hl | hl
    · exact .escaped hl
    · exact .verbatim hl
  · cases hs
    exact ⟨hp.skip, .unicode hu, fun _ => rfl, fun hv => hparted (hp.skip.1.trans hv)⟩
  · cases hs
    exact ⟨hp.skip, .perl p, fun _ => rfl, fun hv => hparted (hp.skip.1.trans hv)⟩
  · cases hs

lemma pair_reads {lo hi : Literal} {span : Span} {e : Cursor} {x : Char} {r : List Char} (hr : c.rest = x :: r)
    (ht : Tight c.verbose c.rest) (hclose : x ≠ ']') (hopen : x ≠ '[') (hlo : readItem c = .ok (.literal lo, e))
    (hat : e.skip.at? '-' = true) (hb : e.skip.peekPast ≠ some ']') (hh : e.skip.peekPast ≠ some '-')
    (hend : ¬e.skip.bumpSkip.atEnd = true) (hhi : readItem e.skip.bumpSkip = .ok (.literal hi, d))
    (hle : lo.char ≤ hi.char) : RangeReads c d (.range span lo hi) := by
  obtain ⟨l, hl, hp, hlw, hlx⟩ := (readItem_ok hr ht hlo).resolve_right (by simp)
  cases hl
  obtain ⟨t, hhyphen⟩ := rest_of_at? hat
  obtain ⟨y, t', hy⟩ := List.exists_cons_of_ne_nil (Cursor.rest_ne_nil_of_atEnd hend)
  obtain ⟨m, hm, hq, hmw, hmx⟩ := (readItem_ok hy (tight_bumpSkip e.skip) hhi).resolve_right (by simp)
  cases hm
  rw [Cursor.verbose_bumpSkip, hp.skip.1] at hmw
  have hprints := (hp.skip.trans (Prints.bump hhyphen).skip).trans hq
  rw [List.append_assoc] at hprints
  refine ⟨hprints, .range (written_first hclose hopen hlw hlx) hmw hle, fun _ => rfl, fun hv q _ => ?_⟩
  rw [← hp.skip.1] at hv
  rw [ClassSet.isParted]
  by_cases hform : hi.form = .verbatim
  · have hpeek : e.skip.peekPast = some hi.char := by
      have hbump : e.skip.bumpSkip = e.skip.bump :=
        Cursor.skip_eq (by rw [Cursor.verbose_bump, hv]; exact tight_false)
      rw [hbump, Cursor.rest_bump] at hy
      rw [peekPast_bare hv, hmx hform, hy]
      rfl
    rw [hpeek] at hb hh
    simp_all
  · simp [hform]

lemma readRange_ok {opening : Opening} {s : ClassSet} {x : Char} {r : List Char} (hr : c.rest = x :: r)
    (ht : Tight c.verbose c.rest) (hclose : x ≠ ']') (hopen : x ≠ '[') (h : readRange opening c = .ok (s, d)) :
    RangeReads c d s := by
  unfold readRange at h
  obtain ⟨⟨first, c₁⟩, hf, h⟩ := bind_eq_ok.mp h
  dsimp only at h
  split_ifs at h with hend hsingle hend'
  · obtain ⟨t, hs, h⟩ := bind_eq_ok.mp h
    cases h
    exact single_reads hr ht hclose hopen hf hs hsingle
  · obtain ⟨⟨last, c₂⟩, hlast, h⟩ := bind_eq_ok.mp h
    obtain ⟨lo, hlo, h⟩ := bind_eq_ok.mp h
    obtain ⟨hi, hhi, h⟩ := bind_eq_ok.mp h
    dsimp only at h hhi hlast
    split_ifs at h with hle
    cases h
    obtain rfl := itemLiteral_ok hlo
    obtain rfl := itemLiteral_ok hhi
    simp only [Bool.or_eq_true, Bool.not_eq_true', beq_iff_eq, not_or, Bool.not_eq_false] at hsingle
    obtain ⟨⟨hat, hb⟩, hh⟩ := hsingle
    exact pair_reads hr ht hclose hopen hf hat hb hh hend' hlast hle

lemma leadingHyphens_ok {start k : Nat} {u w : Union} {xs : List ClassSet} (hk : c.rest.length ≤ k) (hn : c.rest ≠ [])
    (ht : Tight c.verbose c.rest) (hu : u.Holds xs) (h : leadingHyphens start k u c = .ok (w, d)) : ∃ n,
      w.Holds (xs ++ List.replicate n .hyphen) ∧ Prints c d (List.replicate n '-') ∧
        Tight d.verbose d.rest ∧ d.rest.head? ≠ some '-' ∧ (n = 0 → d = c) := by
  induction k generalizing c u xs with
  | zero => exact absurd (List.length_eq_zero_iff.mp (Nat.le_zero.mp hk)) hn
  | succ k ih =>
    rw [leadingHyphens] at h
    split_ifs at h with hat
    · dsimp only at h
      split_ifs at h with hend
      · cases h
      · obtain ⟨t, hc⟩ := rest_of_at? hat
        have hlen := c.length_bumpSkip
        have hp : (u.push (.literal ⟨c.spanChar, .verbatim, '-'⟩)).Holds (xs ++ [.hyphen]) := hu.push rfl
        obtain ⟨n, hw, hprints, htight, hhead, -⟩ := ih (by omega) (Cursor.rest_ne_nil_of_atEnd hend) (tight_bumpSkip c)
          hp h
        refine ⟨n + 1, by simpa [List.replicate_succ] using hw, ?_, htight, hhead, by simp⟩
        rw [List.replicate_succ]
        exact (Prints.bump hc).skip.trans hprints
    · cases h
      refine ⟨0, by simpa using hu, Prints.refl _, ht, ?_, fun _ => rfl⟩
      simpa [Cursor.at?] using hat

lemma caret_reads {r : List Char} (hr : c.rest = '[' :: r)
    (hd : (if c.bumpSkip.at? '^' = true then c.bumpSkip.bumpSkip else c.bumpSkip) = d) :
    Prints c d (openBracket (c.bumpSkip.at? '^')) ∧ Tight d.verbose d.rest ∧
      (c.bumpSkip.at? '^' = false → d.rest.head? ≠ some '^') := by
  subst hd
  cases hat : c.bumpSkip.at? '^' with
  | true =>
    obtain ⟨t, ht⟩ := rest_of_at? hat
    exact ⟨(Prints.bump hr).skip.trans (Prints.bump ht).skip, tight_bumpSkip _, fun hf => nomatch hf⟩
  | false => exact ⟨(Prints.bump hr).skip, tight_bumpSkip c, fun _ => by simpa [Cursor.at?] using hat⟩

lemma readOpening_ok {opening : Opening} {u : Union} {r : List Char} (hr : c.rest = '[' :: r)
    (h : readOpening c = .ok (opening, u, d)) : ∃ lead, ClassSet.Lead lead ∧ u.Holds lead ∧
      Prints c d (openBracket opening.negated ++ ClassSet.charsOfAll lead) ∧ Tight d.verbose d.rest ∧
      ClassSet.GoesOn opening.negated lead d.rest := by
  unfold readOpening at h
  dsimp only at h
  generalize hc₁ : (if c.bumpSkip.at? '^' = true then c.bumpSkip.bumpSkip else c.bumpSkip) = c₁ at h
  obtain ⟨hopen, htight, hcaret⟩ := caret_reads hr hc₁
  split_ifs at h with hend hend'
  · cases h
  · cases h
  · obtain ⟨⟨w, e⟩, hl, h⟩ := bind_eq_ok.mp h
    obtain ⟨n, hw, hp, htight', hhead, hzero⟩ := leadingHyphens_ok (Nat.le_refl _) (Cursor.rest_ne_nil_of_atEnd hend')
      htight (holds_startingAt _) hl
    rw [List.nil_append] at hw
    have hempty : n = 0 → w.items = [] := by
      rintro rfl
      exact List.map_eq_nil_iff.mp hw
    dsimp only at h
    split_ifs at h with hcloser hend''
    · cases h
    · -- a closing bracket is a literal only where no hyphens have been read
      cases h
      rw [Bool.and_eq_true, List.isEmpty_iff] at hcloser
      have hn : n = 0 := by
        have hlen := congrArg List.length hw
        rw [hcloser.1] at hlen
        simpa using hlen.symm
      obtain ⟨t, ht⟩ := rest_of_at? hcloser.2
      subst hn
      obtain rfl := hzero rfl
      have hwc : (w.push (.literal ⟨e.spanChar, .verbatim, ']'⟩)).Holds [ClassSet.closer] :=
        (show w.Holds [] from hw).push rfl
      refine ⟨[.closer], .closer, hwc, hopen.trans (Prints.bump ht).skip, tight_bumpSkip _, ?_⟩
      exact ⟨fun hn => absurd rfl hn, by simp, by simp⟩
    · cases h
      have hn : List.replicate n ClassSet.hyphen = [] → n = 0 := by simp
      refine ⟨List.replicate n .hyphen, .hyphens n, hw, ?_, htight', fun _ => hhead, fun hl => ?_, fun hl hneg => ?_⟩
      · rw [charsOfAll_hyphens]
        exact hopen.trans hp
      · rw [hempty (hn hl)] at hcloser
        simpa [Cursor.at?] using hcloser
      · rw [hzero (hn hl)]
        exact hcaret hneg

end Bracket

namespace ClassSet

lemma Written.legible_of_inside {v : Bool} {x : ClassSet} (h : Written v (.item x)) {b : List Char}
    (hx : x.legible false b = true) : x.legible true b = true := by
  cases h with
  | bracketed => exact hx
  | _ =>
    simp only [legible, Bool.false_and, Bool.false_or] at hx ⊢
    rw [hx, Bool.or_true]

lemma Written.legibleAll_of_inside {v : Bool} {xs : List ClassSet} {p : Part} (h : Written v p) (hp : p = .items xs)
    (b : List Char) (hx : legibleAll false b xs = true) (atStart : Bool) : legibleAll atStart b xs = true := by
  induction h generalizing xs atStart with
  | nil =>
    cases hp
    rfl
  | @cons x ys hw hws ih ihs =>
    cases hp
    rw [legibleAll, Bool.false_and, Bool.and_eq_true] at hx
    rw [legibleAll, ihs rfl hx.2, Bool.and_true]
    cases atStart with
    | true => exact hw.legible_of_inside hx.1
    | false => exact hx.1
  | _ => cases hp

lemma Written.legibleAll_of_lead {v : Bool} {lead xs : List ClassSet} {b : List Char} (h : Written v (.items xs))
    (hl : Lead lead) (hx : legibleAll false b xs = true) : legibleAll true b (lead ++ xs) = true := by
  cases hl with
  | hyphens n =>
    induction n with
    | zero => exact h.legibleAll_of_inside rfl b hx true
    | succ n ih =>
      rw [List.replicate_succ, List.cons_append, legibleAll]
      exact ih
  | closer =>
    rw [List.singleton_append, legibleAll]
    exact hx

end ClassSet

namespace Bracket

variable {c d : Cursor}

/-- What is left of a class, from some place up to another: items, and operators with their right sides. -/
structure Remains (pending : Pending) (u : Union) (c d : Cursor) (inner : ClassSet) (zs : List ClassSet)
    (ms : List (SetOperator × List ClassSet)) : Prop where
  items : ClassSet.Written c.verbose (.items zs)
  more : ClassSet.Written c.verbose (.more ms)
  prints : Prints c d (ClassSet.charsOfAll zs ++ (ClassSet.charsOfMore ms ++ [']']))
  tree : ∀ xs, u.Holds xs → ∃ t, t.bare = ClassSet.ofItems (xs ++ zs) ∧
    inner.bare = ClassSet.operate (close pending t).bare ms
  legible : c.verbose = false → ClassSet.legibleAll false (ClassSet.charsOfMore ms ++ [']']) zs = true ∧
    ClassSet.legibleMore [']'] ms = true

namespace Remains

variable {e : Cursor} {pending : Pending} {u : Union} {inner : ClassSet} {zs : List ClassSet}
  {ms : List (SetOperator × List ClassSet)}

lemma nil (hp : Prints c d [']']) : Remains pending u c d (close pending u.toSet) [] [] :=
  ⟨.nil, .last, hp, fun xs hu => ⟨u.toSet, by rw [hu.toSet, List.append_nil], rfl⟩, fun _ => ⟨rfl, rfl⟩⟩

lemma push {item : ClassSet} (h : Remains pending (u.push item) e d inner zs ms) (hp : Prints c e item.chars)
    (hw : ClassSet.Written c.verbose (.item item.bare))
    (hl : c.verbose = false → ∀ q, Like false e.rest q → item.legible false q = true) :
    Remains pending u c d inner (item.bare :: zs) ms := by
  obtain ⟨hitems, hmore, hprints, htree, hlegible⟩ := h
  rw [hp.1] at hitems hmore hlegible
  refine ⟨.cons hw hitems, hmore, ?_, fun xs hu => ?_, fun hv => ⟨?_, (hlegible hv).2⟩⟩
  · rw [ClassSet.charsOfAll, ClassSet.chars_bare, List.append_assoc]
    exact hp.trans hprints
  · obtain ⟨t, ht, hi⟩ := htree _ (hu.push rfl)
    exact ⟨t, by rw [ht, List.append_assoc]; rfl, hi⟩
  · have hq := hprints.2 [] (.nil _)
    rw [List.append_nil, hp.1, hv] at hq
    rw [ClassSet.legibleAll, ClassSet.legible_bare, hl hv _ hq, Bool.false_and, (hlegible hv).1]
    rfl

lemma operate {o : SetOperator} {pos : Nat}
    (h : Remains (some (o, close pending u.toSet)) (Union.startingAt pos) e d inner zs ms) (hp : Prints c e o.chars) :
    Remains pending u c d inner [] ((o, zs) :: ms) := by
  obtain ⟨hitems, hmore, hprints, htree, hlegible⟩ := h
  rw [hp.1] at hitems hmore hlegible
  refine ⟨.nil, .operator hitems hmore, ?_, fun xs hu => ⟨u.toSet, ?_, ?_⟩, fun hv => ⟨rfl, ?_⟩⟩
  · rw [ClassSet.charsOfMore_cons, List.append_assoc, List.append_assoc]
    exact hp.trans hprints
  · rw [hu.toSet, List.append_nil]
  · obtain ⟨t, ht, hi⟩ := htree [] (holds_startingAt pos)
    rw [hi, ClassSet.operate, close, ClassSet.bare, ht]
    rfl
  · rw [ClassSet.legibleMore, (hlegible hv).1, (hlegible hv).2]
    rfl

lemma body {negated : Bool} {lead : List ClassSet} {w : Union} (h : Remains none w e d inner zs ms)
    (hl : ClassSet.Lead lead) (hu : w.Holds lead)
    (hp : Prints c e (openBracket negated ++ ClassSet.charsOfAll lead)) (ht : Tight e.verbose e.rest)
    (hg : ClassSet.GoesOn negated lead e.rest) : ClassSet.Written c.verbose (.body negated inner.bare) ∧
      Prints c d (openBracket negated ++ inner.chars ++ [']']) ∧ (c.verbose = false → inner.legible true [']'] = true) := by
  obtain ⟨hitems, hmore, hprints, htree, hlegible⟩ := h
  obtain ⟨t, hb, hi⟩ := htree lead hu
  rw [close, hb] at hi
  have hchars : inner.chars = ClassSet.charsOfAll lead ++ (ClassSet.charsOfAll zs ++ ClassSet.charsOfMore ms) := by
    rw [← ClassSet.chars_bare, hi, ClassSet.chars_operate, ClassSet.chars_ofItems, ClassSet.charsOfAll_append,
      List.append_assoc]
  have hhead : (ClassSet.charsOfAll zs ++ ClassSet.charsOfMore ms ++ [']']).head? = e.rest.head? := by
    have hq := hprints.2 [] (.nil _)
    rw [List.append_nil, ← List.append_assoc] at hq
    cases hz : ClassSet.charsOfAll zs ++ ClassSet.charsOfMore ms with
    | nil =>
      rw [hz] at hq
      exact (hq.head?_eq ht).symm
    | cons z r =>
      rw [hz] at hq
      exact (hq.head?_eq ht).symm
  rw [hp.1] at hitems hmore hlegible
  refine ⟨?_, ?_, fun hv => ?_⟩
  · rw [hi]
    obtain ⟨h1, h2, h3⟩ := hg
    exact .body hl hitems hmore ⟨hhead ▸ h1, hhead ▸ h2, hhead ▸ h3⟩
  · have := hp.trans hprints
    rw [hchars]
    simpa only [List.append_assoc] using this
  · rw [hv] at hitems
    rw [← ClassSet.legible_bare, hi, ClassSet.legible_operate, ClassSet.legible_ofItems, (hlegible hv).2, Bool.and_true]
    exact hitems.legibleAll_of_lead hl (hlegible hv).1

end Remains

lemma operator?_ok {o : SetOperator} (h : operator? c = some o) : Prints c c.bump.bump o.chars := by
  unfold operator? at h
  split at h <;> cases h
  all_goals
    rename_i t ht
    refine Prints.of_eq (by simp) ?_
    rw [Cursor.rest_bump, Cursor.rest_bump, ht]
    rfl

lemma not_doubled {cs : List Char} (h : operator? c = none) (hl : Like false c.rest cs) :
    ClassSet.startsDoubled cs = false := by
  rw [← Bool.not_eq_true]
  intro hd
  have hd := hl.startsDoubled hd
  match hr : c.rest with
  | [] => simp [hr, ClassSet.startsDoubled] at hd
  | [x] => simp [hr, ClassSet.startsDoubled] at hd
  | x :: y :: r =>
    rw [operator?_pair hr] at h
    rw [hr, ClassSet.startsDoubled, Bool.and_eq_true, beq_iff_eq] at hd
    rw [if_pos hd.1] at h
    rw [h] at hd
    cases hd.2

lemma startsDoubled_bracket (cs : List Char) : ClassSet.startsDoubled ('[' :: cs) = false := by
  cases cs with
  | nil => rfl
  | cons x cs => exact Bool.and_false _

lemma not_spelledNamed {cs : List Char} (h : readAscii? c = none) (hl : Like false c.rest cs) :
    ClassSet.isSpelledNamed cs = false := by
  rw [← Bool.not_eq_true]
  intro hs
  obtain ⟨kind, negated, hp⟩ : ∃ kind negated, (ClassSet.ascii ⟨0, 0⟩ kind negated).chars <+: cs := by
    obtain ⟨kind, -, hk⟩ := List.any_eq_true.mp hs
    rcases Bool.or_eq_true_iff.mp hk with hk | hk
    · exact ⟨kind, false, List.isPrefixOf_iff_prefix.mp hk⟩
    · exact ⟨kind, true, List.isPrefixOf_iff_prefix.mp hk⟩
  obtain ⟨t, rfl⟩ := hp
  have hplain : '\\' ∉ (ClassSet.ascii ⟨0, 0⟩ kind negated).chars := by
    cases kind <;> cases negated <;> decide
  obtain ⟨ds, hr, -⟩ := hl.drop hplain
  obtain ⟨pos, rest, v⟩ := c
  obtain rfl : rest = _ := hr
  obtain ⟨sp, stop, ha⟩ : ∃ sp stop, readAscii? ⟨pos, _ ++ ds, v⟩ = some (.ascii sp kind negated, ⟨stop, ds, v⟩) :=
    readAscii?_chars kind negated pos
  rw [ha] at h
  cases h

/-- A class inside of a class is legible where it is not read as one with a name. -/
lemma legible_bracketed {span : Span} {negated : Bool} {inner : ClassSet} (ha : readAscii? c = none)
    (hv : c.verbose = false) (hp : Prints c d (openBracket negated ++ inner.chars ++ [']']))
    (hl : inner.legible true [']'] = true) (q : List Char) :
    (ClassSet.bracketed span negated inner).legible false q = true := by
  have hlike := hp.2 [] (.nil _)
  rw [List.append_nil, hv] at hlike
  rw [ClassSet.legible, hl, ClassSet.isClear, ClassSet.isParted, ClassSet.chars, not_spelledNamed ha hlike]
  cases negated <;> simp [openBracket, startsDoubled_bracket]

lemma readRest_ok {k : Nat} {opening : Opening} {pending : Pending} {u : Union} {s : ClassSet}
    (h : readRest k opening pending u c = .ok (s, d)) : ∃ span inner zs ms,
      s = .bracketed span opening.negated inner ∧ Remains pending u c d inner zs ms := by
  induction k generalizing opening pending u c s d with
  | zero => cases h
  | succ k ih =>
    cases hc : c.skip.rest with
    | nil =>
      rw [readRest_nil hc] at h
      cases h
    | cons x r =>
      rw [readRest_cons hc] at h
      have hskip : Prints c c.skip [] := (Prints.refl c).skip
      have htight : Tight c.skip.verbose c.skip.rest := by
        rw [Cursor.verbose_skip]
        exact c.tight_skip
      split_ifs at h with hclose hopen
      · cases h
        subst hclose
        exact ⟨_, _, [], [], rfl, .nil (hskip.trans (Prints.bump hc))⟩
      · subst hopen
        split at h
        · rename_i item e ha
          obtain ⟨kind, negated, rfl, hv, hr⟩ := readAscii?_eq_some ha
          obtain ⟨span, inner, zs, ms, hs, hrem⟩ := ih h
          refine ⟨span, inner, _ :: zs, ms, hs, hrem.push (hskip.trans (Prints.of_eq hv hr)) (.ascii kind negated) ?_⟩
          intro _ q _
          rfl
        · -- a class inside of this one: its own rest is read first, and then the rest of this one
          rename_i ha
          obtain ⟨⟨o, v, e⟩, ho, h⟩ := bind_eq_ok.mp h
          dsimp only at h
          obtain ⟨⟨item, f⟩, hi, h⟩ := bind_eq_ok.mp h
          dsimp only at h
          obtain ⟨lead, hl, hu, hp, ht, hg⟩ := readOpening_ok hc ho
          obtain ⟨span₁, inner₁, zs₁, ms₁, rfl, hrem₁⟩ := ih hi
          obtain ⟨hw, hprints, hlegible⟩ := hrem₁.body hl hu (hskip.trans hp) ht hg
          obtain ⟨span, inner, zs, ms, hs, hrem⟩ := ih h
          refine ⟨span, inner, _ :: zs, ms, hs, hrem.push hprints (.bracketed hw) fun hv q hq => ?_⟩
          rw [Cursor.skip_eq (by rw [hv]; exact tight_false)] at ha
          exact legible_bracketed ha hv hprints (hlegible hv) q
      · split at h
        · rename_i o ho
          obtain ⟨span, inner, zs, ms, hs, hrem⟩ := ih h
          exact ⟨span, inner, [], _, hs, hrem.operate (hskip.trans (operator?_ok ho))⟩
        · rename_i ho
          obtain ⟨⟨item, e⟩, hi, h⟩ := bind_eq_ok.mp h
          dsimp only at h
          obtain ⟨hp, hw, hclear, hparted⟩ := readRange_ok hc htight hclose hopen hi
          rw [Cursor.verbose_skip] at hw hparted
          obtain ⟨span, inner, zs, ms, hs, hrem⟩ := ih h
          refine ⟨span, inner, _ :: zs, ms, hs, hrem.push (hskip.trans hp) hw fun hv q hq => ?_⟩
          -- no operator came next, so that none comes next in print
          have hlike := hp.2 q
          rw [Cursor.verbose_skip, hv] at hlike
          rw [hclear, ClassSet.isClear, not_doubled ho (hlike hq), hparted hv q hq]
          rfl

/-- What is read of a class is written so, and without blanks it is legible. -/
theorem read_ok {s : Syntax} {r : List Char} (hr : c.rest = '[' :: r) (h : read c = .ok (s, d)) :
    ∃ span negated inner, s = .bracketed span negated inner ∧ ClassSet.Written c.verbose (.body negated inner.bare) ∧
      Prints c d s.chars ∧ (c.verbose = false → inner.legible true [']'] = true) := by
  rw [read_eq] at h
  obtain ⟨⟨opening, u, e⟩, ho, h⟩ := bind_eq_ok.mp h
  obtain ⟨⟨t, f⟩, ht, he⟩ := map_eq_ok.mp h
  cases he
  obtain ⟨lead, hl, hu, hp, ht', hg⟩ := readOpening_ok hr ho
  obtain ⟨span, inner, zs, ms, rfl, hrem⟩ := readRest_ok ht
  obtain ⟨hw, hprints, hlegible⟩ := hrem.body hl hu hp ht' hg
  exact ⟨span, opening.negated, inner, rfl, hw, hprints, hlegible⟩

end Bracket

end TypedPattern.Regex
