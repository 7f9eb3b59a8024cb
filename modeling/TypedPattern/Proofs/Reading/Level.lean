import TypedPattern.Proofs.Reading.Bracket
import TypedPattern.Proofs.Reading.Group

/-! What is read of expressions: trees that are written and, where verbose mode is never on, legible. -/

namespace TypedPattern.Regex

open TypedPattern.Regex.Group (CaptureName)

namespace Syntax

mutual

/-- Whether verbose mode is never turned on. -/
def isPlain : Syntax → Bool
  | .flags _ items => !Regex.verboseAfter items false
  | .repetition _ _ _ _ body => body.isPlain
  | .group _ kind body => !kind.verbose false && body.isPlain
  | .alternation _ branches => isPlainAll branches
  | .concat _ items => isPlainAll items
  | _ => true

def isPlainAll : List Syntax → Bool
  | [] => true
  | x :: xs => x.isPlain && isPlainAll xs

end

lemma isPlain_ofItems (s : Span) (xs : List Syntax) : (ofItems s xs).isPlain = isPlainAll xs := by
  rcases xs with _ | ⟨x, _ | ⟨y, r⟩⟩
  · simp [ofItems, isPlain, isPlainAll]
  · simp [ofItems, isPlainAll]
  · change (concat s (x :: y :: r)).isPlain = _
    rw [isPlain]

lemma isPlainAll_append (xs ys : List Syntax) : isPlainAll (xs ++ ys) = (isPlainAll xs && isPlainAll ys) := by
  induction xs with
  | nil => rfl
  | cons x xs ih => rw [List.cons_append, isPlainAll, isPlainAll, ih, Bool.and_assoc]

lemma legibleAll_append (xs ys : List Syntax) : legibleAll (xs ++ ys) = (legibleAll xs && legibleAll ys) := by
  induction xs with
  | nil => rfl
  | cons x xs ih => rw [List.cons_append, legibleAll, legibleAll, ih, Bool.and_assoc]

lemma namesOfAll_singleton (x : Syntax) : namesOfAll [x] = x.names := by
  rw [namesOfAll_cons]
  exact List.append_nil _

lemma namesOfAll_append (xs ys : List Syntax) : namesOfAll (xs ++ ys) = namesOfAll xs ++ namesOfAll ys := by
  induction xs with
  | nil => rfl
  | cons x xs ih => rw [List.cons_append, namesOfAll_cons, namesOfAll_cons, ih, List.append_assoc]

mutual

lemma isPlain_bare : ∀ s : Syntax, s.bare.isPlain = s.isPlain
  | .empty _ => rfl
  | .flags _ items => by rw [bare, isPlain, isPlain, verboseAfter_eq (FlagItem.map_bare_bare items)]
  | .literal _ => rfl
  | .dot _ => rfl
  | .assertion _ _ => rfl
  | .unicode _ => rfl
  | .perl _ => rfl
  | .bracketed _ _ _ => rfl
  | .repetition _ _ _ _ body => by rw [bare, isPlain, isPlain, isPlain_bare body]
  | .group _ kind body => by rw [bare, isPlain, isPlain, isPlain_bare body, GroupKind.verbose_bare]
  | .alternation _ branches => by rw [bare, isPlain, isPlain, isPlainAll_bare branches]
  | .concat _ items => by rw [bare, isPlain, isPlain, isPlainAll_bare items]

lemma isPlainAll_bare : ∀ xs : List Syntax, isPlainAll (bareAll xs) = isPlainAll xs
  | [] => rfl
  | x :: xs => by rw [bareAll, isPlainAll, isPlainAll, isPlain_bare x, isPlainAll_bare xs]

end

lemma verboseAfter_of_isPlain {x : Syntax} (h : x.isPlain = true) : x.verboseAfter false = false := by
  cases x with
  | flags s items => simpa [isPlain, verboseAfter] using h
  | _ => rfl

variable {v w : Bool} {x : Syntax} {xs : List Syntax}

lemma Written.snoc {p : Part} (h : Written p) (hp : p = .items v xs w) (hx : Written (.item w x)) :
    Written (.items v (xs ++ [x]) (x.verboseAfter w)) := by
  induction h generalizing v xs with
  | nil =>
    cases hp
    exact .cons hx (.nil _)
  | cons hy hys ih ihs =>
    cases hp
    exact .cons hy (ihs rfl)
  | _ => cases hp

lemma Written.unsnoc (h : Written (.items v (xs ++ [x]) w)) :
    ∃ u, Written (.items v xs u) ∧ Written (.item u x) ∧ w = x.verboseAfter u := by
  induction xs generalizing v with
  | nil =>
    cases h with
    | cons hx hxs =>
      cases hxs
      exact ⟨v, .nil v, hx, rfl⟩
  | cons y ys ih =>
    cases h with
    | cons hy hys =>
      obtain ⟨u, h1, h2, h3⟩ := ih hys
      exact ⟨u, .cons hy h1, h2, h3⟩

lemma Written.level_single (h : Written (.branches v [x] w)) : Written (.level v x) := by
  cases h with
  | last hxs => exact .single hxs
  | next hxs hbs => cases hbs

end Syntax

open TypedPattern.Regex.Syntax (Written isPlainAll legibleAll namesOfAll)

/-- What is read where one item stands. -/
structure ItemReads (seen seen' : List CaptureName) (c d : Cursor) (y : Syntax) : Prop where
  written : Written (.item c.verbose y)
  verbose : d.verbose = y.verboseAfter c.verbose
  names : seen'.map (·.name) = seen.map (·.name) ++ y.names
  legible : c.verbose = false → y.isPlain = true → y.legible = true
  mark : y.isGreedy = true → d.rest.head? ≠ some '?'

/-- What has been read of a group: finished branches `bs` and items `xs` of the current one, which begins in the verbose
mode `m`. -/
structure Level.Reads (v : Bool) (base : List (List Char)) (l : Level) (seen : List CaptureName) (c : Cursor)
    (bs xs : List Syntax) (m : Bool) : Prop where
  holds : l.Holds bs xs
  items : Written (.items m xs c.verbose)
  branches : ∀ cs u, Written (.branches m cs u) → Written (.branches v (bs ++ cs) u)
  names : seen.map (·.name) = base ++ (namesOfAll bs ++ namesOfAll xs)
  verbose : v = false → isPlainAll bs = true → isPlainAll xs = true → c.verbose = false
  legible : v = false → isPlainAll bs = true → isPlainAll xs = true → legibleAll bs = true ∧ legibleAll xs = true
  mark : ∀ x ∈ xs.getLast?, x.isGreedy = true → c.verbose = false → c.rest.head? ≠ some '?'

/-- What a group is that has been read. -/
structure Ended (v : Bool) (base : List (List Char)) (seen : List CaptureName) (tree : Syntax) : Prop where
  written : Written (.level v tree.bare)
  names : seen.map (·.name) = base ++ tree.bare.names
  legible : v = false → tree.bare.isPlain = true → tree.bare.legible = true

namespace Level.Reads

variable {v m : Bool} {base : List (List Char)} {l : Level} {seen seen' : List CaptureName} {c d : Cursor}
  {bs xs : List Syntax}

lemma startingAt (pos : Nat) (c : Cursor) :
    (Level.startingAt pos).Reads c.verbose (seen.map (·.name)) seen c [] [] c.verbose :=
  ⟨Level.holds_startingAt pos, .nil _, fun _ _ h => h, by simp [namesOfAll, Syntax.capturesOfAll], fun h _ _ => h,
    fun _ _ _ => ⟨rfl, rfl⟩, by simp⟩

lemma skip (h : l.Reads v base seen c bs xs m) : l.Reads v base seen c.skip bs xs m := by
  refine ⟨h.holds, ?_, h.branches, h.names, ?_, h.legible, ?_⟩
  · rw [Cursor.verbose_skip]
    exact h.items
  · rw [Cursor.verbose_skip]
    exact h.verbose
  · rw [Cursor.verbose_skip]
    intro x hx hg hv
    rw [Cursor.skip_eq (by rw [hv]; exact tight_false)]
    exact h.mark x hx hg hv

lemma push (h : l.Reads v base seen c bs xs m) {y : Syntax} (hy : ItemReads seen seen' c d y.bare) :
    (l.push y).Reads v base seen' d bs (xs ++ [y.bare]) m := by
  have hplain : isPlainAll (xs ++ [y.bare]) = true → isPlainAll xs = true ∧ y.bare.isPlain = true := by
    intro hp
    rw [Syntax.isPlainAll_append, Bool.and_eq_true] at hp
    simpa [isPlainAll] using hp
  refine ⟨h.holds.push rfl, ?_, h.branches, ?_, fun hv hb hx => ?_, fun hv hb hx => ?_, ?_⟩
  · rw [hy.verbose]
    exact h.items.snoc rfl hy.written
  · rw [hy.names, h.names, Syntax.namesOfAll_append, Syntax.namesOfAll_singleton, List.append_assoc, List.append_assoc]
  · rw [hy.verbose, h.verbose hv hb (hplain hx).1, Syntax.verboseAfter_of_isPlain (hplain hx).2]
  · obtain ⟨h1, h2⟩ := h.legible hv hb (hplain hx).1
    refine ⟨h1, ?_⟩
    rw [Syntax.legibleAll_append, h2, legibleAll, hy.legible (h.verbose hv hb (hplain hx).1) (hplain hx).2]
    rfl
  · rw [List.getLast?_concat]
    rintro x ⟨⟩ hg _
    exact hy.mark hg

lemma split (h : l.Reads v base seen c bs xs m) (hd : d.verbose = c.verbose) (stop : Nat) :
    (l.split stop).Reads v base seen d (bs ++ [.ofItems ⟨0, 0⟩ xs]) [] d.verbose := by
  have hplain : isPlainAll (bs ++ [.ofItems ⟨0, 0⟩ xs]) = true → isPlainAll bs = true ∧ isPlainAll xs = true := by
    intro hp
    rw [Syntax.isPlainAll_append, Bool.and_eq_true] at hp
    simpa [isPlainAll, Syntax.isPlain_ofItems] using hp
  refine ⟨h.holds.split stop, .nil _, fun cs u hc => ?_, ?_, fun hv hb _ => ?_, fun hv hb _ => ⟨?_, rfl⟩, by simp⟩
  · rw [List.append_assoc]
    rw [hd] at hc
    exact h.branches _ u (.next h.items hc)
  · rw [h.names, Syntax.namesOfAll_append, Syntax.namesOfAll_singleton, Syntax.names_ofItems]
    exact congrArg _ (List.append_nil _).symm
  · rw [hd]
    exact h.verbose hv (hplain hb).1 (hplain hb).2
  · obtain ⟨h1, h2⟩ := h.legible hv (hplain hb).1 (hplain hb).2
    rw [Syntax.legibleAll_append, h1, legibleAll, Syntax.legible_ofItems, h2]
    rfl

lemma finish (h : l.Reads v base seen c bs xs m) (stop : Nat) : Ended v base seen (l.toSyntax stop) := by
  have hw := h.branches _ _ (.last h.items)
  cases hb : bs with
  | nil =>
    rw [hb] at hw
    have hholds := h.holds
    rw [hb] at hholds
    have ht := hholds.toSyntax_single stop
    refine ⟨?_, ?_, fun hv hp => ?_⟩
    · rw [ht]
      exact hw.level_single
    · rw [ht, Syntax.names_ofItems, h.names, hb]
      rfl
    · rw [ht, Syntax.isPlain_ofItems] at hp
      rw [ht, Syntax.legible_ofItems]
      exact (h.legible hv (by rw [hb]; rfl) hp).2
  | cons b rest =>
    have ht := h.holds.toSyntax_alternation (by simp [hb]) stop
    obtain ⟨b', rest', hne⟩ : ∃ b' rest', bs ++ [.ofItems ⟨0, 0⟩ xs] = b :: b' :: rest' := by
      obtain ⟨b', rest', he⟩ := List.exists_cons_of_ne_nil (List.append_ne_nil_of_right_ne_nil rest
        (List.cons_ne_nil (Syntax.ofItems ⟨0, 0⟩ xs) []))
      exact ⟨b', rest', by rw [hb, List.cons_append, he]⟩
    refine ⟨?_, ?_, fun hv hp => ?_⟩
    · rw [ht]
      rw [hne] at hw ⊢
      exact .alternation hw
    · rw [ht, h.names]
      have hn : (Syntax.alternation ⟨0, 0⟩ (bs ++ [.ofItems ⟨0, 0⟩ xs])).names =
          namesOfAll (bs ++ [.ofItems ⟨0, 0⟩ xs]) := rfl
      rw [hn, Syntax.namesOfAll_append, Syntax.namesOfAll_singleton, Syntax.names_ofItems]
    · rw [ht, Syntax.isPlain, Syntax.isPlainAll_append, Bool.and_eq_true] at hp
      have hx : isPlainAll xs = true := by simpa [isPlainAll, Syntax.isPlain_ofItems] using hp.2
      obtain ⟨h1, h2⟩ := h.legible hv hp.1 hx
      rw [ht, Syntax.legible, Syntax.legibleAll_append, h1, legibleAll, Syntax.legible_ofItems, h2]
      rfl

/-- An operator takes the place of the item before it, with that item inside. -/
lemma repeat_last (h : l.Reads v base seen c bs xs m) {kind : RepetitionKind} {greedy : Bool} {body : Syntax}
    {before : List Syntax} {s t : Span} (hi : l.items = body :: before) (hb : Repetition.repeatable body = true)
    (hr : Repetition.Reads kind greedy c d) : ∃ ys,
      ({ l with items := .repetition s t kind greedy body :: before } : Level).Reads v base seen d bs ys m := by
  obtain ⟨ys, rfl⟩ : ∃ ys, xs = ys ++ [body.bare] := by
    have hx := h.holds.items
    rw [hi, List.map_cons] at hx
    exact ⟨(before.map Syntax.bare).reverse, by rw [← List.reverse_cons, hx, List.reverse_reverse]⟩
  have hbefore : before.map Syntax.bare = ys.reverse := by
    have hx := h.holds.items
    rw [hi, List.map_cons, List.reverse_append] at hx
    exact (List.cons.inj hx).2
  obtain ⟨u, hys, hbody, hu⟩ := h.items.unsnoc
  have hrep : Repetition.repeatable body.bare = true := by rw [Repetition.repeatable_bare, hb]
  have hv : ∀ w, body.bare.verboseAfter w = w := by
    intro w
    cases body with
    | flags => cases hb
    | _ => rfl
  rw [hv] at hu
  let z : Syntax := .repetition ⟨0, 0⟩ ⟨0, 0⟩ kind greedy body.bare
  have hplain : isPlainAll (ys ++ [z]) = isPlainAll (ys ++ [body.bare]) := by
    simp [Syntax.isPlainAll_append, isPlainAll, z, Syntax.isPlain]
  refine ⟨ys ++ [z], ⟨h.holds.branches, ?_⟩, ?_, h.branches, ?_, ?_, ?_, ?_⟩
  · rw [List.map_cons, hbefore, List.reverse_append]
    rfl
  · rw [hr.verbose, hu]
    exact hys.snoc rfl (.repetition hbody hrep hr.written)
  · rw [h.names, Syntax.namesOfAll_append, Syntax.namesOfAll_append]
    rfl
  · rw [hplain, hr.verbose]
    exact h.verbose
  · rw [hplain]
    intro hv hbs hp
    obtain ⟨h1, h2⟩ := h.legible hv hbs hp
    rw [Syntax.legibleAll_append, Bool.and_eq_true] at h2
    refine ⟨h1, ?_⟩
    rw [Syntax.legibleAll_append, h2.1, legibleAll, legibleAll, Syntax.legible]
    have hl : body.bare.legible = true := by simpa [legibleAll] using h2.2
    -- a question mark behind a greedy operator would have been read as its lazy form
    have hmark : (kind == .zeroOrOne && body.bare.isGreedy) = false := by
      rw [← Bool.not_eq_true, Bool.and_eq_true, beq_iff_eq]
      rintro ⟨hk, hg⟩
      exact h.mark body.bare (by simp) hg (h.verbose hv hbs hp) (hr.single hk)
    rw [hl, hmark]
    rfl
  · rw [List.getLast?_concat]
    rintro x ⟨⟩ hg _
    exact hr.mark hg

lemma readRepetition {l' : Level} (h : l.Reads v base seen c bs xs m) (hr : readRepetition l c = .ok (l', d)) :
    ∃ ys, l'.Reads v base seen d bs ys m := by
  unfold TypedPattern.Regex.readRepetition at hr
  split at hr
  · cases hr
  · rename_i body before hi
    split at hr
    · cases hr
    · rename_i hb
      obtain ⟨⟨kind, greedy, stop⟩, hread, hr⟩ := bind_eq_ok.mp hr
      cases hr
      exact h.repeat_last hi (by simpa using hb) (Repetition.read_ok hread)

end Level.Reads

variable {c d : Cursor} {seen seen' : List CaptureName}

lemma not_mem_signs {x : Char} (hclose : x ≠ ')') (hbar : x ≠ '|') (ho : ¬isOperator x = true) : x ∉ Syntax.signs := by
  simp only [isOperator, Bool.or_eq_true, beq_iff_eq, not_or] at ho
  simp [Syntax.signs, hclose, hbar, ho]

lemma readPrimitive_ok {x : Char} {r : List Char} {y : Syntax} (hr : c.rest = x :: r) (ht : Tight c.verbose c.rest)
    (hx : x ∉ Syntax.signs) (ho : x ≠ '(') (h : readPrimitive x c = .ok (y, d)) : ItemReads seen seen c d y.bare := by
  unfold readPrimitive at h
  split_ifs at h with h1 h2 h3 h4 h5
  · obtain ⟨hf, hs⟩ := Escape.read_ok h
    have hv : d.verbose = c.verbose := hf.verbose.trans c.verbose_bump
    cases y with
    | literal l => exact ⟨.escaped hs, hv, (List.append_nil _).symm, fun _ _ => rfl, nofun⟩
    | unicode u => exact ⟨.unicode hs, hv, (List.append_nil _).symm, fun _ _ => rfl, nofun⟩
    | perl p => exact ⟨.perl _ p, hv, (List.append_nil _).symm, fun _ _ => rfl, nofun⟩
    | assertion s kind => exact ⟨.assertion _ kind, hv, (List.append_nil _).symm, fun _ _ => rfl, nofun⟩
    | _ => cases hs
  · subst h2
    obtain ⟨span, negated, inner, rfl, hw, hp, hl⟩ := Bracket.read_ok hr h
    refine ⟨.bracketed hw, hp.1, (List.append_nil _).symm, fun hv _ => ?_, nofun⟩
    rw [Syntax.legible_bare, Syntax.legible, hl hv]
  · cases h
    exact ⟨.dot _, c.verbose_bump, (List.append_nil _).symm, fun _ _ => rfl, nofun⟩
  · cases h
    exact ⟨.assertion _ _, c.verbose_bump, (List.append_nil _).symm, fun _ _ => rfl, nofun⟩
  · cases h
    exact ⟨.assertion _ _, c.verbose_bump, (List.append_nil _).symm, fun _ _ => rfl, nofun⟩
  · cases h
    rw [hr] at ht
    refine ⟨.verbatim ⟨rfl, ?_, tight_cons.mp ht⟩, c.verbose_bump, (List.append_nil _).symm, fun _ _ => rfl, nofun⟩
    simp only [Syntax.signs, specials, List.mem_cons, List.not_mem_nil, or_false, not_or] at hx ⊢
    tauto

lemma flags_reads {items : List FlagItem} (s : Span) (hn : items ≠ []) (hw : FlagsWritten (items.map FlagItem.bare))
    (hv : d.verbose = verboseAfter items c.verbose) : ItemReads seen seen c d (Syntax.flags s items).bare := by
  refine ⟨.flags hn hw, ?_, (List.append_nil _).symm, fun _ _ => rfl, nofun⟩
  rw [hv, Syntax.bare, Syntax.verboseAfter, Syntax.verboseAfter_eq (FlagItem.map_bare_bare items)]

lemma group_reads {seen₁ : List CaptureName} {kind : GroupKind} {body : Syntax} (s : Span) (hk : kind.bare.Written)
    (hs : seen₁.map (·.name) = seen.map (·.name) ++ Group.namesOf kind)
    (hb : Ended (kind.verbose c.verbose) (seen₁.map (·.name)) seen' body) (hv : d.verbose = c.verbose) :
    ItemReads seen seen' c d (Syntax.group s kind body).bare := by
  refine ⟨.group hk hb.written, hv, ?_, fun hc hp => ?_, nofun⟩
  · have hkind : Group.namesOf kind.bare = Group.namesOf kind := by cases kind <;> rfl
    rw [hb.names, hs, Syntax.bare, Syntax.names_group, hkind, List.append_assoc]
  · rw [Syntax.bare, Syntax.isPlain, Bool.and_eq_true, GroupKind.verbose_bare, Bool.not_eq_true'] at hp
    rw [Syntax.bare, Syntax.legible]
    exact hb.legible (hc ▸ hp.1) hp.2

lemma opened_ok {kind : GroupKind} (h : Group.HeadReads seen c (.opened kind, seen', d)) :
    kind.bare.Written ∧ seen'.map (·.name) = seen.map (·.name) ++ Group.namesOf kind ∧
      ((seen.map (·.name)).Nodup → (seen'.map (·.name)).Nodup) := by
  cases h with
  | @named letter found _ hname hnew _ =>
    refine ⟨hname, by simp [Group.namesOf], fun hn => ?_⟩
    rw [List.map_append, List.map_singleton]
    refine List.nodup_append.mpr ⟨hn, List.nodup_singleton _, fun a ha b hb he => hnew ?_⟩
    rw [← List.mem_singleton.mp hb, ← he]
    exact ha
  | plain hw _ => exact ⟨hw, (List.append_nil _).symm, id⟩
  | numbered _ => exact ⟨trivial, (List.append_nil _).symm, id⟩

/-- What is read of a group, the rest of the one around it included. -/
lemma readLevel_ok {k : Nat} {opening : Option Nat} {l : Level} {v m : Bool} {base : List (List Char)}
    {bs xs : List Syntax} {tree : Syntax} (hn : (seen.map (·.name)).Nodup) (hr : l.Reads v base seen c bs xs m)
    (h : readLevel k opening l seen c = .ok (tree, seen', d)) :
    (seen'.map (·.name)).Nodup ∧ Ended v base seen' tree := by
  induction k generalizing opening l v m base seen seen' c d bs xs tree with
  | zero => cases h
  | succ k ih =>
    cases hc : c.skip.rest with
    | nil =>
      rw [readLevel_nil hc] at h
      cases opening with
      | some start => cases h
      | none =>
        cases h
        exact ⟨hn, hr.finish _⟩
    | cons x r =>
      rw [readLevel_cons hc] at h
      have hr := hr.skip
      have htight : Tight c.skip.verbose c.skip.rest := by
        rw [Cursor.verbose_skip]
        exact c.tight_skip
      split_ifs at h with h1 h2 h3 h4
      · obtain ⟨⟨head, seen₁, e⟩, ho, hg⟩ := bind_eq_ok.mp h
        have ho := Group.readHead_ok ho
        cases head with
        | setting items =>
          obtain ⟨hne, hw⟩ : items ≠ [] ∧ FlagsWritten (items.map FlagItem.bare) := by
            cases ho
            exact ⟨‹_›, ‹_›⟩
          have hseen : seen₁ = seen := by
            cases ho
            rfl
          subst hseen
          exact ih hn (hr.push (flags_reads (d := {e with verbose := verboseAfter items c.skip.verbose}) _ hne hw rfl)) hg
        | opened kind =>
          -- the body is a level of its own, which goes on with the names seen so far
          obtain ⟨hk, hs, hnodup⟩ := opened_ok ho
          obtain ⟨⟨body, seen₂, f⟩, hbody, hg⟩ := bind_eq_ok.mp hg
          obtain ⟨hn₂, hended⟩ := ih (hnodup hn) (Level.Reads.startingAt _ _) hbody
          exact ih hn₂ (hr.push (group_reads (d := {f.bump with verbose := c.skip.verbose}) _ hk hs hended rfl)) hg
      · cases opening with
        | none => cases h
        | some start =>
          cases h
          exact ⟨hn, hr.finish _⟩
      · exact ih hn (hr.split (d := c.skip.bump) c.skip.verbose_bump _) h
      · obtain ⟨⟨l', e⟩, hrep, h⟩ := bind_eq_ok.mp h
        obtain ⟨ys, hr⟩ := hr.readRepetition hrep
        exact ih hn hr h
      · obtain ⟨⟨item, e⟩, hread, h⟩ := bind_eq_ok.mp h
        exact ih hn (hr.push (readPrimitive_ok hc htight (not_mem_signs h2 h3 h4) h1 hread)) h

/-- An expression that is read may be written, and is legible unless it turns verbose mode on. -/
theorem written_of_read {text : List Char} {tree : Syntax} (h : read text = .ok tree) :
    Written (.level false tree.bare) ∧ tree.names.Nodup ∧ (tree.isPlain = true → tree.legible = true) := by
  obtain ⟨seen, d, hl⟩ := read_ok h
  have hnone : (([] : List CaptureName).map (·.name)).Nodup := List.nodup_nil
  obtain ⟨hn, he⟩ := readLevel_ok hnone (Level.Reads.startingAt 0 ⟨0, text, false⟩) hl
  refine ⟨he.written, ?_, fun hp => ?_⟩
  · have hnames := he.names
    rw [List.map_nil, List.nil_append, Syntax.names, Syntax.captures_bare] at hnames
    rw [Syntax.names, ← hnames]
    exact hn
  · rw [← Syntax.legible_bare]
    exact he.legible rfl (by rw [Syntax.isPlain_bare, hp])

end TypedPattern.Regex
