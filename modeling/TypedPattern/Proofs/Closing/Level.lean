import TypedPattern.Proofs.Closing.Bracket
import TypedPattern.Proofs.Closing.Group

/-! An expression enclosed up to the end of the text is the expression itself with an assertion behind it. -/

namespace TypedPattern.Regex

open TypedPattern.Regex.Group (CaptureName SameNames SameOpened SameHead)
open TypedPattern.Regex.Escape (SameTree)

structure SameLevel (l m : Level) : Prop where
  branches : m.branches.map Syntax.bare = l.branches.map Syntax.bare
  items : m.items.map Syntax.bare = l.items.map Syntax.bare

namespace SameLevel

variable {l m : Level}

lemma startingAt (pos pos' : Nat) : SameLevel (Level.startingAt pos) (Level.startingAt pos') :=
  ⟨rfl, rfl⟩

lemma push (h : SameLevel l m) {s t : Syntax} (hs : SameTree s t) : SameLevel (l.push s) (m.push t) :=
  ⟨h.branches, by
    rw [Level.push, Level.push, List.map_cons, List.map_cons, h.items, show t.bare = s.bare from hs]⟩

lemma branch (h : SameLevel l m) (stop stop' : Nat) : SameTree (l.branch stop) (m.branch stop') := by
  unfold SameTree Level.branch
  rw [Syntax.ofItems_bare, Syntax.ofItems_bare, List.map_reverse, List.map_reverse, h.items]

lemma split (h : SameLevel l m) (stop stop' : Nat) : SameLevel (l.split stop) (m.split stop') := by
  have hb : (m.branch stop').bare = (l.branch stop).bare := h.branch stop stop'
  exact ⟨by rw [Level.split, Level.split, List.map_cons, List.map_cons, hb, h.branches], rfl⟩

lemma toSyntax (h : SameLevel l m) (stop stop' : Nat) : SameTree (l.toSyntax stop) (m.toSyntax stop') := by
  have hb : (m.branch stop').bare = (l.branch stop).bare := h.branch stop stop'
  have hemp : m.branches.isEmpty = l.branches.isEmpty := by
    rw [← List.isEmpty_map, h.branches, List.isEmpty_map]
  unfold SameTree Level.toSyntax
  rw [hemp]
  split
  · exact hb
  · simp only [Syntax.bare, Syntax.bareAll_eq_map, List.map_reverse, List.map_cons, hb, h.branches]

end SameLevel

variable {c d : Cursor}

lemma readPrimitive_sim (x : Char) (h : Longer c d) (hc : c.rest ≠ []) :
    Sim (Alike SameTree) (readPrimitive x c) (readPrimitive x d) := by
  unfold readPrimitive
  have hb := h.bump hc
  refine Sim.ite Iff.rfl (fun _ => Escape.read_sim h hc) fun _ => ?_
  refine Sim.ite Iff.rfl (fun _ => Bracket.read_sim h hc) fun _ => ?_
  refine Sim.ite Iff.rfl (fun _ => Sim.ok ⟨rfl, hb⟩) fun _ => ?_
  refine Sim.ite Iff.rfl (fun _ => Sim.ok ⟨rfl, hb⟩) fun _ => ?_
  exact Sim.ite Iff.rfl (fun _ => Sim.ok ⟨rfl, hb⟩) fun _ => Sim.ok ⟨rfl, hb⟩

lemma readRepetition_sim {l m : Level} (hl : SameLevel l m) (h : Longer c d) (hc : c.rest ≠ []) :
    Sim (Alike SameLevel) (readRepetition l c) (readRepetition m d) := by
  unfold readRepetition
  cases hi : l.items with
  | nil => exact Sim.error _
  | cons x xs =>
    have hitems := hl.items
    rw [hi] at hitems
    obtain ⟨y, ys, hm, hxy, hrest⟩ := List.map_eq_cons_iff.mp hitems
    rw [hm]
    refine Sim.guard ?_ fun _ => ?_
    · rw [← Repetition.repeatable_bare x, ← hxy, Repetition.repeatable_bare y]
      exact fun h => h
    · refine (Repetition.read_sim h hc).bind ?_
      rintro ⟨kind, greedy, c₁⟩ ⟨_, _, d₁⟩ ⟨rfl, rfl, h₁⟩
      refine Sim.ok ⟨⟨hl.branches, ?_⟩, h₁⟩
      simp only [List.map_cons, Syntax.bare, hxy, hrest]

/-- What ends a level: a closing parenthesis inside a group, the end of the text outside. -/
lemma readLevel_rest {k : Nat} {opening : Option Nat} {l : Level} {seen : List CaptureName}
    {a : Syntax × List CaptureName × Cursor} (h : readLevel k opening l seen c = .ok a) :
    (opening.isSome = true → ∃ r, a.2.2.rest = ')' :: r) ∧ (opening = none → a.2.2.rest = []) := by
  induction k generalizing opening l seen c a with
  | zero => cases h
  | succ k ih =>
    rcases hr : c.skip.rest with _ | ⟨x, r⟩
    · rw [readLevel_nil hr] at h
      cases opening with
      | some start => cases h
      | none =>
        cases h
        exact ⟨fun h => (nomatch h), fun _ => hr⟩
    · rw [readLevel_cons hr] at h
      split_ifs at h with h1 h2 h3 h4
      · obtain ⟨⟨head, seen', d⟩, -, h⟩ := bind_eq_ok.mp h
        cases head with
        | setting items => exact ih h
        | opened kind =>
          obtain ⟨⟨body, seen'', e⟩, -, h⟩ := bind_eq_ok.mp h
          exact ih h
      · cases opening with
        | none => cases h
        | some start =>
          cases h
          exact ⟨fun _ => ⟨r, h2 ▸ hr⟩, fun h => (nomatch h)⟩
      · exact ih h
      · obtain ⟨⟨l', d⟩, -, h⟩ := bind_eq_ok.mp h
        exact ih h
      · obtain ⟨⟨item, d⟩, -, h⟩ := bind_eq_ok.mp h
        exact ih h

section Behind

variable {c₁ d₁ : Cursor}

lemma Longer.setting (h : Longer c d) (h₁ : Longer c₁ d₁) {items items' : List FlagItem}
    (hi : items'.map FlagItem.bare = items.map FlagItem.bare) :
    Longer { c₁ with verbose := verboseAfter items c.verbose } { d₁ with verbose := verboseAfter items' d.verbose } := by
  refine ⟨?_, h₁.rest⟩
  change verboseAfter items' d.verbose = verboseAfter items c.verbose
  rw [verboseAfter, ← flagState_bare, hi, flagState_bare, h.verbose, verboseAfter]

lemma Longer.inside (h : Longer c d) (h₁ : Longer c₁ d₁) {kind kind' : GroupKind} (hk : kind'.bare = kind.bare) :
    Longer { c₁ with verbose := kind.verbose c.verbose } { d₁ with verbose := kind'.verbose d.verbose } := by
  refine ⟨?_, h₁.rest⟩
  change kind'.verbose d.verbose = kind.verbose c.verbose
  rw [← GroupKind.verbose_bare, hk, GroupKind.verbose_bare, h.verbose]

lemma Longer.behind (h : Longer c d) {r : List Char} (hc : c₁.rest = ')' :: r) (hd : d₁.rest = c₁.rest ++ closing) :
    Longer { c₁.bump with verbose := c.verbose } { d₁.bump with verbose := d.verbose } := by
  refine ⟨h.verbose, Or.inl ?_⟩
  simp only [Cursor.rest_bump, hd, hc, List.cons_append, List.tail_cons]

end Behind

/-- What is read of a text is read of the same text with the closing behind it, unless its last comment has taken
that in. -/
theorem readLevel_closing {k k' : Nat} {opening opening' : Option Nat} {l m : Level} {ms ns : List CaptureName}
    (hk : k ≤ k') (ho : opening'.isSome = true) (hl : SameLevel l m) (hs : SameNames ms ns) (h : Longer c d)
    {a : Syntax × List CaptureName × Cursor} (ha : readLevel k opening l ms c = .ok a) :
    (∃ b, readLevel k' opening' m ns d = .ok b ∧ SameTree a.1 b.1 ∧ SameNames a.2.1 b.2.1 ∧
      b.2.2.verbose = a.2.2.verbose ∧ b.2.2.rest = a.2.2.rest ++ closing) ∨
      (opening = none ∧ ∃ e, readLevel k' opening' m ns d = .error e) := by
  induction k generalizing c d k' opening opening' l m ms ns a with
  | zero => cases ha
  | succ k ih =>
    obtain ⟨j, rfl⟩ : ∃ j, k' = j + 1 := ⟨k' - 1, by omega⟩
    have hj : k ≤ j := by omega
    have hskip := h.skip
    obtain ⟨start, rfl⟩ := Option.isSome_iff_exists.mp ho
    rcases hskip.cases with hc | ⟨x, r, hc, hd⟩
    · rw [readLevel_nil hc] at ha
      cases opening with
      | some start => cases ha
      | none =>
        cases ha
        rcases hskip.rest with hd | ⟨-, hd⟩
        · have hd' : d.skip.rest = ')' :: ['$'] := by
            rw [hd, hc]
            rfl
          rw [readLevel_cons hd']
          exact Or.inl ⟨_, rfl, hl.toSyntax _ _, hs, hskip.verbose, hd⟩
        · rw [readLevel_nil hd]
          exact Or.inr ⟨rfl, _, rfl⟩
    · have hne : c.skip.rest ≠ [] := by simp [hc]
      rw [readLevel_cons hc] at ha
      rw [readLevel_cons hd]
      split_ifs at ha ⊢ with h1 h2 h3 h4
      · obtain ⟨⟨head, ms', c₁⟩, hhead, ha⟩ := bind_eq_ok.mp ha
        obtain ⟨⟨head', ns', d₁⟩, hhead', hh, hs', h₁⟩ := Group.readHead_sim hs hskip hne _ hhead
        have h₁ : Longer c₁ d₁ := h₁
        have hs' : SameNames ms' ns' := hs'
        rw [bind_of_ok hhead']
        cases head with
        | setting items =>
          cases head' with
          | opened kind => exact hh.elim
          | setting items' =>
            have hitems : items'.map FlagItem.bare = items.map FlagItem.bare := hh
            rw [readGroup] at ha ⊢
            have hflags : SameTree (.flags ⟨c.skip.pos, c₁.pos⟩ items) (.flags ⟨d.skip.pos, d₁.pos⟩ items') :=
              congrArg (Syntax.flags ⟨0, 0⟩) hitems
            exact ih hj rfl (hl.push hflags) hs' (hskip.setting h₁ hitems) ha
        | opened kind =>
          cases head' with
          | setting items => exact hh.elim
          | opened kind' =>
            have hkind : kind'.bare = kind.bare := hh
            rw [readGroup] at ha ⊢
            obtain ⟨⟨body, ms'', c₂⟩, hbody, ha⟩ := bind_eq_ok.mp ha
            obtain ⟨r', hr'⟩ := (readLevel_rest hbody).1 rfl
            -- inside the group the closing cannot be taken in: the level ends at its parenthesis
            have hinner := ih hj (rfl : (some d.skip.pos).isSome = true) (SameLevel.startingAt c₁.pos d₁.pos) hs'
              (hskip.inside h₁ hkind) hbody
            obtain ⟨⟨body', ns'', d₂⟩, hbody', hb, hs'', -, hrest⟩ := hinner.resolve_right fun hn => by cases hn.1
            rw [bind_of_ok hbody']
            have hgroup : SameTree (.group ⟨c.skip.pos, c₂.bump.pos⟩ kind body)
                (.group ⟨d.skip.pos, d₂.bump.pos⟩ kind' body') := by
              have hb : body'.bare = body.bare := hb
              simp only [SameTree, Syntax.bare, hkind, hb]
            exact ih hj rfl (hl.push hgroup) hs'' (hskip.behind hr' hrest) ha
      · cases opening with
        | none => cases ha
        | some start' =>
          cases ha
          exact Or.inl ⟨_, rfl, hl.toSyntax _ _, hs, hskip.verbose, hskip.rest_eq hne⟩
      · exact ih hj rfl (hl.split _ _) hs (hskip.bump hne) ha
      · obtain ⟨⟨l', c₁⟩, hrep, ha⟩ := bind_eq_ok.mp ha
        obtain ⟨⟨m', d₁⟩, hrep', hl', h₁⟩ := readRepetition_sim hl hskip hne _ hrep
        rw [bind_of_ok hrep']
        exact ih hj rfl hl' hs h₁ ha
      · obtain ⟨⟨item, c₁⟩, hprim, ha⟩ := bind_eq_ok.mp ha
        obtain ⟨⟨item', d₁⟩, hprim', hit, h₁⟩ := readPrimitive_sim x hskip hne _ hprim
        rw [bind_of_ok hprim']
        exact ih hj rfl (hl.push hit) hs h₁ ha

/-- The text of an expression between a group without flags and the end of the text. -/
def enclose (text : List Char) : List Char :=
  '(' :: '?' :: ':' :: (text ++ closing)

lemma readHead_enclose (pos : Nat) (r : List Char) :
    Group.readHead [] ⟨pos, '(' :: '?' :: ':' :: r, false⟩ = .ok (.opened (.plain []), [], ⟨pos + 3, r, false⟩) :=
  rfl

lemma readLevel_dollar (k : Nat) (l : Level) (seen : List CaptureName) (pos : Nat) :
    readLevel (k + 2) none l seen ⟨pos, ['$'], false⟩ =
      .ok ((l.push (.assertion ⟨pos, pos + 1⟩ .lineEnd)).toSyntax (pos + 1), seen, ⟨pos + 1, [], false⟩) :=
  rfl

theorem read_enclose {text : List Char} {tree whole : Syntax} (h : read text = .ok tree)
    (h' : read (enclose text) = .ok whole) :
    whole.bare = .concat ⟨0, 0⟩ [.group ⟨0, 0⟩ (.plain []) tree.bare, .assertion ⟨0, 0⟩ .lineEnd] := by
  obtain ⟨seen, d, hl⟩ := read_ok h
  obtain ⟨seen', d', hw⟩ := read_ok h'
  obtain ⟨j, hj⟩ : ∃ j, (enclose text).length = j + 2 := ⟨text.length + 3, by simp [enclose, closing]⟩
  have hstart : (Cursor.skip ⟨0, enclose text, false⟩).rest = '(' :: '?' :: ':' :: (text ++ closing) := rfl
  rw [hj, readLevel_cons hstart, if_pos rfl] at hw
  have hhead := readHead_enclose 0 (text ++ closing)
  have hskip : Cursor.skip ⟨0, enclose text, false⟩ = ⟨0, '(' :: '?' :: ':' :: (text ++ closing), false⟩ := rfl
  rw [hskip, bind_of_ok hhead, readGroup] at hw
  obtain ⟨⟨body, seen'', e⟩, hbody, hw⟩ := bind_eq_ok.mp hw
  have hlonger : Longer ⟨0, text, false⟩ ⟨0 + 3, text ++ closing, false⟩ := ⟨rfl, Or.inl rfl⟩
  have hlen : text.length + 1 ≤ j + 2 := by
    have := hj
    simp only [enclose, closing, List.length_cons, List.length_append, List.length_nil] at this
    omega
  rcases readLevel_closing hlen (rfl : (some 0).isSome = true) (SameLevel.startingAt 0 (0 + 3)) rfl hlonger hl with
    ⟨b, hb, hsame, -, -, hrest⟩ | ⟨-, err, herr⟩
  · cases (hb.symm.trans hbody)
    have hend : d.rest = [] := (readLevel_rest hl).2 rfl
    have hbare : body.bare = tree.bare := hsame
    have hrest : e.rest = [')', '$'] := by
      rw [hrest, hend]
      rfl
    have hdollar : (⟨e.bump.pos, e.bump.rest, false⟩ : Cursor) = ⟨e.bump.pos, ['$'], false⟩ := by
      rw [Cursor.rest_bump, hrest]
      rfl
    dsimp only at hw
    rw [hdollar, readLevel_dollar] at hw
    cases hw
    simp only [Level.toSyntax, Level.push, Level.startingAt, Level.branch, List.isEmpty_nil, if_true,
      List.reverse_cons, List.reverse_nil, List.nil_append, List.cons_append, Syntax.ofItems, Syntax.bare,
      Syntax.bareAll, GroupKind.bare, List.map_nil, hbare]
  · cases (herr.symm.trans hbody)

end TypedPattern.Regex
