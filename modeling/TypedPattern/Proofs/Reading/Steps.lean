import TypedPattern.Regex.Reader
import TypedPattern.Proofs.Reading.Bare

/-! The readers of classes and groups, step by step: what is done depends on the next character. -/

namespace TypedPattern.Regex

namespace Bracket

def treeOf : ClassSet → Syntax
  | .bracketed span negated inner => .bracketed span negated inner
  | other => .bracketed other.span false other

lemma read_eq (c : Cursor) :
    read c = (readOpening c).bind fun (opening, u, d) =>
      (readRest (c.rest.length + 1) opening none u d).map fun (s, d) => (treeOf s, d) := by
  unfold read
  cases readOpening c with
  | error e => rfl
  | ok o =>
    obtain ⟨opening, u, d⟩ := o
    change (readRest (c.rest.length + 1) opening none u d >>= _) = Except.map _ (readRest _ opening none u d)
    cases readRest (c.rest.length + 1) opening none u d with
    | error e => rfl
    | ok p =>
      obtain ⟨s, d⟩ := p
      cases s <;> rfl

def pastName (c : Cursor) : Cursor :=
  { c with pos := c.pos + (c.rest.takeWhile (· != ':')).length, rest := c.rest.dropWhile (· != ':') }

lemma after?_name (c : Cursor) : c.after? (c.rest.takeWhile (· != ':')) = some (pastName c) := by
  unfold Cursor.after? pastName
  rw [if_pos (List.isPrefixOf_iff_prefix.mpr (List.takeWhile_prefix _))]
  have h := congrArg (List.drop (c.rest.takeWhile (· != ':')).length) (@List.takeWhile_append_dropWhile _ (· != ':') c.rest)
  rw [List.drop_left] at h
  rw [h]

lemma readAscii?_eq (c : Cursor) :
    readAscii? c = (c.after? ['[', ':']).bind fun i =>
      let j := if i.at? '^' then i.bump else i
      ((pastName j).after? [':', ']']).bind fun done =>
        (AsciiKind.ofName? (j.rest.takeWhile (· != ':'))).map fun kind =>
          (.ascii ⟨c.pos, done.pos⟩ kind (i.at? '^'), done) := by
  unfold readAscii?
  cases c.after? ['[', ':'] with
  | none => rfl
  | some i =>
    simp only [Option.bind_eq_bind, Option.bind_some, after?_name]
    congr 1
    funext done
    cases AsciiKind.ofName? _ <;> rfl

def doubled (x : Char) : Option SetOperator :=
  if x = '&' then some .intersection
  else if x = '-' then some .difference
  else if x = '~' then some .symmetricDifference
  else none

lemma operator?_single {c : Cursor} {x : Char} (h : c.rest = [x]) : operator? c = none := by
  unfold operator?
  split <;> simp_all

lemma operator?_pair {c : Cursor} {x y : Char} {r : List Char} (h : c.rest = x :: y :: r) :
    operator? c = if x = y then doubled x else none := by
  unfold operator? doubled
  rw [h]
  by_cases hxy : x = y
  · subst hxy
    rw [if_pos rfl]
    split <;> simp_all
  · rw [if_neg hxy]
    split <;> simp_all

variable {k : Nat} {opening : Opening} {pending : Pending} {u : Union} {c : Cursor} {x : Char} {r : List Char}

lemma readRest_nil (h : c.skip.rest = []) :
    readRest (k + 1) opening pending u c = .error ⟨.classUnclosed, opening.span, none⟩ := by
  rw [readRest]
  simp only [h]

lemma readRest_cons (h : c.skip.rest = x :: r) :
    readRest (k + 1) opening pending u c =
      if x = ']' then
        .ok (.bracketed ⟨opening.span.start, c.skip.bump.pos⟩ opening.negated (close pending u.toSet), c.skip.bump)
      else if x = '[' then
        match readAscii? c.skip with
        | some (item, d) => readRest k opening pending (u.push item) d
        | none => (readOpening c.skip).bind fun (inner, v, d) =>
          (readRest k inner none v d).bind fun (item, d) => readRest k opening pending (u.push item) d
      else
        match operator? c.skip with
        | some operator =>
          readRest k opening (some (operator, close pending u.toSet)) (Union.startingAt c.skip.bump.bump.pos)
            c.skip.bump.bump
        | none => (readRange opening c.skip).bind fun (item, d) => readRest k opening pending (u.push item) d := by
  rw [readRest]
  simp only [h]
  split
  · rename_i hc
    cases hc
  · rename_i hc
    obtain ⟨rfl, -⟩ := List.cons.inj hc
    rfl
  · rename_i hc
    obtain ⟨rfl, -⟩ := List.cons.inj hc
    rfl
  · rename_i h1 h2 h3
    rw [if_neg fun hx => h2 r (by rw [hx]), if_neg fun hx => h3 r (by rw [hx])]
    rfl

end Bracket

namespace Repetition

def unclosed (start : Nat) (c : Cursor) : Error :=
  ⟨.repetitionCountUnclosed, ⟨start, c.pos⟩, none⟩

def counts (start : Nat) (c : Cursor) : Except Error (RepetitionKind × Cursor) :=
  let (first, c) := count c
  if c.atEnd then .error (unclosed start c)
  else if c.at? ',' then
    if c.bumpSkip.atEnd then .error (unclosed start c.bumpSkip)
    else if c.bumpSkip.at? '\x7d' then first.map fun m => (.atLeast m, c.bumpSkip)
    else first.bind fun m => (count c.bumpSkip).1.map fun n => (.between m n, (count c.bumpSkip).2)
  else first.map fun m => (.exactly m, c)

def closeCounts (start : Nat) (kind : RepetitionKind) (c : Cursor) : Except Error (RepetitionKind × Bool × Cursor) :=
  if !c.at? '\x7d' then .error (unclosed start c)
  else
    let d := if c.bumpSkip.at? '?' then c.bumpSkip.bump else c.bumpSkip
    if isValid kind then .ok (kind, !c.bumpSkip.at? '?', d) else fail .repetitionCountInvalid start d.pos

lemma readCounted_eq (c : Cursor) :
    readCounted c =
      if c.bumpSkip.atEnd then .error (unclosed c.pos c.bumpSkip)
      else (counts c.pos c.bumpSkip).bind fun (kind, d) => closeCounts c.pos kind d := by
  unfold readCounted counts
  dsimp only
  split
  · rfl
  · split
    · rfl
    · split
      · split
        · rfl
        · split
          · cases (count c.bumpSkip).1 <;> rfl
          · cases (count c.bumpSkip).1 with
            | error e => rfl
            | ok m => cases (count (count c.bumpSkip).2.bumpSkip).1 <;> rfl
      · cases (count c.bumpSkip).1 <;> rfl

lemma repeatable_bare (s : Syntax) : repeatable s.bare = repeatable s := by
  cases s <;> rfl

end Repetition

namespace Group

lemma repeated?_bare (items : List FlagItem) (item : FlagItem) :
    (repeated? items item).isSome = (items.map FlagItem.bare).contains item.bare := by
  rw [repeated?, Option.isSome_map, Bool.eq_iff_iff, List.find?_isSome, List.contains_iff_mem, List.mem_map]
  constructor
  · rintro ⟨other, hm, h⟩
    refine ⟨other, hm, ?_⟩
    cases other <;> cases item <;> simp_all [FlagItem.bare]
  · rintro ⟨other, hm, h⟩
    refine ⟨other, hm, ?_⟩
    cases other <;> cases item <;> simp_all [FlagItem.bare]

lemma negation_getLast?_iff (items : List FlagItem) : (∃ s, items.getLast? = some (.negation s)) ↔
    (items.map FlagItem.bare).getLast? = some (.negation ⟨0, 0⟩) := by
  rw [List.getLast?_map]
  cases items.getLast? with
  | none => simp
  | some item => cases item <;> simp [FlagItem.bare]

end Group

section Level

open TypedPattern.Regex.Group (CaptureName)

variable {k : Nat} {opening : Option Nat} {l : Level} {seen : List CaptureName} {c : Cursor} {x : Char} {r : List Char}

/-- The verbose mode that flags leave behind. -/
def verboseAfter (items : List FlagItem) (verbose : Bool) : Bool :=
  (flagState .ignoreWhitespace false items).getD verbose

/-- The verbose mode inside a group. -/
def GroupKind.verbose (verbose : Bool) : GroupKind → Bool
  | plain items => verboseAfter items verbose
  | _ => verbose

lemma GroupKind.verbose_bare (kind : GroupKind) (verbose : Bool) : kind.bare.verbose verbose = kind.verbose verbose := by
  cases kind with
  | plain items => simp only [bare, GroupKind.verbose, verboseAfter, flagState_bare]
  | _ => rfl

lemma readLevel_nil (h : c.skip.rest = []) :
    readLevel (k + 1) opening l seen c =
      match opening with
      | some start => fail .groupUnclosed start (start + 1)
      | none => .ok (l.toSyntax c.skip.pos, seen, c.skip) := by
  rw [readLevel.eq_def]
  cases opening <;> simp only [h]

def readGroup (k : Nat) (opening : Option Nat) (l : Level) (c : Cursor) :
    Group.Opened → Except Error (Syntax × List CaptureName × Cursor)
  | (.setting items, seen, d) =>
    readLevel k opening (l.push (.flags ⟨c.pos, d.pos⟩ items)) seen { d with verbose := verboseAfter items c.verbose }
  | (.opened kind, seen, d) =>
    (readLevel k (some c.pos) (Level.startingAt d.pos) seen { d with verbose := kind.verbose c.verbose }).bind
      fun (body, seen, d) =>
        readLevel k opening (l.push (.group ⟨c.pos, d.bump.pos⟩ kind body)) seen { d.bump with verbose := c.verbose }

lemma readLevel_cons (h : c.skip.rest = x :: r) :
    readLevel (k + 1) opening l seen c =
      if x = '(' then (Group.readHead seen c.skip).bind (readGroup k opening l c.skip)
      else if x = ')' then
        match opening with
        | some _ => .ok (l.toSyntax c.skip.pos, seen, c.skip)
        | none => fail .groupUnopened c.skip.pos (c.skip.pos + 1)
      else if x = '|' then readLevel k opening (l.split c.skip.pos) seen c.skip.bump
      else if isOperator x then
        (readRepetition l c.skip).bind fun (l, d) => readLevel k opening l seen d
      else (readPrimitive x c.skip).bind fun (item, d) => readLevel k opening (l.push item) seen d := by
  rw [readLevel.eq_def]
  simp only [h]
  split
  · cases Group.readHead seen c.skip with
    | error e => rfl
    | ok o =>
      obtain ⟨head, seen, d⟩ := o
      cases head with
      | setting items => rfl
      | opened kind => cases kind <;> rfl
  · rfl

lemma read_ok {text : List Char} {tree : Syntax} (h : read text = .ok tree) :
    ∃ seen d, readLevel (text.length + 1) none (Level.startingAt 0) [] ⟨0, text, false⟩ = .ok (tree, seen, d) := by
  unfold read at h
  obtain ⟨⟨t, seen, d⟩, hl, h⟩ := bind_eq_ok.mp h
  dsimp only at h
  split at h
  · cases h
  · cases h
    exact ⟨seen, d, hl⟩

end Level

end TypedPattern.Regex
