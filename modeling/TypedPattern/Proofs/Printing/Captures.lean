import TypedPattern.Proofs.Reading.Level

/-! Trees without capturing groups are written and legible as the trees with them are. -/

namespace TypedPattern.Regex.Syntax

def uncaptured (kind : GroupKind) : GroupKind :=
  if kind.isCapture then .plain [] else kind

lemma uncaptured_bare (kind : GroupKind) : (uncaptured kind).bare = uncaptured kind.bare := by
  cases kind <;> rfl

lemma uncaptured_verbose (kind : GroupKind) (v : Bool) : (uncaptured kind).verbose v = kind.verbose v := by
  cases kind <;> rfl

lemma uncaptured_written {kind : GroupKind} (h : kind.bare.Written) : (uncaptured kind).bare.Written := by
  cases kind with
  | plain items => exact h
  | _ => exact ⟨List.nodup_nil, nofun⟩

lemma ofItems_withoutCaptures (s : Span) (xs : List Syntax) :
    (ofItems s xs).withoutCaptures = ofItems s (withoutCapturesAll xs) := by
  rcases xs with _ | ⟨x, _ | ⟨y, xs⟩⟩ <;> rfl

lemma verboseAfter_withoutCaptures (x : Syntax) (v : Bool) : x.withoutCaptures.verboseAfter v = x.verboseAfter v := by
  cases x <;> rfl

lemma repeatable_withoutCaptures (x : Syntax) :
    Repetition.repeatable x.withoutCaptures = Repetition.repeatable x := by
  cases x <;> rfl

lemma isGreedy_withoutCaptures (x : Syntax) : x.withoutCaptures.isGreedy = x.isGreedy := by
  cases x <;> rfl

mutual

lemma withoutCaptures_bare : ∀ s : Syntax, s.withoutCaptures.bare = s.bare.withoutCaptures
  | .empty _ => rfl
  | .flags _ _ => rfl
  | .literal _ => rfl
  | .dot _ => rfl
  | .assertion _ _ => rfl
  | .unicode _ => rfl
  | .perl _ => rfl
  | .bracketed _ _ _ => rfl
  | .repetition _ _ kind greedy body => congrArg (repetition ⟨0, 0⟩ ⟨0, 0⟩ kind greedy) (withoutCaptures_bare body)
  | .group _ kind body => by
    change group ⟨0, 0⟩ (uncaptured kind).bare body.withoutCaptures.bare =
      group ⟨0, 0⟩ (uncaptured kind.bare) body.bare.withoutCaptures
    rw [uncaptured_bare, withoutCaptures_bare body]
  | .alternation _ branches => congrArg (alternation ⟨0, 0⟩) (withoutCapturesAll_bare branches)
  | .concat _ items => congrArg (concat ⟨0, 0⟩) (withoutCapturesAll_bare items)

lemma withoutCapturesAll_bare : ∀ xs : List Syntax, bareAll (withoutCapturesAll xs) = withoutCapturesAll (bareAll xs)
  | [] => rfl
  | x :: xs => by
    rw [withoutCapturesAll, bareAll, bareAll, withoutCapturesAll, withoutCaptures_bare x, withoutCapturesAll_bare xs]

end

mutual

lemma legible_withoutCaptures : ∀ s : Syntax, s.withoutCaptures.legible = s.legible
  | .empty _ => rfl
  | .flags _ _ => rfl
  | .literal _ => rfl
  | .dot _ => rfl
  | .assertion _ _ => rfl
  | .unicode _ => rfl
  | .perl _ => rfl
  | .bracketed _ _ _ => rfl
  | .repetition _ _ kind greedy body => by
    rw [withoutCaptures, legible, legible, legible_withoutCaptures body, isGreedy_withoutCaptures]
  | .group _ kind body => by rw [withoutCaptures, legible, legible, legible_withoutCaptures body]
  | .alternation _ branches => by rw [withoutCaptures, legible, legible, legibleAll_withoutCaptures branches]
  | .concat _ items => by rw [withoutCaptures, legible, legible, legibleAll_withoutCaptures items]

lemma legibleAll_withoutCaptures : ∀ xs : List Syntax, legibleAll (withoutCapturesAll xs) = legibleAll xs
  | [] => rfl
  | x :: xs => by
    rw [withoutCapturesAll, legibleAll, legibleAll, legible_withoutCaptures x, legibleAll_withoutCaptures xs]

end

mutual

lemma isPlain_withoutCaptures : ∀ s : Syntax, s.withoutCaptures.isPlain = s.isPlain
  | .empty _ => rfl
  | .flags _ _ => rfl
  | .literal _ => rfl
  | .dot _ => rfl
  | .assertion _ _ => rfl
  | .unicode _ => rfl
  | .perl _ => rfl
  | .bracketed _ _ _ => rfl
  | .repetition _ _ _ _ body => by rw [withoutCaptures, isPlain, isPlain, isPlain_withoutCaptures body]
  | .group s kind body => by
    change (group s (uncaptured kind) body.withoutCaptures).isPlain = _
    rw [isPlain, isPlain, isPlain_withoutCaptures body, uncaptured_verbose]
  | .alternation _ branches => by rw [withoutCaptures, isPlain, isPlain, isPlainAll_withoutCaptures branches]
  | .concat _ items => by rw [withoutCaptures, isPlain, isPlain, isPlainAll_withoutCaptures items]

lemma isPlainAll_withoutCaptures : ∀ xs : List Syntax, isPlainAll (withoutCapturesAll xs) = isPlainAll xs
  | [] => rfl
  | x :: xs => by
    rw [withoutCapturesAll, isPlainAll, isPlainAll, isPlain_withoutCaptures x, isPlainAll_withoutCaptures xs]

end

mutual

lemma tooDeep?_withoutCaptures (room : Nat) : ∀ s : Syntax, s.withoutCaptures.tooDeep? room = s.tooDeep? room
  | .empty _ => rfl
  | .flags _ _ => rfl
  | .literal _ => rfl
  | .dot _ => rfl
  | .assertion _ _ => rfl
  | .unicode _ => rfl
  | .perl _ => rfl
  | .bracketed _ _ _ => rfl
  | .repetition _ _ _ _ body => by
    cases room with
    | zero => rfl
    | succ k => exact tooDeep?_withoutCaptures k body
  | .group _ _ body => by
    cases room with
    | zero => rfl
    | succ k => exact tooDeep?_withoutCaptures k body
  | .alternation _ branches => by
    cases room with
    | zero => rfl
    | succ k => exact anyTooDeep?_withoutCaptures k branches
  | .concat _ items => by
    cases room with
    | zero => rfl
    | succ k => exact anyTooDeep?_withoutCaptures k items

lemma anyTooDeep?_withoutCaptures (room : Nat) : ∀ xs : List Syntax,
    tooDeep?.anyTooDeep? room (withoutCapturesAll xs) = tooDeep?.anyTooDeep? room xs
  | [] => rfl
  | x :: xs => by
    rw [withoutCapturesAll, tooDeep?.anyTooDeep?, tooDeep?.anyTooDeep?, tooDeep?_withoutCaptures room x,
      anyTooDeep?_withoutCaptures room xs]

end

mutual

lemma captures_withoutCaptures : ∀ s : Syntax, s.withoutCaptures.captures = []
  | .empty _ => rfl
  | .flags _ _ => rfl
  | .literal _ => rfl
  | .dot _ => rfl
  | .assertion _ _ => rfl
  | .unicode _ => rfl
  | .perl _ => rfl
  | .bracketed _ _ _ => rfl
  | .repetition _ _ _ _ body => captures_withoutCaptures body
  | .group _ .numbered body => captures_withoutCaptures body
  | .group _ (.named _ _) body => captures_withoutCaptures body
  | .group _ (.plain _) body => captures_withoutCaptures body
  | .alternation _ branches => capturesOfAll_withoutCaptures branches
  | .concat _ items => capturesOfAll_withoutCaptures items

lemma capturesOfAll_withoutCaptures : ∀ xs : List Syntax, capturesOfAll (withoutCapturesAll xs) = []
  | [] => rfl
  | x :: xs => by
    rw [withoutCapturesAll, capturesOfAll, captures_withoutCaptures x, capturesOfAll_withoutCaptures xs]
    rfl

end

def Part.withoutCaptures : Part → Part
  | .item v x => .item v x.withoutCaptures
  | .items v xs w => .items v (withoutCapturesAll xs) w
  | .branches v bs w => .branches v (withoutCapturesAll bs) w
  | .level v x => .level v x.withoutCaptures

/-- What is written is so without its capturing groups. -/
theorem Written.withoutCaptures {p : Part} (h : Written p) : Written p.withoutCaptures := by
  induction h with
  | escaped hl => exact .escaped hl
  | verbatim hl => exact .verbatim hl
  | dot v => exact .dot v
  | assertion v kind => exact .assertion v kind
  | unicode hu => exact .unicode hu
  | perl v p => exact .perl v p
  | bracketed hi => exact .bracketed hi
  | flags hn hf => exact .flags hn hf
  | repetition _ hr hk ih => exact .repetition ih (by rw [repeatable_withoutCaptures, hr]) hk
  | @group v kind body hk hb ih =>
    change Written (.item v (.group ⟨0, 0⟩ (uncaptured kind.bare) body.withoutCaptures))
    rw [← uncaptured_bare]
    exact .group (uncaptured_written hk) (by rw [uncaptured_verbose]; exact ih)
  | nil v => exact .nil v
  | cons _ _ ihx ihxs =>
    rw [← verboseAfter_withoutCaptures] at ihxs
    exact .cons ihx ihxs
  | last _ ih =>
    rw [Part.withoutCaptures, withoutCapturesAll, ofItems_withoutCaptures]
    exact .last ih
  | next _ _ ih ihbs =>
    rw [Part.withoutCaptures, withoutCapturesAll, ofItems_withoutCaptures]
    exact .next ih ihbs
  | single _ ih =>
    rw [Part.withoutCaptures, ofItems_withoutCaptures]
    exact .single ih
  | alternation _ ih => exact .alternation ih

end TypedPattern.Regex.Syntax
