import TypedPattern.Proofs.Pattern.Rejection
import TypedPattern.Proofs.Registering

/-! Which patterns compile, and which fault is reported where there are several. -/

namespace TypedPattern

namespace Registry

variable {types : Registry} {name : String}

lemma mem_names_iff : name ∈ types.names ↔ ∃ t, types.find? name = some t := by
  rw [← Option.isSome_iff_exists, find?, List.find?_isSome, names, List.mem_map]
  simp

lemma exists_resolve (h : name ∈ types.names) : ∃ t, types.resolve name = .ok t := by
  obtain ⟨t, ht⟩ := mem_names_iff.mp h
  exact ⟨t, by rw [resolve, ht]⟩

lemma resolve_unknown (h : name ∉ types.names) : types.resolve name = .error (.unknownType name types.names) := by
  have hnone : types.find? name = none := by
    apply Option.eq_none_iff_forall_ne_some.mpr
    intro t ht
    exact h (mem_names_iff.mpr ⟨t, ht⟩)
  rw [resolve, hnone]

end Registry

namespace Pattern

open Text (byteLength)

section Fault

variable {α β γ δ ε : Type}

def fault? : Except ε α → Option ε
  | .ok _ => none
  | .error e => some e

lemma fault?_eq_some {x : Except ε α} {e : ε} : fault? x = some e ↔ x = .error e := by
  cases x <;> simp [fault?]

lemma fault?_eq_none {x : Except ε α} : fault? x = none ↔ ∃ a, x = .ok a := by
  cases x <;> simp [fault?]

lemma fault?_map (f : α → β) (x : Except ε α) : fault? (x.map f) = fault? x := by
  cases x <;> rfl

lemma fault?_mapAllM (f : γ → Except ε δ) (segments : List (Segment γ)) :
    fault? (Segment.mapAllM f segments) = (Segment.groups segments).findSome? fun g => fault? (f g) := by
  have hpass : ∀ (t : Segment δ) (rest : List (Segment γ)),
      fault? ((Segment.mapAllM f rest).bind fun ts => .ok (t :: ts)) = fault? (Segment.mapAllM f rest) := by
    intro t rest
    cases Segment.mapAllM f rest <;> rfl
  induction segments with
  | nil => rfl
  | cons s rest ih =>
    cases s with
    | literal text => exact (hpass _ rest).trans ih
    | wildcard w => exact (hpass _ rest).trans ih
    | group g =>
      have hgroups : Segment.groups (.group g :: rest) = g :: Segment.groups rest := rfl
      rw [hgroups, List.findSome?_cons, ← ih]
      cases hg : f g with
      | error e => simp [Segment.mapAllM, Segment.mapM, hg, fault?, bind, Except.bind, Except.map]
      | ok d =>
        simp only [Segment.mapAllM, Segment.mapM, hg, Except.map]
        exact hpass _ rest

end Fault

namespace WrittenGroup

variable {types : Registry} {g : WrittenGroup} {e : Error}

/-- Its name is an identifier if it has one, and its constraint is a width below `2 ^ 32` or a registered type. -/
structure Fine (types : Registry) (g : WrittenGroup) : Prop where
  name : ∀ name ∈ g.name, isIdentifier name = true
  width : ∀ text ∈ g.constraint, text.toList.all Text.isDigit = true → Text.decimalValue text.toList < 2 ^ 32
  type : ∀ text ∈ g.constraint, text.toList.all Text.isDigit = false → text ∈ types.names

/-- What is said of a group that stands for nothing: of its name, else of its constraint. -/
inductive Fault (types : Registry) (g : WrittenGroup) : Error → Prop
  | name {name : String} (hg : g.name = some name) (hname : isIdentifier name = false) :
    Fault types g (.invalidGroupName name g.pos)
  | width {text : String} (hg : ∀ name ∈ g.name, isIdentifier name = true) (hc : g.constraint = some text)
    (hdigits : text.toList.all Text.isDigit = true) (hwidth : 2 ^ 32 ≤ Text.decimalValue text.toList) :
    Fault types g (.widthTooLarge text g.pos)
  | type {text : String} (hg : ∀ name ∈ g.name, isIdentifier name = true) (hc : g.constraint = some text)
    (hdigits : text.toList.all Text.isDigit = false) (htype : text ∉ types.names) :
    Fault types g (.unknownType text types.names)

lemma fine_or_fault (types : Registry) (g : WrittenGroup) : g.Fine types ∨ ∃ e, g.Fault types e := by
  obtain ⟨name, constraint, pos⟩ := g
  by_cases hname : ∀ n ∈ name, isIdentifier n = true
  · cases constraint with
    | none => exact Or.inl ⟨hname, by simp, by simp⟩
    | some text =>
      cases hdigits : text.toList.all Text.isDigit with
      | true =>
        rcases Nat.lt_or_ge (Text.decimalValue text.toList) (2 ^ 32) with hwidth | hwidth
        · refine Or.inl ⟨hname, ?_, ?_⟩ <;> rintro _ ⟨⟩ h
          · exact hwidth
          · cases hdigits.symm.trans h
        · exact Or.inr ⟨_, .width hname rfl hdigits hwidth⟩
      | false =>
        by_cases htype : text ∈ types.names
        · refine Or.inl ⟨hname, ?_, ?_⟩ <;> rintro _ ⟨⟩ h
          · cases hdigits.symm.trans h
          · exact htype
        · exact Or.inr ⟨_, .type hname rfl hdigits htype⟩
  · simp only [not_forall, Bool.not_eq_true] at hname
    obtain ⟨n, hn, hname⟩ := hname
    exact Or.inr ⟨_, .name hn hname⟩

end WrittenGroup

section Resolve

variable {types : Registry} {g : WrittenGroup} {e : Error}

lemma le_maxWidth {n : Nat} : n ≤ maxWidth ↔ n < 2 ^ 32 := by
  have h : maxWidth = 2 ^ 32 - 1 := rfl
  omega

lemma Group.resolve_named (h : ∀ name ∈ g.name, isIdentifier name = true) :
    Group.resolve types g = (Constraint.resolve types g.pos g.constraint).map (Group.mk g.name) := by
  have hnone : g.name.filter (fun name => !isIdentifier name) = none := by
    apply Option.filter_eq_none_iff.mpr
    intro name hn
    simp [h name hn]
  rw [Group.resolve, hnone]

lemma Group.resolve_fine (h : g.Fine types) : ∃ d, Group.resolve types g = .ok d := by
  rw [Group.resolve_named h.name]
  cases hc : g.constraint with
  | none => exact ⟨_, rfl⟩
  | some text =>
    cases hdigits : text.toList.all Text.isDigit with
    | true =>
      have hwidth := le_maxWidth.mpr (h.width text hc hdigits)
      simp [Constraint.resolve, hdigits, hwidth, Except.map]
    | false =>
      obtain ⟨t, ht⟩ := Registry.exists_resolve (h.type text hc hdigits)
      simp [Constraint.resolve, hdigits, ht, Except.map]

lemma Group.resolve_fault (h : g.Fault types e) : Group.resolve types g = .error e := by
  cases h with
  | @name name hg hname => simp [Group.resolve, hg, Option.filter, hname]
  | width hg hc hdigits hwidth =>
    have hlarge := mt le_maxWidth.mp (Nat.not_lt.mpr hwidth)
    rw [Group.resolve_named hg, hc]
    simp [Constraint.resolve, hdigits, hlarge, Except.map]
  | type hg hc hdigits htype =>
    rw [Group.resolve_named hg, hc]
    simp [Constraint.resolve, hdigits, Registry.resolve_unknown htype, Except.map]

lemma fault?_resolve_eq_none : fault? (Group.resolve types g) = none ↔ g.Fine types := by
  rcases g.fine_or_fault types with h | ⟨e, h⟩
  · exact iff_of_true (fault?_eq_none.mpr (Group.resolve_fine h)) h
  · have hfault := Group.resolve_fault h
    refine iff_of_false (by simp [hfault, fault?]) fun hfine => ?_
    obtain ⟨d, hd⟩ := Group.resolve_fine hfine
    cases hfault.symm.trans hd

lemma fault?_resolve_eq_some : fault? (Group.resolve types g) = some e ↔ g.Fault types e := by
  rw [fault?_eq_some]
  refine ⟨fun h => ?_, Group.resolve_fault⟩
  rcases g.fine_or_fault types with hfine | ⟨e', hfault⟩
  · obtain ⟨d, hd⟩ := Group.resolve_fine hfine
    cases hd.symm.trans h
  · cases h.symm.trans (Group.resolve_fault hfault)
    exact hfault

end Resolve

def Written.groups (w : Written) : List WrittenGroup :=
  w.toList.flatMap Segment.groups

section Compile

variable {types : Registry} {flexible : Bool} {text : String} {w : Written} {r : Resolved} {e : Error}

lemma Written.groups_two (left right : List (Segment WrittenGroup)) :
    Written.groups (.two left right) = Segment.groups left ++ Segment.groups right := by
  simp [Written.groups, Branches.toList]

lemma fault?_resolve (types : Registry) (w : Written) :
    fault? (Written.resolve types w) = w.groups.findSome? fun g => fault? (Group.resolve types g) := by
  cases w with
  | one only =>
    rw [Written.resolve, Branches.mapM, fault?_map, fault?_mapAllM]
    simp [Written.groups, Branches.toList]
  | two left right =>
    rw [Written.groups_two, List.findSome?_append, ← fault?_mapAllM, ← fault?_mapAllM]
    rw [Written.resolve, Branches.mapM]
    cases Segment.mapAllM (Group.resolve types) left with
    | error e => rfl
    | ok x => cases Segment.mapAllM (Group.resolve types) right <;> rfl

lemma names_mapAllM {segments : List (Segment WrittenGroup)} {resolved : List (Segment Group)}
    (h : Segment.mapAllM (Group.resolve types) segments = .ok resolved) :
    (Segment.groups resolved).map (·.name) = (Segment.groups segments).map (·.name) := by
  symm
  rw [← List.forall₂_eq_eq_eq, List.forall₂_map_left_iff, List.forall₂_map_right_iff]
  exact (groups_of_mapAllM h).imp fun g d hd => (Group.resolve_ok hd).1.symm

lemma names_resolve (h : Written.resolve types w = .ok r) : r.groups.map (·.name) = w.groups.map (·.name) := by
  cases w with
  | one only =>
    obtain ⟨b, hb, rfl⟩ := Regex.map_eq_ok.mp h
    simpa [Resolved.groups, Written.groups, Branches.toList] using names_mapAllM hb
  | two left right =>
    obtain ⟨x, hx, h⟩ := Regex.bind_eq_ok.mp h
    obtain ⟨y, hy, h⟩ := Regex.bind_eq_ok.mp h
    cases h
    simp [Resolved.groups, Written.groups, Branches.toList, names_mapAllM hx, names_mapAllM hy]

lemma fault?_compile_resolved (flexible : Bool) (r : Resolved) :
    fault? (r.compile flexible) =
      (firstRepeated [] (r.groups.filterMap (·.name))).map Error.duplicateGroupName := by
  have hnames : (Compiled.groups ⟨r.number, flexible⟩).filterMap (·.name) = r.groups.filterMap (·.name) := by
    rw [← r.groups_number, List.filterMap_map]
    rfl
  rw [Resolved.compile, hnames]
  cases firstRepeated [] (r.groups.filterMap (·.name)) <;> rfl

/-- Groups are looked up before their names are compared. -/
lemma fault?_compile_read (h : read text = .ok w) : fault? (compile types flexible text) =
    (w.groups.findSome? fun g => fault? (Group.resolve types g)).or
      ((firstRepeated [] (w.groups.filterMap (·.name))).map Error.duplicateGroupName) := by
  have hcompile : compile types flexible text = (Written.resolve types w).bind (Resolved.compile flexible) := by
    rw [compile, h]
    rfl
  rw [hcompile, ← fault?_resolve]
  cases hr : Written.resolve types w with
  | error e => rfl
  | ok r =>
    have hnames : r.groups.filterMap (·.name) = w.groups.filterMap (·.name) := by
      have hmap := congrArg (List.filterMap id) (names_resolve hr)
      rwa [List.filterMap_map, List.filterMap_map] at hmap
    rw [← hnames, ← fault?_compile_resolved flexible r]
    rfl

lemma firstRepeated_eq_some {seen names : List String} {name : String} :
    firstRepeated seen names = some name ↔ ∃ before behind, names = before ++ name :: behind ∧
      firstRepeated seen before = none ∧ (name ∈ before ∨ name ∈ seen) := by
  induction names generalizing seen with
  | nil => simp [firstRepeated]
  | cons x rest ih =>
    rw [firstRepeated]
    by_cases hx : x ∈ seen
    · rw [if_pos (by simpa using hx)]
      constructor
      · rintro ⟨⟩
        exact ⟨[], rest, rfl, rfl, Or.inr hx⟩
      · rintro ⟨before, behind, hnames, hnone, -⟩
        cases before with
        | nil => exact congrArg some (List.cons.inj hnames).1
        | cons y before =>
          obtain ⟨rfl, -⟩ := List.cons.inj hnames
          simp [firstRepeated, hx] at hnone
    · rw [if_neg (by simpa using hx), ih]
      constructor
      · rintro ⟨before, behind, rfl, hnone, hname⟩
        refine ⟨x :: before, behind, rfl, by simpa [firstRepeated, hx] using hnone, ?_⟩
        simp only [List.mem_cons] at hname ⊢
        tauto
      · rintro ⟨before, behind, hnames, hnone, hname⟩
        cases before with
        | nil =>
          obtain ⟨rfl, -⟩ := List.cons.inj hnames
          exact absurd hname (by simp [hx])
        | cons y before =>
          obtain ⟨rfl, rfl⟩ := List.cons.inj hnames
          refine ⟨before, behind, rfl, by simpa [firstRepeated, hx] using hnone, ?_⟩
          simp only [List.mem_cons] at hname ⊢
          tauto

end Compile

section Order

variable {text : String} {w : Written}

def Token.group? (t : Token) : Option WrittenGroup :=
  t.kind.segment?.bind Segment.group?

lemma Token.groups_join (ts : List Token) : (ts.foldr join []).filterMap group? = ts.filterMap group? := by
  have hjoin : ∀ (t : Token) (us : List Token), (join t us).filterMap group? = (t :: us).filterMap group? := by
    intro t us
    obtain ⟨start, mid, kind⟩ := t
    cases us with
    | nil => cases kind <;> rfl
    | cons u us =>
      obtain ⟨mid', stop, kind'⟩ := u
      cases kind <;> cases kind' <;> rfl
  induction ts with
  | nil => rfl
  | cons t ts ih => rw [List.foldr_cons, hjoin, List.filterMap_cons, List.filterMap_cons, ih]

lemma groups_readBranch {ts rest : List Token} {segments : List (Segment WrittenGroup)}
    (h : readBranch ts = .ok (segments, rest)) :
    ts.filterMap Token.group? = Segment.groups segments ++ rest.tail.filterMap Token.group? := by
  induction ts generalizing segments with
  | nil =>
    cases h
    rfl
  | cons t ts ih =>
    rcases readBranch_cons.mp h with ⟨hbar, rfl, rfl⟩ | ⟨s, more, hs, hmore, rfl⟩
    · rw [List.filterMap_cons, Token.group?, hbar]
      rfl
    · rw [List.filterMap_cons, Token.group?, hs, ih hmore]
      cases s <;> rfl

lemma groups_read (h : read text = .ok w) : w.groups = (tokensFrom 0 text.toList).filterMap Token.group? := by
  obtain ⟨left, rest, hleft, hw⟩ := read_eq_ok.mp h
  rw [groups_readBranch hleft]
  rcases hw with ⟨rfl, rfl⟩ | ⟨t, ts, right, rfl, hright, rfl⟩
  · simp [Written.groups, Branches.toList]
  · rw [Written.groups_two, List.tail_cons, groups_readBranch hright]
    simp

lemma Lexeme.groups_tokens (pos : Nat) (ls : List Lexeme) :
    (∀ g ∈ (tokens pos ls).filterMap Token.group?, pos ≤ g.pos) ∧
      ((tokens pos ls).filterMap Token.group?).Pairwise fun g k => g.pos < k.pos := by
  induction ls generalizing pos with
  | nil => simp [tokens]
  | cons l ls ih =>
    obtain ⟨hle, hpairs⟩ := ih (pos + byteLength l.chars)
    have hbehind : ∀ g ∈ (tokens (pos + byteLength l.chars) ls).filterMap Token.group?, pos ≤ g.pos :=
      fun g hg => (Nat.le_add_right _ _).trans (hle g hg)
    rw [tokens, List.filterMap_cons]
    cases hg : (l.token pos).group? with
    | none => exact ⟨hbehind, hpairs⟩
    | some g =>
      obtain ⟨content, rfl⟩ : ∃ content, l = group content := by
        cases l with
        | group content => exact ⟨content, rfl⟩
        | escape c => cases hg
        | plain c =>
          simp only [Token.group?, token, kind, Token.ofChar] at hg
          split at hg
          · cases hg
          · split_ifs at hg
            all_goals cases hg
      obtain rfl : WrittenGroup.ofContent pos content = g := Option.some.inj hg
      refine ⟨List.forall_mem_cons.mpr ⟨Nat.le_refl pos, hbehind⟩, List.pairwise_cons.mpr ⟨fun k hk => ?_, hpairs⟩⟩
      have hwide : 0 < byteLength (chars (.group content)) := by simp [chars, byteLength, Char.utf8Size_pos]
      exact Nat.lt_of_lt_of_le (Nat.lt_add_of_pos_right hwide) (hle k hk)

/-- The groups of a pattern are in the order of their positions in the text. -/
lemma pairwise_pos_read (h : read text = .ok w) : w.groups.Pairwise fun g k => g.pos < k.pos := by
  obtain ⟨ls, rest, hreading, hrest⟩ := Reading.exists_reading text.toList
  have hnone : (Token.single (0 + Lexeme.bytes ls) rest).filterMap Token.group? = [] := by
    rcases hrest with rfl | hd
    · rfl
    · obtain ⟨more, rfl⟩ := hd.1
      rw [hd.single_eq]
      rfl
  rw [groups_read h, tokensFrom, Token.groups_join, hreading.single_eq, List.filterMap_append, hnone, List.append_nil]
  exact (Lexeme.groups_tokens 0 ls).2

end Order

/-- The leftmost group that stands for nothing decides. -/
def FirstFault (types : Registry) (groups : List WrittenGroup) (e : Error) : Prop :=
  ∃ before g behind, groups = before ++ g :: behind ∧ (∀ k ∈ before, k.Fine types) ∧ g.Fault types e

/-- The leftmost group decides whose name is one of a group before it. -/
def FirstRepeat (groups : List WrittenGroup) (e : Error) : Prop :=
  ∃ before g behind name, groups = before ++ g :: behind ∧ (before.filterMap (·.name)).Nodup ∧ g.name = some name ∧
    name ∈ before.filterMap (·.name) ∧ e = .duplicateGroupName name

section Outcome

variable {types : Registry} {groups : List WrittenGroup} {e : Error}

lemma findSome?_fault_eq_none :
    (groups.findSome? fun g => fault? (Group.resolve types g)) = none ↔ ∀ g ∈ groups, g.Fine types := by
  simp only [List.findSome?_eq_none_iff, fault?_resolve_eq_none]

lemma findSome?_fault_eq_some :
    (groups.findSome? fun g => fault? (Group.resolve types g)) = some e ↔ FirstFault types groups e := by
  simp only [List.findSome?_eq_some_iff, fault?_resolve_eq_none, fault?_resolve_eq_some, FirstFault]
  constructor
  · rintro ⟨before, g, behind, hgroups, hg, hbefore⟩
    exact ⟨before, g, behind, hgroups, hbefore, hg⟩
  · rintro ⟨before, g, behind, hgroups, hbefore, hg⟩
    exact ⟨before, g, behind, hgroups, hg, hbefore⟩

lemma repeated_eq_some :
    (firstRepeated [] (groups.filterMap (·.name))).map Error.duplicateGroupName = some e ↔ FirstRepeat groups e := by
  rw [Option.map_eq_some_iff]
  simp only [firstRepeated_eq_some, firstRepeated_eq_none, List.not_mem_nil, or_false]
  constructor
  · rintro ⟨name, ⟨names, more, hnames, ⟨hnodup, -⟩, hmem⟩, rfl⟩
    obtain ⟨before, rest, rfl, rfl, hrest⟩ := List.filterMap_eq_append_iff.mp hnames
    obtain ⟨nameless, g, behind, rfl, hnone, hg, -⟩ := List.filterMap_eq_cons_iff.mp hrest
    have hfront : (before ++ nameless).filterMap (·.name) = before.filterMap (·.name) := by
      rw [List.filterMap_append, List.filterMap_eq_nil_iff.mpr hnone, List.append_nil]
    refine ⟨before ++ nameless, g, behind, name, by simp, ?_, hg, ?_, rfl⟩
    · rwa [hfront]
    · rwa [hfront]
  · rintro ⟨before, g, behind, name, rfl, hnodup, hg, hmem, rfl⟩
    refine ⟨name, ⟨before.filterMap (·.name), behind.filterMap (·.name), ?_, ⟨hnodup, by simp⟩, hmem⟩, rfl⟩
    rw [List.filterMap_append, List.filterMap_cons, hg]

end Outcome

/-- A pattern compiles where it can be read, all its groups stand for something and no name occurs twice. Where it does
not, reading it fails, or else the leftmost group that stands for nothing is reported, or else the leftmost group with
the name of one before it. -/
theorem compile_reports_first_fault (types : Registry) (flexible : Bool) (text : String) :
    ((∃ c, compile types flexible text = .ok c) ↔ ∃ w, read text = .ok w ∧ (∀ g ∈ w.groups, g.Fine types) ∧
        (w.groups.filterMap (·.name)).Nodup) ∧
      (∀ e, compile types flexible text = .error e ↔ read text = .error e ∨ ∃ w, read text = .ok w ∧
        (FirstFault types w.groups e ∨ (∀ g ∈ w.groups, g.Fine types) ∧ FirstRepeat w.groups e)) ∧
      ∀ w, read text = .ok w → w.groups.Pairwise fun g k => g.pos < k.pos := by
  refine ⟨?_, fun e => ?_, fun w => pairwise_pos_read⟩
  · cases hread : read text with
    | error e =>
      have hcompile : compile types flexible text = .error e := by
        rw [compile, hread]
        rfl
      simp [hcompile]
    | ok w =>
      rw [← fault?_eq_none, fault?_compile_read hread, Option.or_eq_none_iff, Option.map_eq_none_iff,
        findSome?_fault_eq_none, firstRepeated_eq_none]
      simp
  · cases hread : read text with
    | error e' =>
      have hcompile : compile types flexible text = .error e' := by
        rw [compile, hread]
        rfl
      simp [hcompile]
    | ok w =>
      rw [← fault?_eq_some, fault?_compile_read hread, Option.or_eq_some_iff, findSome?_fault_eq_none,
        findSome?_fault_eq_some, repeated_eq_some]
      simp

end Pattern

end TypedPattern
