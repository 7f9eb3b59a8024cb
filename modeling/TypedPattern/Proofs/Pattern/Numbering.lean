import TypedPattern.Pattern.Compiled
import TypedPattern.Proofs.Pattern.Rendering
import TypedPattern.Proofs.Printing.Digits
import TypedPattern.Proofs.Reading.Bare

/-! Groups are numbered from the left, and told apart by their names. -/

namespace TypedPattern.Pattern

lemma toString_inj {m n : Nat} (h : toString m = toString n) : m = n := by
  have hd : Text.decimal m = Text.decimal n := String.ofList_injective h
  rw [← Text.decimalValue_decimal m, hd, Text.decimalValue_decimal]

/-- The names of groups without one are none that a pattern can give. -/
lemma isIdentifier_ne_unnamed {name : String} (h : isIdentifier name = true) (n : Nat) :
    name ≠ "unnamed." ++ toString n := by
  rintro rfl
  refine isIdentifier_no_mark h '.' (by decide) (by decide) ?_
  rw [String.toList_append]
  exact List.mem_append_left _ (by decide)

lemma Capture.id_of_name {c : Capture} {name : String} (h : c.name = some name) : c.id = name := by
  rw [Capture.id, h]

lemma Capture.id_of_none {c : Capture} (h : c.name = none) : c.id = "unnamed." ++ toString c.order := by
  rw [Capture.id, h]

lemma firstRepeated_eq_none {seen names : List String} :
    firstRepeated seen names = none ↔ names.Nodup ∧ ∀ name ∈ names, name ∉ seen := by
  induction names generalizing seen with
  | nil => simp [firstRepeated]
  | cons name rest ih =>
    rw [firstRepeated]
    by_cases hs : name ∈ seen
    · simp [hs]
    · rw [if_neg (by simpa using hs), ih, List.nodup_cons]
      simp only [List.mem_cons, not_or, forall_eq_or_imp]
      constructor
      · rintro ⟨hn, hr⟩
        exact ⟨⟨fun hm => (hr name hm).1 rfl, hn⟩, hs, fun other ho => (hr other ho).2⟩
      · rintro ⟨⟨hm, hn⟩, -, hr⟩
        exact ⟨hn, fun other ho => ⟨fun he => hm (he ▸ ho), hr other ho⟩⟩

lemma orders_number (next : Nat) (segments : List (Segment Group)) :
    (Segment.groups (number next segments)).map (·.order) = List.range' next (Segment.groups segments).length := by
  induction segments generalizing next with
  | nil => rfl
  | cons s rest ih =>
    cases s with
    | literal text => exact ih next
    | wildcard w => exact ih next
    | group g => exact congrArg (next :: ·) (ih (next + 1))

/-- What a group captures, and its name. -/
def Capture.group (c : Capture) : Group :=
  ⟨c.name, c.constraint⟩

lemma groups_number (next : Nat) (segments : List (Segment Group)) :
    (Segment.groups (number next segments)).map Capture.group = Segment.groups segments := by
  induction segments generalizing next with
  | nil => rfl
  | cons s rest ih =>
    cases s with
    | literal text => exact ih next
    | wildcard w => exact ih next
    | group g => exact congrArg (g :: ·) (ih (next + 1))

def Resolved.groups (r : Resolved) : List Group :=
  r.toList.flatMap Segment.groups

lemma Resolved.orders_number (r : Resolved) :
    (r.number.toList.flatMap Segment.groups).map (·.order) = List.range r.groups.length := by
  cases r with
  | one only =>
    have h := Pattern.orders_number 0 only
    simpa [Resolved.number, Branches.toList, Resolved.groups, List.range_eq_range'] using h
  | two left right =>
    have hl := Pattern.orders_number 0 left
    have hr := Pattern.orders_number (Segment.groups left).length right
    simp only [Resolved.number, Branches.toList, Resolved.groups, List.flatMap_cons, List.flatMap_nil, List.append_nil,
      List.map_append, hl, hr, List.length_append, List.range_eq_range', ← List.range'_append_1, Nat.zero_add]

lemma Resolved.groups_number (r : Resolved) :
    (r.number.toList.flatMap Segment.groups).map Capture.group = r.groups := by
  cases r with
  | one only => simp [Resolved.number, Branches.toList, Resolved.groups, Pattern.groups_number]
  | two left right => simp [Resolved.number, Branches.toList, Resolved.groups, Pattern.groups_number]

/-- Widths keep to the limit. -/
def Constraint.InRange : Constraint → Prop
  | width n => n ≤ maxWidth
  | _ => True

lemma Constraint.inRange_of_resolve {types : Registry} {pos : Nat} {text : Option String} {constraint : Constraint}
    (h : Constraint.resolve types pos text = .ok constraint) : constraint.InRange := by
  unfold Constraint.resolve at h
  split at h
  · cases h
    trivial
  · dsimp only at h
    split_ifs at h with hd hw
    · cases h
      exact hw
    · obtain ⟨t, -, rfl⟩ := Regex.map_eq_ok.mp h
      trivial

lemma Group.resolve_ok {types : Registry} {g : WrittenGroup} {h : Group} (hr : Group.resolve types g = .ok h) :
    h.name = g.name ∧ (∀ name ∈ h.name, isIdentifier name = true) ∧
      Constraint.resolve types g.pos g.constraint = .ok h.constraint := by
  unfold Group.resolve at hr
  split at hr
  · cases hr
  · rename_i hf
    obtain ⟨constraint, hc, rfl⟩ := Regex.map_eq_ok.mp hr
    refine ⟨rfl, fun name hn => ?_, hc⟩
    by_contra hi
    exact Option.filter_eq_none_iff.mp hf name hn (by simpa using hi)

lemma Segment.mapAllM_eq_ok {γ δ ε : Type} {f : γ → Except ε δ} {ss : List (Segment γ)} {ts : List (Segment δ)} :
    Segment.mapAllM f ss = .ok ts ↔ List.Forall₂ (fun s t => s.mapM f = .ok t) ss ts := by
  induction ss generalizing ts with
  | nil =>
    rw [List.forall₂_nil_left_iff]
    exact ⟨fun h => (Except.ok.inj h).symm, fun h => h ▸ rfl⟩
  | cons s ss ih =>
    constructor
    · intro h
      obtain ⟨t, ht, h⟩ := Regex.bind_eq_ok.mp h
      obtain ⟨us, hus, h⟩ := Regex.bind_eq_ok.mp h
      cases h
      exact .cons ht (ih.mp hus)
    · rintro (_ | ⟨ht, hts⟩)
      exact Regex.bind_eq_ok.mpr ⟨_, ht, Regex.bind_eq_ok.mpr ⟨_, ih.mpr hts, rfl⟩⟩

lemma groups_of_mapAllM {γ δ ε : Type} {f : γ → Except ε δ} {ss : List (Segment γ)} {ts : List (Segment δ)}
    (h : Segment.mapAllM f ss = .ok ts) :
    List.Forall₂ (fun g d => f g = .ok d) (Segment.groups ss) (Segment.groups ts) := by
  rw [Segment.mapAllM_eq_ok] at h
  induction h with
  | nil => exact .nil
  | @cons s t ss ts hs _ ih =>
    cases s with
    | literal text =>
      cases hs
      exact ih
    | wildcard w =>
      cases hs
      exact ih
    | group g =>
      obtain ⟨d, hd, rfl⟩ := Regex.map_eq_ok.mp hs
      exact .cons hd ih

lemma mem_groups_of_mapAllM {γ δ ε : Type} {f : γ → Except ε δ} {ss : List (Segment γ)} {ts : List (Segment δ)}
    (h : Segment.mapAllM f ss = .ok ts) {d : δ} (hd : d ∈ Segment.groups ts) : ∃ g, f g = .ok d := by
  obtain ⟨i, hi, rfl⟩ := List.getElem_of_mem hd
  have hall := groups_of_mapAllM h
  exact ⟨_, hall.get (hall.length_eq ▸ hi) hi⟩

lemma Written.resolve_branch {types : Registry} {raw : Written} {resolved : Resolved}
    (h : Written.resolve types raw = .ok resolved) : ∀ b ∈ resolved.toList, ∃ w ∈ raw.toList,
      Segment.mapAllM (Group.resolve types) w = .ok b := by
  cases raw with
  | one only =>
    obtain ⟨b, hb, rfl⟩ := Regex.map_eq_ok.mp h
    simpa [Branches.toList] using hb
  | two left right =>
    obtain ⟨l, hl, h⟩ := Regex.bind_eq_ok.mp h
    obtain ⟨r, hr, h⟩ := Regex.bind_eq_ok.mp h
    cases h
    simp [Branches.toList, hl, hr]

lemma compile_ok {types : Registry} {flexible : Bool} {text : String} {c : Compiled}
    (h : compile types flexible text = .ok c) : ∃ raw resolved, read text = .ok raw ∧
      Written.resolve types raw = .ok resolved ∧ c = ⟨resolved.number, flexible⟩ ∧
        (c.groups.filterMap (·.name)).Nodup := by
  obtain ⟨raw, hraw, h⟩ := Regex.bind_eq_ok.mp h
  obtain ⟨resolved, hres, h⟩ := Regex.bind_eq_ok.mp h
  unfold Resolved.compile at h
  dsimp only at h
  split at h
  · cases h
  · rename_i hn
    cases h
    exact ⟨raw, resolved, hraw, hres, rfl, (firstRepeated_eq_none.mp hn).1⟩

lemma compile_flexible {types : Registry} {flexible flexible' : Bool} {text : String} {c : Compiled}
    (h : compile types flexible text = .ok c) : compile types flexible' text = .ok ⟨c.branches, flexible'⟩ := by
  obtain ⟨raw, resolved, hraw, hres, rfl, hnodup⟩ := compile_ok h
  have hnone : firstRepeated [] ((Compiled.groups ⟨resolved.number, flexible'⟩).filterMap (·.name)) = none :=
    firstRepeated_eq_none.mpr ⟨hnodup, fun name _ => List.not_mem_nil⟩
  refine Regex.bind_eq_ok.mpr ⟨raw, hraw, Regex.bind_eq_ok.mpr ⟨resolved, hres, ?_⟩⟩
  rw [Resolved.compile, hnone]

lemma exists_resolve_of_mem {types : Registry} {flexible : Bool} {text : String} {c : Compiled}
    (h : compile types flexible text = .ok c) {g : Capture} (hg : g ∈ c.groups) :
    ∃ written, Group.resolve types written = .ok g.group := by
  obtain ⟨raw, resolved, -, hres, rfl, -⟩ := compile_ok h
  have hgroups : (Compiled.groups ⟨resolved.number, flexible⟩).map Capture.group = resolved.groups :=
    resolved.groups_number
  have hmem : g.group ∈ resolved.groups := hgroups ▸ List.mem_map_of_mem hg
  obtain ⟨b, hb, hgb⟩ := List.mem_flatMap.mp hmem
  obtain ⟨w, -, hw⟩ := Written.resolve_branch hres b hb
  exact mem_groups_of_mapAllM hw hgb

namespace Compiled

/-- The groups of a pattern are numbered by their places and named by identifiers that differ, and no width is too
large. -/
structure Sound (c : Compiled) : Prop where
  orders : c.groups.map (·.order) = List.range c.groups.length
  names : (c.groups.filterMap (·.name)).Nodup
  identifiers : ∀ g ∈ c.groups, ∀ name ∈ g.name, isIdentifier name = true
  widths : ∀ g ∈ c.groups, g.constraint.InRange

variable {c : Compiled}

lemma Sound.orders_nodup (h : c.Sound) : (c.groups.map (·.order)).Nodup :=
  h.orders ▸ List.nodup_range

lemma Sound.ids_nodup (h : c.Sound) : (c.groups.map Capture.id).Nodup := by
  have ho := List.pairwise_map.mp h.orders_nodup
  have hn := List.pairwise_filterMap.mp h.names
  refine List.pairwise_map.mpr (((ho.and hn).imp_of_mem ?_))
  rintro a b ha hb ⟨hab, hnab⟩ heq
  cases hna : a.name with
  | none =>
    rw [Capture.id_of_none hna] at heq
    cases hnb : b.name with
    | none =>
      rw [Capture.id_of_none hnb] at heq
      exact hab (toString_inj (String.append_right_inj _ |>.mp heq))
    | some name =>
      rw [Capture.id_of_name hnb] at heq
      exact isIdentifier_ne_unnamed (h.identifiers b hb name hnb) a.order heq.symm
  | some name =>
    rw [Capture.id_of_name hna] at heq
    cases hnb : b.name with
    | none =>
      rw [Capture.id_of_none hnb] at heq
      exact isIdentifier_ne_unnamed (h.identifiers a ha name hna) b.order heq
    | some other =>
      rw [Capture.id_of_name hnb] at heq
      exact hnab name hna other hnb heq

end Compiled

/-- A pattern that compiles has sound groups. -/
theorem sound_of_compile {types : Registry} {flexible : Bool} {text : String} {c : Compiled}
    (h : compile types flexible text = .ok c) : c.Sound := by
  refine ⟨?_, ?_, fun g hg name hname => ?_, fun g hg => ?_⟩
  · obtain ⟨raw, resolved, -, -, rfl, -⟩ := compile_ok h
    have hgroups : (Compiled.groups ⟨resolved.number, flexible⟩).map Capture.group = resolved.groups :=
      resolved.groups_number
    rw [← List.length_map (f := Capture.group), hgroups]
    exact resolved.orders_number
  · obtain ⟨-, -, -, -, -, hnodup⟩ := compile_ok h
    exact hnodup
  · obtain ⟨written, hwritten⟩ := exists_resolve_of_mem h hg
    exact (Group.resolve_ok hwritten).2.1 name hname
  · obtain ⟨written, hwritten⟩ := exists_resolve_of_mem h hg
    exact Constraint.inRange_of_resolve (Group.resolve_ok hwritten).2.2

end TypedPattern.Pattern
