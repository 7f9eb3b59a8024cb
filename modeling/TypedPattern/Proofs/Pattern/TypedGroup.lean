import TypedPattern.Proofs.Pattern.Joining
import TypedPattern.Proofs.Registering

/-! A registered type is what a group with its name stands for, whatever white space is about the names. -/

namespace TypedPattern

open Text (byteLength)

namespace GroupType

lemma not_reserved {c : Char} (h : reserved c = false) : isWhite c = false ∧ c ≠ '[' ∧ c ≠ ']' ∧ c ≠ ':' := by
  simpa [reserved, Bool.or_eq_false_iff, and_assoc] using h

lemma reserved_of_white {c : Char} (h : isWhite c = true) : c ≠ '[' ∧ c ≠ ']' ∧ c ≠ ':' := by
  refine ⟨?_, ?_, ?_⟩ <;> rintro rfl <;> revert h <;> decide

end GroupType

namespace Pattern

open GroupType (reserved not_reserved reserved_of_white)

lemma trim_spaced {before cs behind : List Char} (hb : ∀ c ∈ before, isWhite c = true)
    (hc : ∀ c ∈ cs, isWhite c = false) (hd : ∀ c ∈ behind, isWhite c = true) : trim (before ++ cs ++ behind) = cs := by
  have hback : ∀ c ∈ behind.reverse, isWhite c = true := fun c h => hd c (List.mem_reverse.mp h)
  cases cs with
  | nil =>
    rw [List.append_nil, trim, List.dropWhile_eq_nil_iff.mpr fun c h => (List.mem_append.mp h).elim (hb c) (hd c)]
    rfl
  | cons c cs =>
    have hhead : ¬isWhite c = true := by simp [hc c]
    have htrim := trim_of_no_white hc
    rw [trim, List.dropWhile_cons_of_neg hhead] at htrim
    rw [trim, List.append_assoc, List.dropWhile_append_of_pos hb, List.cons_append, List.dropWhile_cons_of_neg hhead,
      ← List.cons_append, List.reverse_append, List.dropWhile_append_of_pos hback, htrim]

/-- A group with white space about its name and about that of its type. -/
def spacedGroup (w₁ : List Char) (name : String) (w₂ w₃ : List Char) (type : String) (w₄ : List Char) : String :=
  String.ofList ('[' :: (w₁ ++ name.toList ++ w₂ ++ ':' :: (w₃ ++ type.toList ++ w₄)) ++ [']'])

/-- No name for an empty text. -/
def groupName (name : String) : Option String :=
  if name = "" then none else some name

section Spaced

variable {w₁ w₂ w₃ w₄ : List Char} {name type : String}
  (hw₁ : ∀ c ∈ w₁, isWhite c = true) (hw₂ : ∀ c ∈ w₂, isWhite c = true) (hw₃ : ∀ c ∈ w₃, isWhite c = true)
  (hw₄ : ∀ c ∈ w₄, isWhite c = true) (hname : ∀ c ∈ name.toList, reserved c = false)
  (htype : ∀ c ∈ type.toList, reserved c = false)

include hw₁ hw₂ hname in
lemma no_mark_before_colon : ∀ c ∈ w₁ ++ name.toList ++ w₂, c ≠ '[' ∧ c ≠ ']' ∧ c ≠ ':' := by
  intro c hc
  rcases List.mem_append.mp hc with hc | hc
  · rcases List.mem_append.mp hc with hc | hc
    · exact reserved_of_white (hw₁ c hc)
    · exact (not_reserved (hname c hc)).2
  · exact reserved_of_white (hw₂ c hc)

lemma not_reserved_of_name (h : name = "" ∨ isIdentifier name = true) : ∀ c ∈ name.toList, reserved c = false := by
  intro c hc
  rcases h with rfl | h
  · cases hc
  · simp only [reserved, Bool.or_eq_false_iff, beq_eq_false_iff_ne]
    have hmark := fun d hd hm => isIdentifier_ne h hc d hd (contains_outsideNames_of_mark hm)
    exact ⟨⟨⟨isIdentifier_no_white h c hc, hmark '[' (by decide) (by decide)⟩, hmark ']' (by decide) (by decide)⟩,
      hmark ':' (by decide) (by decide)⟩

lemma nonEmpty_name : nonEmpty name.toList = groupName name := by
  by_cases h : name = ""
  · subst h; rfl
  · rw [nonEmpty_toList (by simpa using h), groupName, if_neg h]

include hw₁ hw₂ hw₃ hw₄ hname htype

lemma ofContent_spaced (hne : type.toList ≠ []) (pos : Nat) :
    WrittenGroup.ofContent pos (w₁ ++ name.toList ++ w₂ ++ ':' :: (w₃ ++ type.toList ++ w₄)) =
      ⟨groupName name, some type, pos⟩ := by
  have hcolon : ∀ c ∈ w₁ ++ name.toList ++ w₂, (c != ':') = true := fun c hc =>
    bne_iff_ne.mpr (no_mark_before_colon hw₁ hw₂ hname c hc).2.2
  have hfirst := trim_spaced hw₁ (fun c hc => (not_reserved (hname c hc)).1) hw₂
  have hsecond := trim_spaced hw₃ (fun c hc => (not_reserved (htype c hc)).1) hw₄
  rw [WrittenGroup.ofContent, List.takeWhile_append_of_pos hcolon, List.dropWhile_append_of_pos hcolon,
    List.takeWhile_cons_of_neg (by simp), List.dropWhile_cons_of_neg (by simp), List.append_nil, List.tail_cons,
    hfirst, hsecond, nonEmpty_name, nonEmpty_toList hne]

lemma read_spaced (hne : type.toList ≠ []) :
    read (spacedGroup w₁ name w₂ w₃ type w₄) = .ok (.one [.group ⟨groupName name, some type, 0⟩]) := by
  have hmarks := no_mark_before_colon hw₁ hw₂ hname
  have hmarks' := no_mark_before_colon hw₃ hw₄ htype
  have hcolon : ∀ c ∈ w₁ ++ name.toList ++ w₂ ++ ':' :: (w₃ ++ type.toList ++ w₄), c ≠ '[' ∧ c ≠ ']' := by
    intro c hc
    rcases List.mem_append.mp hc with hc | hc
    · exact ⟨(hmarks c hc).1, (hmarks c hc).2.1⟩
    · rcases List.mem_cons.mp hc with rfl | hc
      · decide
      · exact ⟨(hmarks' c hc).1, (hmarks' c hc).2.1⟩
  -- with a colon and a name behind it the group is longer than the escape of a symbol
  have hlong : ∀ c, w₁ ++ name.toList ++ w₂ ++ ':' :: (w₃ ++ type.toList ++ w₄) = [c] → Token.escapable c = false := by
    intro c hc
    have hlen := congrArg List.length hc
    have hpos := List.length_pos_iff.mpr hne
    simp only [List.length_append, List.length_cons, List.length_nil] at hlen
    omega
  have hsingle := Token.single_group 0 _ [] (fun hm => (hcolon _ hm).1 rfl) (fun hm => (hcolon _ hm).2 rfl) hlong
  rw [ofContent_spaced hw₁ hw₂ hw₃ hw₄ hname htype hne] at hsingle
  refine read_eq_one.mpr ?_
  rw [spacedGroup, String.toList_ofList, tokensFrom, hsingle]
  rfl

end Spaced

lemma Constraint.resolve_type {types : Registry} {t : GroupType} (pos : Nat) (hf : types.find? t.name = some t) :
    Constraint.resolve types pos (some t.name) = .ok (.type t) := by
  obtain ⟨-, hdigits, -⟩ := GroupType.nameFault?_eq_none.mp t.name_ok
  unfold Constraint.resolve
  dsimp only
  rw [hdigits, if_neg Bool.false_ne_true, Registry.resolve, hf]
  rfl

lemma resolve_spaced {types : Registry} {t : GroupType} (hf : types.find? t.name = some t) {name : String}
    (hn : name = "" ∨ isIdentifier name = true) :
    Written.resolve types (.one [.group ⟨groupName name, some t.name, 0⟩]) =
      .ok (.one [.group ⟨groupName name, .type t⟩]) := by
  have hfine : (groupName name).filter (fun name => !isIdentifier name) = none := by
    rw [groupName]
    rcases hn with rfl | hn
    · rfl
    · split_ifs <;> simp [hn]
  have hg : Group.resolve types ⟨groupName name, some t.name, 0⟩ = .ok ⟨groupName name, .type t⟩ := by
    unfold Group.resolve
    dsimp only
    rw [hfine, Constraint.resolve_type 0 hf]
    rfl
  simp only [Written.resolve, Branches.mapM, Segment.mapAllM, Segment.mapM, hg]
  rfl

end Pattern

namespace Registry

/-- A type that was registered is what a group with its name stands for, with any white space about the names. -/
theorem register_reaches_type {types types' : Registry} {type fragment : String} {converter : Converter} {origin : Nat}
    (h : types.register type fragment converter origin = .ok types') :
    ∃ t, GroupType.make type fragment converter origin = .ok t ∧ ∀ (name : String) (w₁ w₂ w₃ w₄ : List Char),
      (name = "" ∨ Pattern.isIdentifier name = true) → (∀ c ∈ w₁ ++ w₂ ++ w₃ ++ w₄, isWhite c = true) →
        ∃ written, Pattern.read (Pattern.spacedGroup w₁ name w₂ w₃ type w₄) = .ok written ∧
          Pattern.Written.resolve types' written =
            .ok (.one [.group ⟨if name = "" then none else some name, .type t⟩]) := by
  obtain ⟨t, ht, hf⟩ := make_of_register h
  obtain ⟨rfl, -⟩ := GroupType.make_ok ht
  obtain ⟨hne, -, hres⟩ := GroupType.nameFault?_eq_none.mp t.name_ok
  refine ⟨t, ht, fun name w₁ w₂ w₃ w₄ hname hwhite => ?_⟩
  simp only [List.forall_mem_append] at hwhite
  obtain ⟨⟨⟨hw₁, hw₂⟩, hw₃⟩, hw₄⟩ := hwhite
  exact ⟨_, Pattern.read_spaced hw₁ hw₂ hw₃ hw₄ (Pattern.not_reserved_of_name hname) hres hne,
    Pattern.resolve_spaced hf hname⟩

/-- A type whose name is a symbol between digits, in a group with wide blanks. -/
theorem register_reaches_type_symbol : ∃ types' t, empty.register "1*|" "a" .identity 0 = .ok types' ∧
    GroupType.make "1*|" "a" .identity 0 = .ok t ∧ ∃ written,
      Pattern.read (Pattern.spacedGroup ['\u3000'] "é" [' '] ['\n'] "1*|" ['\u00a0']) = .ok written ∧
        Pattern.Written.resolve types' written = .ok (.one [.group ⟨some "é", .type t⟩]) := by
  have hok : (Regex.result? (empty.register "1*|" "a" .identity 0)).isSome = true := by decide +kernel
  obtain ⟨types', hr⟩ := Option.isSome_iff_exists.mp hok
  have hr := Regex.result?_eq_some.mp hr
  obtain ⟨t, ht, hreach⟩ := register_reaches_type hr
  have hname : "é" = "" ∨ Pattern.isIdentifier "é" = true := Or.inr (by decide +kernel)
  have hwhite : ∀ c ∈ ['\u3000'] ++ [' '] ++ ['\n'] ++ ['\u00a0'], isWhite c = true :=
    List.all_eq_true.mp (by decide +kernel)
  exact ⟨types', t, hr, ht, hreach "é" _ _ _ _ hname hwhite⟩

end Registry

end TypedPattern
