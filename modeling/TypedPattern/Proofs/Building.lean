import TypedPattern.Proofs.Pattern.Expression

/-! When a pattern that compiles can be run: its expression keeps to the limits of the engine. -/

namespace TypedPattern

open Pattern (Compiled Config)
open Regex (Core Program Syntax)

namespace Regex.ByteSequence

variable {s : ByteSequence} {r : CharRange}

lemma length_byFirst_le (ss : List ByteSequence) : (byFirst ss).length ≤ ss.length := by
  fun_induction byFirst ss <;> simp_all <;> omega

lemma sum_byFirst_le (ss : List ByteSequence) : ((byFirst ss).map fun g => g.2.length).sum ≤ ss.length := by
  fun_induction byFirst ss <;> simp_all <;> omega

lemma beginnings_le (before : ByteSequence) (ss : List ByteSequence) :
    beginnings before ss ≤ (ss.map List.length).sum := by
  induction ss generalizing before with
  | nil => exact Nat.le_refl _
  | cons s rest ih => exact Nat.add_le_add (Nat.sub_le _ _) (ih s)

lemma length_bytes_le (n : Nat) : (bytes n).length ≤ 4 := by
  unfold bytes
  dsimp only
  split_ifs <;> simp

lemma length_le_of_mem_ofRange {fuel : Nat} (h : s ∈ ofRange fuel r) : s.length ≤ 4 := by
  induction fuel generalizing r with
  | zero => cases h
  | succ k ih =>
    rw [ofRange] at h
    split at h
    · exact (List.mem_append.mp h).elim ih ih
    · rw [List.mem_singleton.mp h, List.length_zipWith]
      exact (Nat.min_le_left _ _).trans (length_bytes_le _)

lemma length_le_of_mem_ofSet {cs : CharSet} (h : s ∈ ofSet cs) : s.length ≤ 4 := by
  obtain ⟨r, -, hs⟩ := List.mem_flatMap.mp h
  exact length_le_of_mem_ofRange hs

end Regex.ByteSequence

namespace Regex.Footprint

open ByteSequence (byFirst continuations ofSet)

lemma sum_eraseDups_le {α : Type} [BEq α] (size : α → Nat) (xs : List α) :
    (xs.eraseDups.map size).sum ≤ (xs.map size).sum := by
  induction hn : xs.length using Nat.strong_induction_on generalizing xs with
  | _ n ih =>
    cases xs with
    | nil => exact Nat.le_refl _
    | cons x rest =>
      have hsub : (rest.filter fun y => !y == x).Sublist rest := List.filter_sublist
      have hlength : (rest.filter fun y => !y == x).length < n := by
        rw [← hn]
        exact Nat.lt_succ_of_le hsub.length_le
      rw [List.eraseDups_cons, List.map_cons, List.map_cons, List.sum_cons, List.sum_cons]
      exact Nat.add_le_add_left
        ((ih _ hlength _ rfl).trans ((hsub.map size).sum_le_sum fun _ _ => Nat.zero_le _)) _

lemma forwardClass_le (s : CharSet) : forwardClass s ≤ state +
    ((ByteSequence.continuations 4 (ByteSequence.ofSet s)).map fun ss => ranged (ByteSequence.byFirst ss).length).sum := by
  have hfold : ∀ (xs : List (List ByteSequence)) (n : Nat),
      xs.foldl (fun total ss => total + ranged (ByteSequence.byFirst ss).length) n =
        n + (xs.map fun ss => ranged (ByteSequence.byFirst ss).length).sum := by
    intro xs
    induction xs with
    | nil => exact fun n => rfl
    | cons x rest ih =>
      intro n
      rw [List.foldl_cons, ih, List.map_cons, List.sum_cons, Nat.add_assoc]
  rw [forwardClass, hfold]
  exact Nat.add_le_add_left (sum_eraseDups_le _ _) _

lemma sum_continuations_le (depth : Nat) (ss : List ByteSequence) :
    ((continuations depth ss).map fun ss => ranged (byFirst ss).length).sum ≤ 40 * depth * ss.length := by
  induction depth generalizing ss with
  | zero => exact Nat.zero_le _
  | succ k ih =>
    rw [continuations]
    have hle : (ss.filter fun s => !s.isEmpty).length ≤ ss.length := List.length_filter_le _ _
    generalize ss.filter (fun s => !s.isEmpty) = kept at hle
    split_ifs with hempty
    · exact Nat.zero_le _
    · have hpos : 0 < kept.length := by
        rw [List.isEmpty_iff] at hempty
        exact List.length_pos_iff.mpr hempty
      have hnode : ranged (byFirst kept).length ≤ 40 * kept.length := by
        have := ByteSequence.length_byFirst_le kept
        rw [ranged, state]
        omega
      have hdeeper : (((byFirst kept).flatMap fun g => continuations k g.2).map fun ss =>
          ranged (byFirst ss).length).sum ≤ 40 * k * kept.length := by
        rw [List.map_flatMap, List.flatMap_def, List.sum_flatten, List.map_map]
        calc _ ≤ ((byFirst kept).map fun g => 40 * k * g.2.length).sum := List.sum_le_sum fun g _ => ih g.2
          _ = 40 * k * ((byFirst kept).map fun g => g.2.length).sum := List.sum_map_mul_left ..
          _ ≤ 40 * k * kept.length := Nat.mul_le_mul_left _ (ByteSequence.sum_byFirst_le kept)
      rw [List.map_cons, List.sum_cons]
      calc _ ≤ 40 * kept.length + 40 * k * kept.length := Nat.add_le_add hnode hdeeper
        _ = 40 * (k + 1) * kept.length := by ring
        _ ≤ 40 * (k + 1) * ss.length := Nat.mul_le_mul_left _ hle

lemma ofClass_le {cs : CharSet} (h : cs.isAscii = false) (backward : Bool) :
    ofClass backward cs ≤ 64 + 160 * (ofSet cs).length := by
  rw [ofClass, if_neg (Bool.eq_false_iff.mp h)]
  cases backward with
  | false =>
    have hsum := (forwardClass_le cs).trans (Nat.add_le_add_left (sum_continuations_le 4 (ofSet cs)) state)
    rw [if_neg Bool.false_ne_true]
    refine hsum.trans ?_
    rw [state]
    omega
  | true =>
    have hlengths : ((ofSet cs).map List.length).sum ≤ (ofSet cs).length * 4 := by
      rw [← List.length_map (f := List.length)]
      refine List.sum_le_card_nsmul _ 4 fun n hn => ?_
      obtain ⟨s, hs, rfl⟩ := List.mem_map.mp hn
      exact ByteSequence.length_le_of_mem_ofSet hs
    have hbeginnings := (ByteSequence.beginnings_le [] (ofSet cs)).trans hlengths
    rw [if_pos rfl, backwardClass]
    simp only [choice, state]
    omega

end Regex.Footprint

namespace Regex.Program

lemma ofText_of_fits {caseInsensitive : Bool} {text : List Char} {tree : Syntax} {core : Core} (hr : read text = .ok tree)
    (hm : tree.meaning caseInsensitive = .ok core) (hf : core.fits = true) :
    ofText caseInsensitive text = .ok ⟨core, tree.captures⟩ := by
  unfold ofText
  rw [hr]
  dsimp only
  rw [hm]
  dsimp only
  rw [if_pos hf]

/-- An expression is not run because of its size or its depth. -/
def Limited (text : List Char) (fault : ProgramFault) : Prop :=
  fault = .tooLarge ∨ fault = .unreadable ∧ ∃ span, read text = .error ⟨.nestLimitExceeded, span, none⟩

/-- A printed expression that means something is run, within the limits. -/
lemma ofText_written {caseInsensitive : Bool} {x : Syntax} (h : Syntax.Written (.level false x.bare))
    (hl : x.legible = true) (hn : x.names.Nodup) {core : Core} (hm : x.meaning caseInsensitive = .ok core)
    {fault : ProgramFault} (he : ofText caseInsensitive x.chars = .error fault) : Limited x.chars fault := by
  obtain ⟨y, hb, hread⟩ := read_chars h hl hn
  have hy : y.meaning caseInsensitive = .ok core := Syntax.meaning_of_bare_eq hb.symm hm
  unfold ofText at he
  cases hdeep : y.tooDeep? nestLimit with
  | some span =>
    rw [hdeep] at hread
    rw [hread] at he
    exact Or.inr ⟨(Except.error.inj he).symm, span, hread⟩
  | none =>
    rw [hdeep] at hread
    rw [hread] at he
    dsimp only at he
    rw [hy] at he
    dsimp only at he
    split at he
    · cases he
    · exact Or.inl (Except.error.inj he).symm

end Regex.Program

namespace Matcher

variable {types : Registry} {config : Config} {pattern : String} {c : Compiled} {caseInsensitive : Bool}

def closedTree (c : Compiled) : Syntax :=
  .concat Pattern.nowhere [Pattern.enclosed c.tree, .assertion Pattern.nowhere .lineEnd]

lemma chars_closedTree (c : Compiled) : (closedTree c).chars = atEnd c.tree.chars := by
  have hend : Regex.AssertionKind.lineEnd.chars = ['$'] := rfl
  simp [closedTree, Pattern.enclosed, atEnd, Syntax.chars, Syntax.charsOfAll, Regex.GroupKind.chars, hend]

lemma written_closedTree (h : c.Sound) : Syntax.Written (.level false (closedTree c).bare) := by
  have hplain : (Regex.GroupKind.plain []).bare.Written := ⟨List.nodup_nil, (Option.some_ne_none _).symm⟩
  exact .single (.cons (.group hplain h.written_tree) (.cons (.assertion false .lineEnd) (.nil false)))

lemma legible_closedTree (h : c.Legible) : (closedTree c).legible = true := by
  simp [closedTree, Pattern.enclosed, Syntax.legible, Syntax.legibleAll, h.tree]

lemma names_closedTree (c : Compiled) : (closedTree c).names = c.tree.names := by
  have hcaptures : (closedTree c).captures = c.tree.captures := List.append_nil _
  rw [Syntax.names, hcaptures, Syntax.names]

lemma meaning_closedTree {core : Core} (h : c.tree.meaning caseInsensitive = .ok core) :
    (closedTree c).meaning caseInsensitive = .ok (.concat [core, .look .textEnd]) := by
  obtain ⟨⟨r, y⟩, hr, rfl⟩ := Regex.map_eq_ok.mp h
  rw [Syntax.meaning]
  refine Regex.map_eq_ok.mpr ⟨(.concat [r, .look .textEnd], ⟨.standard caseInsensitive, y.next⟩), ?_, rfl⟩
  refine (Regex.Meaning.expression_enclose _ rfl c.tree).trans ?_
  rw [hr]
  rfl

lemma make_of_compile (h : Pattern.compile types config.flexibleSpaces pattern = .ok c) :
    make types config pattern =
      ((Program.ofText (!config.caseSensitive) c.regex.toList).mapError .rejectedRegex).bind fun bare =>
        ((Program.ofText (!config.caseSensitive) (atEnd c.regex.toList)).mapError .rejectedRegex).bind fun closed =>
          .ok ⟨pattern, config, c, bare, closed⟩ := by
  unfold make
  rw [h]
  rfl

/-- A pattern that compiles, whose types mean something and can be told apart, is ready to run within the limits. -/
theorem limited_of_make (h : Pattern.compile types config.flexibleSpaces pattern = .ok c) (hl : c.Legible)
    (hm : ∀ segments ∈ c.branches.toList, Pattern.Meant (!config.caseSensitive) segments) {e : Error}
    (he : make types config pattern = .error e) : ∃ fault, e = .rejectedRegex fault ∧
      (Program.Limited c.regex.toList fault ∨ Program.Limited (atEnd c.regex.toList) fault) := by
  have hs := Pattern.sound_of_compile h
  have hregex : c.regex.toList = c.tree.chars := String.toList_ofList
  have hmean : c.tree.meaning (!config.caseSensitive) = .ok _ := (Pattern.meaning_tree hs.ordered).mpr ⟨hm, rfl⟩
  have hbare := fun fault => @Program.ofText_written _ _ hs.written_tree hl.tree hs.names_nodup _ hmean fault
  have hclosed := fun fault => @Program.ofText_written _ _ (written_closedTree hs) (legible_closedTree hl)
    (names_closedTree c ▸ hs.names_nodup) _ (meaning_closedTree hmean) fault
  rw [← hregex] at hbare
  rw [chars_closedTree, ← hregex] at hclosed
  rw [make_of_compile h] at he
  cases hb : Program.ofText (!config.caseSensitive) c.regex.toList with
  | error fault =>
    rw [hb] at he
    exact ⟨fault, (Except.error.inj he).symm, Or.inl (hbare fault hb)⟩
  | ok bare =>
    cases hc : Program.ofText (!config.caseSensitive) (atEnd c.regex.toList) with
    | error fault =>
      rw [hb, hc] at he
      exact ⟨fault, (Except.error.inj he).symm, Or.inr (hclosed fault hc)⟩
    | ok closed =>
      rw [hb, hc] at he
      cases he

end Matcher

end TypedPattern
