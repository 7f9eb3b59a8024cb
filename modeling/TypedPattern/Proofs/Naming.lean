import TypedPattern.Proofs.Editing
import TypedPattern.Proofs.Template

/-! Replacing captures by their names is replacing them by their positions, with what they captured for all the others. -/

namespace TypedPattern

open List (Forall₂)
open Pattern (Capture Config Segment)
open Regex (Stretch)
open Text (ByteSpan byteLength)

namespace Piece

variable {pieces : List Piece} {tail : List Char}

lemma stretch_spans (before : List Char) (pieces : List Piece) (tail : List Char) :
    Forall₂ (fun s p => Stretch (before ++ (whole pieces ++ tail)) s p.raw) (spans (byteLength before) pieces) pieces := by
  induction pieces generalizing before with
  | nil => exact .nil
  | cons p pieces ih =>
    have hrest := ih (before ++ (p.gap ++ p.raw))
    rw [Text.byteLength_append] at hrest
    refine .cons ⟨before ++ p.gap, whole pieces ++ tail, ?_, ?_⟩ ?_
    · simp [whole_cons]
    · simp [Text.byteLength_append]
    · simpa [whole_cons] using hrest

/-- Values for some of the captures leave the other captures in the gaps. -/
lemma exists_chosen {captures : List Captured} {n : Nat} (hs : captures.map (·.span) = spans n pieces)
    (tail : List Char) (value? : Captured → Option String) : ∃ pieces' tail', ∃ values : List String,
      whole pieces' ++ tail' = whole pieces ++ tail ∧
      (captures.filterMap fun c => (value? c).map (Edit.mk c.span)) = (spans n pieces').zipWith Edit.mk values ∧
      replaced pieces' values ++ tail' =
        replaced pieces (captures.zipWith (fun c p => (value? c).getD (String.ofList p.raw)) pieces) ++ tail := by
  induction pieces generalizing captures n with
  | nil =>
    obtain rfl := List.map_eq_nil_iff.mp hs
    exact ⟨[], tail, [], rfl, rfl, rfl⟩
  | cons p pieces ih =>
    obtain ⟨c, captures, rfl, hspan, hrest⟩ := List.map_eq_cons_iff.mp hs
    obtain ⟨pieces', tail', values, hwhole, hedits, hreplaced⟩ := ih hrest
    cases hv : value? c with
    | some value =>
      refine ⟨p :: pieces', tail', value :: values, ?_, ?_, ?_⟩
      · simp [whole_cons, hwhole]
      · simp [hv, hedits, hspan, spans]
      · simp [hv, replaced, hreplaced]
    | none =>
      obtain ⟨lead, rest, hlead, hjoin⟩ := exists_lead (p.gap ++ p.raw) pieces' tail'
      have hall := hjoin []
      rw [replaced_nil, replaced_nil] at hall
      refine ⟨lead, rest, values, ?_, ?_, ?_⟩
      · simp [hall, hwhole, whole_cons]
      · simp [hv, hedits, hlead]
      · simp [hv, hjoin, hreplaced, replaced]

end Piece

namespace MatchResult

variable {r : MatchResult} {haystack : String} {pieces : List Piece} {tail : List Char} {n : Nat}

lemma sublist_named (captures : List Captured) (values : List (String × String)) :
    ((Edit.named captures values).map (·.span)).Sublist (captures.map (·.span)) := by
  induction captures with
  | nil => simp [Edit.named]
  | cons c captures ih =>
    cases hc : Edit.given values c with
    | none => simpa [Edit.named, hc] using ih.cons c.span
    | some value => simpa [Edit.named, hc] using ih

lemma byName_eq_named (ho : InOrder 0 (r.captures.map (·.span)) n) (values : List (String × String)) :
    Edit.byName r.captures values = Edit.named r.captures values := by
  apply List.mergeSort_of_pairwise
  exact List.pairwise_map.mp (ho.pairwise_spanLe.sublist (sublist_named r.captures values))

lemma replaceNamed_pieces (hh : r.haystack = some haystack) (ht : haystack.toList = Piece.whole pieces ++ tail)
    (hs : r.captures.map (·.span) = Piece.spans 0 pieces) (ho : InOrder 0 (r.captures.map (·.span)) n)
    (values : List (String × String)) : r.replaceNamed values =
      r.replace (r.captures.zipWith (fun c p => (Edit.given values c).getD (String.ofList p.raw)) pieces) := by
  obtain ⟨pieces', tail', chosen, hwhole, hedits, hreplaced⟩ := Piece.exists_chosen hs tail (Edit.given values)
  have happly := @Edit.apply_pieces haystack [] tail' pieces' (ht.trans hwhole.symm) chosen
  rw [hreplaced] at happly
  rw [replaceNamed, hh]
  dsimp only
  rw [byName_eq_named ho, Edit.named, hedits]
  exact happly.trans (@replace_pieces r haystack [] tail pieces _ _ hh ht hs ho _).symm

lemma replaceNamed_congr {values others : List (String × String)}
    (h : ∀ c ∈ r.captures, ∀ name, c.name = some name → values.lookup name = others.lookup name) :
    r.replaceNamed values = r.replaceNamed others := by
  have hnamed : Edit.named r.captures values = Edit.named r.captures others := by
    refine List.filterMap_congr fun c hc => congrArg (Option.map _) ?_
    cases hn : c.name with
    | none => simp [Edit.given, hn]
    | some name => simp [Edit.given, hn, h c hc name hn]
  have hsorted : Edit.byName r.captures values = Edit.byName r.captures others :=
    congrArg (fun edits : List Edit => edits.mergeSort fun e f => Edit.spanLe e.span f.span) hnamed
  simp [replaceNamed, hsorted]

lemma replaceNamed_nil (hh : r.haystack = some haystack) : r.replaceNamed [] = .ok haystack := by
  have hnone : Edit.byName r.captures [] = [] := by simp [Edit.byName]
  have happly : Edit.apply haystack [] = .ok haystack := by
    simpa [Piece.replaced] using @Edit.apply_pieces haystack [] haystack.toList [] rfl []
  simpa [replaceNamed, hh, hnone] using happly

end MatchResult

namespace Matcher

variable {types : Registry} {config : Config} {pattern : String} {m : Matcher} {haystack : String} {r : MatchResult}

/-- A result is that of a match in some mode, or of one of all matches. -/
def Finds (m : Matcher) (haystack : String) (r : MatchResult) : Prop :=
  (∃ mode, m.run mode haystack = .ok r ∧ r.isMatch = true) ∨ ∃ l, m.searchAll haystack = .ok l ∧ r ∈ l

lemma exists_foundAt_of_finds (h : make types config pattern = .ok m) (hr : m.Finds haystack r) : ∃ mode found p,
    m.FoundAt mode haystack.toList found p ∧ m.resultOf (m.program mode) haystack found = .ok r := by
  rcases hr with ⟨mode, hr, hm⟩ | ⟨l, hl, hr⟩
  · rcases run_cases h hr with rfl | hfound
    · cases hm
    · exact ⟨mode, hfound⟩
  · exact ⟨.search, exists_foundAt_of_mem h hl hr⟩

lemma exists_pieces_of_finds (h : make types config pattern = .ok m) (hl : m.compiled.Legible)
    (hr : m.Finds haystack r) : ∃ branch ∈ m.compiled.branches.toList, ∃ pieces tail stop,
      r.captures.map (·.name) = (Segment.groups branch).map (·.name) ∧ r.haystack = some haystack ∧
      haystack.toList = Piece.whole pieces ++ tail ∧ r.captures.map (·.span) = Piece.spans 0 pieces ∧
      InOrder 0 (r.captures.map (·.span)) stop := by
  obtain ⟨mode, found, p, hf, hresult⟩ := exists_foundAt_of_finds h hr
  have hstretch : ∀ s ∈ r.captures.map (·.span), ∃ raw, Stretch haystack.toList s raw := by
    simpa using stretch_of_foundAt hf hresult
  have horder := (inOrder_of_foundAt h hl hf hresult).widen (Nat.zero_le _) (Nat.le_refl _)
  obtain ⟨before, branch, behind, parts, hsplit, hparts, -, ⟨values, -, hok⟩ | ⟨t, cause, -, herror⟩⟩ :=
    exists_recorded h hl hf
  · obtain ⟨pieces, tail, htext, hspans⟩ := @exists_pieces [] haystack.toList _ _ horder hstretch
    obtain rfl := Except.ok.inj (hresult.symm.trans hok)
    refine ⟨branch, by simp [hsplit], pieces, tail, _, ?_, rfl, htext, hspans, horder⟩
    simp [← hparts, Taken.captured]
  · cases hresult.symm.trans herror

/-- Replacing by names is replacing by positions, with the value of its name for each group that has one, and for every
other group with the text that it captured. Other names do not matter, and without names the text stays as it is. -/
theorem replaceNamed_eq_replace (h : make types config pattern = .ok m) (hl : m.compiled.Legible)
    (hr : m.Finds haystack r) :
    (∃ branch ∈ m.compiled.branches.toList, r.captures.map (·.name) = (Segment.groups branch).map (·.name)) ∧
    (∃ raws : List String, Forall₂ (fun c raw => Stretch haystack.toList c.span raw.toList) r.captures raws ∧
      ∀ values : List (String × String), ∃ text, r.replaceNamed values = .ok text ∧
        r.replace (r.captures.zipWith (fun c raw => (c.name.bind fun n => values.lookup n).getD raw) raws) = .ok text) ∧
    (∀ values others : List (String × String),
      (∀ c ∈ r.captures, ∀ name, c.name = some name → values.lookup name = others.lookup name) →
        r.replaceNamed values = r.replaceNamed others) ∧
    r.replaceNamed [] = .ok haystack := by
  obtain ⟨branch, hbranch, pieces, tail, stop, hnames, hhaystack, htext, hspans, horder⟩ :=
    exists_pieces_of_finds h hl hr
  refine ⟨⟨branch, hbranch, hnames⟩, ⟨pieces.map fun p => String.ofList p.raw, ?_, fun values => ?_⟩,
    fun values others => MatchResult.replaceNamed_congr, ?_⟩
  · have hstretch : Forall₂ (fun s p => Stretch haystack.toList s p.raw) (Piece.spans 0 pieces) pieces :=
      htext ▸ Piece.stretch_spans [] pieces tail
    rw [← hspans, List.forall₂_map_left_iff] at hstretch
    simpa [List.forall₂_map_right_iff] using hstretch
  · have hnamed := MatchResult.replaceNamed_pieces hhaystack htext hspans horder values
    have hreplace := @MatchResult.replace_pieces r haystack [] tail pieces _ _ hhaystack htext hspans horder
    refine ⟨_, hnamed.trans (hreplace _), ?_⟩
    rw [List.zipWith_map_right]
    exact hreplace _
  · exact MatchResult.replaceNamed_nil hhaystack

/-- The first group keeps what it captured, the second one has a value, and the third one has no name. -/
theorem replaceNamed_eq_replace_gap : ∃ m r, make .empty {} "[a:1][b:0][:1]" = .ok m ∧ m.run .full "éa" = .ok r ∧
    m.Finds "éa" r ∧ ∃ raws : List String, Forall₂ (fun c raw => Stretch "éa".toList c.span raw.toList) r.captures raws ∧
      ∃ text, r.replaceNamed [("b", "-"), ("c", "+")] = .ok text ∧ r.replace (r.captures.zipWith
        (fun c raw => (c.name.bind fun n => [("b", "-"), ("c", "+")].lookup n).getD raw) raws) = .ok text := by
  have hall : (Regex.result? (make .empty {} "[a:1][b:0][:1]")).any (fun m =>
      m.groups.all (fun g => g.constraint.tree.legible) && (Regex.result? (m.run .full "éa")).any (·.isMatch)) = true := by
    decide +kernel
  obtain ⟨m, hm, h⟩ := Regex.any_result?.mp hall
  rw [Bool.and_eq_true, List.all_eq_true] at h
  obtain ⟨r, hr, hmatch⟩ := Regex.any_result?.mp h.2
  have hfinds : m.Finds "éa" r := .inl ⟨.full, hr, hmatch⟩
  obtain ⟨-, ⟨raws, hraws, hreplace⟩, -, -⟩ := replaceNamed_eq_replace hm h.1 hfinds
  exact ⟨m, r, hm, hr, hfinds, raws, hraws, hreplace _⟩

/-- Without the blanks of verbose mode between two hyphens the class of one group takes up the other group: a value for the
inner one takes its place by name, but not by position behind what the outer one captured. -/
theorem replaceNamed_ne_replace_verbose : ∃ types types' m r,
    Registry.empty.register "t" "(?x)[a- -[z]x+-[](]" .identity 0 = .ok types ∧
      types.register "u" "(?x)[a- -[z]x+-[])]" .identity 1 = .ok types' ∧ make types' {} "[x:t][y:u]" = .ok m ∧
        m.run .search "a]a]" = .ok r ∧ r.captures = [⟨some "x", ⟨0, 4⟩⟩, ⟨some "y", ⟨2, 3⟩⟩] ∧
          r.replaceNamed [("y", "Z")] = .ok "a]Z]" ∧ r.replace ["a]a]", "Z"] = .ok "a]a]" := by
  have hall : (Regex.result? (Registry.empty.register "t" "(?x)[a- -[z]x+-[](]" .identity 0)).any (fun types =>
      (Regex.result? (types.register "u" "(?x)[a- -[z]x+-[])]" .identity 1)).any fun types' =>
        (Regex.result? (make types' {} "[x:t][y:u]")).any fun m => (Regex.result? (m.run .search "a]a]")).any fun r =>
          r.captures == [⟨some "x", ⟨0, 4⟩⟩, ⟨some "y", ⟨2, 3⟩⟩] && r.haystack == some "a]a]") = true := by
    decide +kernel
  obtain ⟨types, ht, h⟩ := Regex.any_result?.mp hall
  obtain ⟨types', ht', h⟩ := Regex.any_result?.mp h
  obtain ⟨m, hm, h⟩ := Regex.any_result?.mp h
  obtain ⟨r, hr, h⟩ := Regex.any_result?.mp h
  rw [Bool.and_eq_true, beq_iff_eq, beq_iff_eq] at h
  have hnamed : Edit.byName r.captures [("y", "Z")] = [⟨⟨2, 3⟩, "Z"⟩] := by
    rw [h.1]
    exact List.mergeSort_singleton _
  have hsorted : [(⟨0, 4⟩ : ByteSpan), ⟨2, 3⟩].mergeSort Edit.spanLe = [⟨0, 4⟩, ⟨2, 3⟩] :=
    List.mergeSort_of_pairwise (by decide)
  have hspans : r.captures.map (·.span) = [⟨0, 4⟩, ⟨2, 3⟩] := by simp [h.1]
  refine ⟨types, types', m, r, ht, ht', hm, hr, h.1, ?_, ?_⟩
  · rw [MatchResult.replaceNamed, h.2]
    dsimp only
    rw [hnamed]
    rfl
  · rw [MatchResult.replace_sorted h.2 hspans hsorted]
    rfl

end Matcher

end TypedPattern
