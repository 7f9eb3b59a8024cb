import TypedPattern.Proofs.Building
import TypedPattern.Proofs.Literal
import TypedPattern.Proofs.Matching.Spelling
import TypedPattern.Proofs.Unicode.Order

/-! Flexible spaces and case of no account let a pattern match more, and how much more of a literal text. -/

namespace TypedPattern

open Pattern (Branches Capture Compiled Config Segment)
open Regex (Core Program Spot Times)

namespace Regex

lemma Core.widens_repeated (r : Core) : Core.Widens r (.repeated 1 none true r) := by
  intro s t h
  rw [Core.leads_repeated]
  have hmost : ∀ m ∈ (none : Option Nat), 0 ≤ m := fun m _ => m.zero_le
  exact ⟨0, hmost, t, h, rfl⟩

lemma Core.Widens.repeated {r r' : Core} (h : Core.Widens r r') :
    Core.Widens (.repeated 1 none true r) (.repeated 1 none true r') := by
  intro s t hr
  rw [Core.leads_repeated] at hr ⊢
  exact h.repetition 1 none true s t hr

end Regex

namespace Pattern

variable {caseInsensitive flexible : Bool}

lemma widens_charCore (c : Char) : Core.Widens (charCore false c) (charCore true c) := by
  rintro s t ⟨hrest, hprev⟩
  have hc : (Unicode.closeUnderFolding (.singleton c)).contains c = true :=
    Unicode.contains_closeUnderFolding ((CharSet.contains_singleton c c).mpr rfl)
  exact (Core.leads_ofChars _).mpr ⟨c, hc, hrest, hprev⟩

/-- A character is among its cases, also where it is a space that may be repeated. -/
lemma widens_case (c : Char) : Core.Widens (literalCore false flexible c) (literalCore true flexible c) := by
  unfold literalCore
  split
  · exact (widens_charCore ' ').repeated
  · exact widens_charCore c

lemma widens_flexible (c : Char) :
    Core.Widens (literalCore caseInsensitive false c) (literalCore caseInsensitive true c) := by
  unfold literalCore
  rw [if_neg fun h => Bool.false_ne_true h.2]
  split
  · rename_i h
    rw [h.1]
    exact Core.widens_repeated _
  · exact Core.Widens.refl _

lemma Constraint.core_untyped {k : Constraint} (h : ∀ t, k ≠ .type t) :
    k.core false = k.core true ∧ ∀ caseInsensitive, ∃ r, k.tree.meaning caseInsensitive = .ok r := by
  cases k with
  | free => exact ⟨rfl, fun caseInsensitive => ⟨_, rfl⟩⟩
  | width n => exact ⟨rfl, fun caseInsensitive => ⟨_, rfl⟩⟩
  | type t => exact absurd rfl (h t)

variable {caseInsensitive' flexible' : Bool}

lemma widens_cores {segments : List (Segment Capture)}
    (hchars : ∀ c, Core.Widens (literalCore caseInsensitive flexible c) (literalCore caseInsensitive' flexible' c))
    (hgroups : ∀ g ∈ Segment.groups segments,
      Core.Widens (g.constraint.core caseInsensitive) (g.constraint.core caseInsensitive')) :
    List.Forall₂ Core.Widens (segments.flatMap (Segment.cores caseInsensitive flexible))
      (segments.flatMap (Segment.cores caseInsensitive' flexible')) := by
  induction segments with
  | nil => exact .nil
  | cons s rest ih =>
    rw [List.flatMap_cons, List.flatMap_cons]
    cases s with
    | literal text =>
      refine List.rel_append ?_ (ih hgroups)
      rw [Segment.cores, Segment.cores, List.forall₂_map_left_iff, List.forall₂_map_right_iff, List.forall₂_same]
      exact fun c _ => hchars c
    | wildcard w => exact .cons (Core.Widens.refl _) (ih hgroups)
    | group g =>
      obtain ⟨hg, hrest⟩ := List.forall_mem_cons.mp hgroups
      exact .cons hg (ih hrest)

lemma widens_core {b : Branches (List (Segment Capture))}
    (hchars : ∀ c, Core.Widens (literalCore caseInsensitive flexible c) (literalCore caseInsensitive' flexible' c))
    (hgroups : ∀ segments ∈ b.toList, ∀ g ∈ Segment.groups segments,
      Core.Widens (g.constraint.core caseInsensitive) (g.constraint.core caseInsensitive')) :
    Core.Widens (b.core caseInsensitive flexible) (b.core caseInsensitive' flexible') := by
  have hbranch : ∀ segments ∈ b.toList, Core.Widens (branchCore caseInsensitive flexible segments)
      (branchCore caseInsensitive' flexible' segments) := by
    intro segments hs s t h
    rw [branchCore, Core.leads_concat] at h ⊢
    exact Core.leadsAll_widens (widens_cores hchars (hgroups segments hs)) h
  cases b with
  | one only => exact hbranch only List.mem_cons_self
  | two left right =>
    obtain ⟨hleft, hbranch⟩ := List.forall_mem_cons.mp hbranch
    have hright := List.forall_mem_singleton.mp hbranch
    intro s t h
    rw [Branches.core, Core.leads_alternate] at h ⊢
    exact Core.leadsSome_widens (.cons hleft (.cons hright .nil)) h

end Pattern

/-- A text with each longest run of spaces in it as long or longer. -/
inductive Loosened : List Char → List Char → Prop
  | nil : Loosened [] []
  | char {c : Char} {text loose : List Char} (hc : c ≠ ' ') (h : Loosened text loose) : Loosened (c :: text) (c :: loose)
  | spaces {k n : Nat} {text loose : List Char} (hpos : 0 < k) (hle : k ≤ n) (hend : text.head? ≠ some ' ')
    (h : Loosened text loose) : Loosened (List.replicate k ' ' ++ text) (List.replicate n ' ' ++ loose)

namespace Loosened

variable {c : Char} {text loose : List Char}

lemma nil_iff : Loosened [] loose ↔ loose = [] := by
  constructor
  · intro h
    generalize htext : ([] : List Char) = text at h
    cases h with
    | nil => rfl
    | char hc h => cases htext
    | spaces hpos hle hend h =>
      obtain ⟨hk, -⟩ := List.append_eq_nil_iff.mp htext.symm
      rw [List.replicate_eq_nil_iff] at hk
      omega
  · rintro rfl
    exact .nil

lemma char_iff (hc : c ≠ ' ') : Loosened (c :: text) loose ↔ ∃ rest, loose = c :: rest ∧ Loosened text rest := by
  constructor
  · intro h
    generalize htext : c :: text = whole at h
    cases h with
    | nil => cases htext
    | char hc h =>
      cases htext
      exact ⟨_, rfl, h⟩
    | @spaces k n text' loose hpos hle hend h =>
      obtain ⟨k, rfl⟩ := Nat.exists_eq_add_one.mpr hpos
      exact absurd (List.cons.inj htext).1 hc
  · rintro ⟨rest, rfl, h⟩
    exact .char hc h

/-- A run of spaces may be taken one by one, and what is more with any of them. -/
lemma space_iff : Loosened (' ' :: text) loose ↔
    ∃ n rest, loose = List.replicate (n + 1) ' ' ++ rest ∧ Loosened text rest := by
  constructor
  · intro h
    generalize htext : ' ' :: text = whole at h
    cases h with
    | nil => cases htext
    | char hc h => exact absurd (List.cons.inj htext).1.symm hc
    | @spaces k n text' loose hpos hle hend h =>
      obtain ⟨k, rfl⟩ := Nat.exists_eq_add_one.mpr hpos
      obtain ⟨n, rfl⟩ := Nat.exists_eq_add_one.mpr (hpos.trans_le hle)
      obtain ⟨-, rfl⟩ := List.cons.inj htext
      rcases Nat.eq_zero_or_pos k with rfl | hk
      · exact ⟨n, loose, rfl, h⟩
      · exact ⟨0, List.replicate n ' ' ++ loose, rfl, .spaces hk (Nat.le_of_succ_le_succ hle) hend h⟩
  · rintro ⟨n, rest, rfl, h⟩
    by_cases hend : text.head? = some ' '
    · cases h with
      | nil => cases hend
      | char hc h => exact absurd (Option.some.inj hend) hc
      | @spaces k n' text' loose hpos hle hend' h =>
        rw [← List.append_assoc, List.replicate_append_replicate, ← List.cons_append, ← List.replicate_succ]
        exact .spaces (Nat.succ_pos k) (by omega) hend' h
    · exact .spaces (k := 1) Nat.one_pos (Nat.le_add_left 1 n) hend h

end Loosened

namespace Pattern

lemma exists_leads_space (prev : Option Char) (haystack rest : List Char) :
    (∃ last, (literalCore false true ' ').Leads ⟨prev, haystack⟩ ⟨last, rest⟩) ↔
      ∃ n, haystack = List.replicate (n + 1) ' ' ++ rest := by
  have hcore : literalCore false true ' ' = .repeated 1 none true (.literal [' ']) := if_pos ⟨rfl, rfl⟩
  have hflatten (n : Nat) : (List.replicate n [' ']).flatten = List.replicate n ' ' := List.flatten_replicate_singleton
  simp only [hcore, Core.leads_repeated]
  constructor
  · rintro ⟨last, n, -, h⟩
    obtain ⟨ws, hlength, hall, hrest⟩ := h.words (P := (· = [' '])) fun s t hst => ⟨[' '], hst.1, rfl⟩
    rw [List.eq_replicate_iff.mpr ⟨hlength, hall⟩, hflatten, Nat.add_comm] at hrest
    exact ⟨n, hrest⟩
  · rintro ⟨n, rfl⟩
    have hone : ∀ x ∈ List.replicate (n + 1) [' '], ∀ prev rest, ∃ last,
        (Core.literal [' ']).Leads ⟨prev, x ++ rest⟩ ⟨last, rest⟩ := by
      rintro x hx prev rest
      rw [List.eq_of_mem_replicate hx]
      exact ⟨some ' ', rfl, rfl⟩
    obtain ⟨last, hlast⟩ := Times.of_words hone prev rest
    have hmost : ∀ m ∈ (none : Option Nat), n ≤ m := fun m hm => absurd hm (Option.not_mem_none m)
    rw [List.length_replicate, hflatten, Nat.add_comm] at hlast
    exact ⟨last, n, hmost, Nat.add_comm n 1 ▸ hlast⟩

lemma leadsAll_flexible (text : List Char) (prev : Option Char) (haystack : List Char) :
    (∃ last, Core.LeadsAll (text.map (literalCore false true)) ⟨prev, haystack⟩ ⟨last, []⟩) ↔
      Loosened text haystack := by
  induction text generalizing prev haystack with
  | nil =>
    rw [Loosened.nil_iff]
    constructor
    · rintro ⟨last, h⟩
      exact (Spot.mk.inj h).2
    · rintro rfl
      exact ⟨prev, rfl⟩
  | cons c text ih =>
    by_cases hc : c = ' '
    · subst hc
      rw [Loosened.space_iff, List.map_cons]
      constructor
      · rintro ⟨last, ⟨prev', rest⟩, hspace, h⟩
        obtain ⟨n, hn⟩ := (exists_leads_space prev haystack rest).mp ⟨prev', hspace⟩
        exact ⟨n, rest, hn, (ih prev' rest).mp ⟨last, h⟩⟩
      · rintro ⟨n, rest, hn, h⟩
        obtain ⟨prev', hspace⟩ := (exists_leads_space prev haystack rest).mpr ⟨n, hn⟩
        obtain ⟨last, hlast⟩ := (ih prev' rest).mpr h
        exact ⟨last, ⟨prev', rest⟩, hspace, hlast⟩
    · rw [Loosened.char_iff hc]
      have hliteral : literalCore false true c = .literal [c] := if_neg fun h => hc h.1
      rw [List.map_cons, hliteral]
      constructor
      · rintro ⟨last, ⟨prev', rest⟩, ⟨hrest, -⟩, h⟩
        exact ⟨rest, hrest, (ih prev' rest).mp ⟨last, h⟩⟩
      · rintro ⟨rest, rfl, h⟩
        obtain ⟨last, hlast⟩ := (ih (some c) rest).mpr h
        exact ⟨last, ⟨some c, rest⟩, ⟨rfl, rfl⟩, hlast⟩

lemma accepts_flexible {text haystack : List Char} :
    (branchCore false true (literalSegments Capture text)).Accepts haystack ↔ Loosened text haystack := by
  rw [← leadsAll_flexible text none, Core.Accepts, branchCore, cores_literalSegments]
  simp only [Core.leads_concat]
  constructor
  · rintro ⟨⟨last, rest⟩, h, rfl⟩
    exact ⟨last, h⟩
  · rintro ⟨last, h⟩
    exact ⟨⟨last, []⟩, h, rfl⟩

end Pattern

namespace Matcher

variable {types : Registry} {config config' : Config} {pattern : String} {m m' : Matcher}

/-- What one matcher matches the other one matches too, in every mode. -/
def KeptBy (m m' : Matcher) : Prop :=
  ∀ haystack, (∀ mode, ¬Missed (m.run mode haystack) → ¬Missed (m'.run mode haystack)) ∧
    (m.searchAll haystack ≠ .ok [] → m'.searchAll haystack ≠ .ok [])

lemma keptBy_of_widens (h : make types config pattern = .ok m) (h' : make types config' pattern = .ok m')
    (hw : Core.Widens m.bare.core m'.bare.core) : m.KeptBy m' := by
  obtain ⟨hb, hc⟩ := make_ok h
  obtain ⟨hb', hc'⟩ := make_ok h'
  have hclosed : Core.Widens m.closed.core m'.closed.core := by
    intro s t hst
    rw [Program.leads_enclose hb hc] at hst
    exact (Program.leads_enclose hb' hc' s t).mpr ⟨hw s t hst.1, hst.2⟩
  have hmatch {r r' : Core} (hr : Core.Widens r r') (text : List Char) (hm : (r.matchAt (.ofText text)).isSome = true) :
      (r'.matchAt (.ofText text)).isSome = true := by
    have hon := Regex.Point.on_ofText text
    obtain ⟨t, ht⟩ := (Core.matchAt_isSome_iff hon rfl).mp hm
    exact (Core.matchAt_isSome_iff hon rfl).mpr ⟨t, hr _ t ht⟩
  have hsearch {r r' : Core} (hr : Core.Widens r r') (text : List Char) (hm : (r.search (.ofText text)).isSome = true) :
      (r'.search (.ofText text)).isSome = true := by
    obtain ⟨p, hp, t, ht⟩ := Core.search_isSome_iff.mp hm
    exact Core.search_isSome_iff.mpr ⟨p, hp, t, hr _ t ht⟩
  intro haystack
  have hrun : ∀ mode, ¬Missed (m.run mode haystack) → ¬Missed (m'.run mode haystack) := by
    intro mode
    rw [not_missed_run, not_missed_run]
    cases mode with
    | full => exact hmatch hclosed haystack.toList
    | start => exact hmatch hw haystack.toList
    | stop => exact hsearch hclosed haystack.toList
    | search => exact hsearch hw haystack.toList
  refine ⟨hrun, ?_⟩
  rw [Ne, Ne, searchAll_eq_nil_iff, searchAll_eq_nil_iff]
  exact hrun .search

/-- A pattern that compiles makes a matcher of which something holds, within the limits of the engine. -/
def Makes (types : Registry) (config : Config) (pattern : String) (p : Matcher → Prop) : Prop :=
  ∃ c, Pattern.compile types config.flexibleSpaces pattern = .ok c ∧
    ((∃ m, make types config pattern = .ok m ∧ p m) ∨
      ∃ fault, make types config pattern = .error (.rejectedRegex fault) ∧
        (Program.Limited c.regex.toList fault ∨ Program.Limited (atEnd c.regex.toList) fault))

lemma makes_of_compile {p : Matcher → Prop} {c : Compiled}
    (hc : Pattern.compile types config.flexibleSpaces pattern = .ok c) (hl : c.Legible)
    (hmeant : ∀ segments ∈ c.branches.toList, Pattern.Meant (!config.caseSensitive) segments)
    (hp : ∀ m, make types config pattern = .ok m → m.compiled = c → p m) : Makes types config pattern p := by
  refine ⟨c, hc, ?_⟩
  cases hm : make types config pattern with
  | error e =>
    obtain ⟨fault, rfl, hfault⟩ := limited_of_make hc hl hmeant hm
    exact Or.inr ⟨fault, rfl, hfault⟩
  | ok m => exact Or.inl ⟨m, rfl, hp m hm (Except.ok.inj ((compile_of_make hm).symm.trans hc))⟩

lemma makes_flexible {caseSensitive : Bool} (h : make types ⟨caseSensitive, false⟩ pattern = .ok m)
    (hl : m.compiled.Legible) : Makes types ⟨caseSensitive, true⟩ pattern m.KeptBy := by
  have hc : Pattern.compile types true pattern = .ok ⟨m.compiled.branches, true⟩ :=
    Pattern.compile_flexible (compile_of_make h)
  obtain ⟨hcore, hmeant, -⟩ := bare_of_make h hl
  refine makes_of_compile hc hl hmeant fun m' h' hc' => keptBy_of_widens h h' ?_
  rw [hcore, (bare_of_make h' (hc' ▸ hl)).1, hc']
  exact Pattern.widens_core Pattern.widens_flexible fun _ _ _ _ => Core.Widens.refl _

lemma makes_caseInsensitive {flexible : Bool} (h : make types ⟨true, flexible⟩ pattern = .ok m)
    (hg : ∀ g ∈ m.groups, ∀ t, g.constraint ≠ .type t) : Makes types ⟨false, flexible⟩ pattern m.KeptBy := by
  have hc : Pattern.compile types flexible pattern = .ok m.compiled := compile_of_make h
  have hl := Pattern.Compiled.legible_of_plain fun g hg' t ht => absurd ht (hg g hg' t)
  have huntyped : ∀ segments ∈ m.compiled.branches.toList, ∀ g ∈ Segment.groups segments, _ :=
    fun segments hs g hg' => Pattern.Constraint.core_untyped (hg g (List.mem_flatMap.mpr ⟨segments, hs, hg'⟩))
  have hmeant : ∀ segments ∈ m.compiled.branches.toList, Pattern.Meant true segments :=
    fun segments hs g hg' => (huntyped segments hs g hg').2 true
  refine @makes_of_compile _ ⟨false, flexible⟩ _ _ _ hc hl hmeant fun m' h' hc' => keptBy_of_widens h h' ?_
  have hcore : m.bare.core = m.compiled.branches.core false flexible := (bare_of_make h hl).1
  have hcore' : m'.bare.core = m.compiled.branches.core true flexible := hc' ▸ (bare_of_make h' (hc' ▸ hl)).1
  rw [hcore, hcore']
  refine Pattern.widens_core Pattern.widens_case fun segments hs g hg' => ?_
  rw [(huntyped segments hs g hg').1]
  exact Core.Widens.refl _

lemma makes_escape (types : Registry) (text : String) : Makes types ⟨true, true⟩ (Pattern.escape text) fun m =>
    ∀ haystack : String, ¬Missed (m.run .full haystack) ↔ Loosened text.toList haystack.toList := by
  have hnone : ∀ g, g ∉ Segment.groups (Pattern.literalSegments Capture text.toList) := by
    simp [Pattern.groups_literalSegments]
  have hl : Compiled.Legible ⟨.one (Pattern.literalSegments Capture text.toList), true⟩ := fun g hg => by
    rw [Compiled.groups, Branches.toList, List.flatMap_singleton] at hg
    exact absurd hg (hnone g)
  have hmeant : ∀ segments ∈ [Pattern.literalSegments Capture text.toList], Pattern.Meant false segments :=
    List.forall_mem_singleton.mpr fun g hg => absurd hg (hnone g)
  refine @makes_of_compile _ ⟨true, true⟩ _ _ _ (Pattern.compile_escape types true text) hl hmeant fun m h hc haystack => ?_
  rw [full_iff h, (bare_of_make h (hc ▸ hl)).1, hc]
  exact Pattern.accepts_flexible

/-- Flexible spaces never lose a match, and neither does case of no account if no group has a type. An escaped text with
flexible spaces matches what has each longest run of spaces in it as long or longer. -/
theorem loosening_keeps_matches (types : Registry) (pattern : String) :
    (∀ caseSensitive m, make types ⟨caseSensitive, false⟩ pattern = .ok m → m.compiled.Legible →
      Makes types ⟨caseSensitive, true⟩ pattern m.KeptBy) ∧
    (∀ flexible m, make types ⟨true, flexible⟩ pattern = .ok m → (∀ g ∈ m.groups, ∀ t, g.constraint ≠ .type t) →
      Makes types ⟨false, flexible⟩ pattern m.KeptBy) ∧
    ∀ text : String, Makes types ⟨true, true⟩ (Pattern.escape text) fun m => ∀ haystack : String,
      ¬Missed (m.run .full haystack) ↔ Loosened text.toList haystack.toList := by
  refine ⟨fun caseSensitive m hm hl => ?_, fun flexible m hm hg => ?_, fun text => ?_⟩
  · exact makes_flexible hm hl
  · exact makes_caseInsensitive hm hg
  · exact makes_escape types text

/-- A pattern with a wildcard, a space and a letter that has another case. -/
theorem loosening_keeps_matches_space : ∃ m m' m'', make .empty {} "A* b" = .ok m ∧ m.groups = [] ∧
    make .empty ⟨true, true⟩ "A* b" = .ok m' ∧ make .empty ⟨false, false⟩ "A* b" = .ok m'' ∧
      ¬Missed (m.run .full "Ax b") ∧ ¬Missed (m'.run .full "Ax b") ∧ ¬Missed (m''.run .full "Ax b") := by
  have hstrict : (Regex.result? (make .empty {} "A* b")).any (fun m =>
      m.groups.isEmpty && (m.find? .full "Ax b".toList).isSome) = true := by decide +kernel
  have hflexible : (Regex.result? (make .empty ⟨true, true⟩ "A* b")).isSome = true := by decide +kernel
  have hcase : (Regex.result? (make .empty ⟨false, false⟩ "A* b")).isSome = true := by decide +kernel
  obtain ⟨m, hm, h⟩ := Regex.any_result?.mp hstrict
  obtain ⟨hempty, hfound⟩ := (Bool.and_eq_true _ _).mp h
  have hgroups := List.isEmpty_iff.mp hempty
  have hnone : ∀ g, g ∉ m.groups := by simp [hgroups]
  obtain ⟨hspaces, hletters, -⟩ := loosening_keeps_matches .empty "A* b"
  obtain ⟨-, -, ⟨m', hm', hkept⟩ | ⟨fault, he, -⟩⟩ := hspaces true m hm fun g hg => absurd hg (hnone g)
  · obtain ⟨-, -, ⟨m'', hm'', hkept'⟩ | ⟨fault, he, -⟩⟩ := hletters false m hm fun g hg => absurd hg (hnone g)
    · have hfull := not_missed_run.mpr hfound
      exact ⟨m, m', m'', hm, hgroups, hm', hm'', hfull, (hkept _).1 .full hfull, (hkept' _).1 .full hfull⟩
    · rw [he] at hcase
      cases hcase
  · rw [he] at hflexible
    cases hflexible

/-- Two hyphens that lost the blank between them open a difference that goes on into the next group. A flexible space puts
a plus sign into what it takes away. -/
theorem flexible_spaces_lose_match_verbose : ∃ one both m m',
    Registry.empty.register "t" "(?x)[+- -[z]" .identity 0 = .ok one ∧ one.register "u" "[b]]" .identity 1 = .ok both ∧
      make both {} "[x:t] [y:u]" = .ok m ∧ make both ⟨true, true⟩ "[x:t] [y:u]" = .ok m' ∧
        ¬Missed (m.run .full "+") ∧ Missed (m'.run .full "+") := by
  have hall : (Regex.result? (Registry.empty.register "t" "(?x)[+- -[z]" .identity 0)).any (fun one =>
      (Regex.result? (one.register "u" "[b]]" .identity 1)).any fun both =>
        (Regex.result? (make both {} "[x:t] [y:u]")).any fun m =>
          (Regex.result? (make both ⟨true, true⟩ "[x:t] [y:u]")).any fun m' =>
            (m.find? .full "+".toList).isSome && (m'.find? .full "+".toList).isNone) = true := by
    decide +kernel
  obtain ⟨one, hone, h⟩ := Regex.any_result?.mp hall
  obtain ⟨both, hboth, h⟩ := Regex.any_result?.mp h
  obtain ⟨m, hm, h⟩ := Regex.any_result?.mp h
  obtain ⟨m', hm', h⟩ := Regex.any_result?.mp h
  obtain ⟨hfound, hnone⟩ := (Bool.and_eq_true _ _).mp h
  exact ⟨one, both, m, m', hone, hboth, hm, hm', not_missed_run.mpr hfound,
    (m'.missed_run_iff .full "+").mpr (Option.isNone_iff_eq_none.mp hnone)⟩

end Matcher

end TypedPattern
