import TypedPattern.Proofs.Conversion
import TypedPattern.Proofs.Matching.Longest

/-! What a group of a built-in type captures at the start of a text: all of it, if all of it is a value, but for IPv6. -/

namespace TypedPattern

open Pattern (Config Segment)
open Regex (Core Match Point)
open Text (byteLength)

namespace Matcher

/-- What a group `x` that has taken up the beginning of a text comes to. -/
def taking (converter : Converter) (haystack raw : String) : Except Error MatchResult :=
  match converter raw with
  | .ok value => .ok ⟨[("x", value)], [], [⟨some "x", ⟨0, byteLength raw.toList⟩⟩], some haystack⟩
  | .error cause => .error (.conversion (ticked "x") raw cause)

variable {types : Registry} {config : Config} {t : GroupType} {m : Matcher}

/-- What a group is to match, as an expression. -/
def groupCore (config : Config) (t : GroupType) : Core :=
  (Pattern.Constraint.type t).core (!config.caseSensitive)

lemma bare_ofType (hf : types.find? t.name = some t) (h : make types config (Pattern.ofType t.name) = .ok m)
    (hl : m.compiled.Legible) : m.bare.core = .capture 0 (groupCore config t) := by
  have hcore := (bare_of_make h hl).1
  rw [compiled_ofType hf h] at hcore
  rw [hcore]
  exact Core.concat_single (r := .capture 0 (groupCore config t)) rfl

lemma resultOf_ofType (hf : types.find? t.name = some t) (h : make types config (Pattern.ofType t.name) = .ok m)
    (hl : m.compiled.Legible) {mode : Mode} {haystack : String} {found : Match}
    (hfound : m.FoundAt mode haystack.toList found (.ofText haystack.toList)) :
    ∃ raw : String, haystack.toList = raw.toList ++ found.stop.rest ∧
      m.resultOf (m.program mode) haystack found = taking t.converter haystack raw := by
  have hmem := List.mem_of_find?_eq_some hfound.stop
  rw [bare_ofType hf h hl] at hmem
  obtain ⟨p, hp, hcross⟩ := Core.crosses_of_mem_run hmem
  obtain rfl := List.mem_singleton.mp hp
  have hon := Point.on_ofText haystack.toList
  obtain ⟨part, hgroup, hspan, hrest, hrecorded⟩ :=
    @Pattern.recorded_group _ _ _ haystack.toList ⟨0, some "x", .type t⟩ hon.clear hcross
  have hsplit : m.compiled.branches.toList = [] ++ [.group ⟨0, some "x", .type t⟩] :: [] := by
    rw [compiled_ofType hf h]
    rfl
  have hlength : found.stop.pos = byteLength part.raw.toList := (hon.pos_add hfound.on hrest).trans (Nat.zero_add _)
  have hgives := gives_of_recorded (hrecorded.groups.trans (List.append_nil _)) h hl mode hsplit
    (congrArg (fun c => [c]) hgroup) fun q hq => (hrecorded.stands q hq).stretch
  refine ⟨part.raw, hrest, ?_⟩
  obtain ⟨group, span, raw⟩ := part
  obtain rfl : group = ⟨0, some "x", .type t⟩ := hgroup
  obtain rfl : span = ⟨0, found.stop.pos⟩ := hspan
  rw [taking]
  rcases hgives with ⟨values, hvalues, hok⟩ | ⟨q, cause, ⟨first, last, values, hparts, -, herror⟩, hfail⟩
  · cases hvalues with
    | @cons _ value _ values hvalue hnone =>
      cases hnone
      have hvalue : t.converter raw = .ok value := hvalue
      rw [hok, hvalue, hlength]
      rfl
  · have hq : q ∈ [Taken.mk ⟨0, some "x", .type t⟩ ⟨0, found.stop.pos⟩ raw] :=
      hparts ▸ List.mem_append_right _ List.mem_cons_self
    obtain rfl := List.mem_singleton.mp hq
    have herror : t.converter raw = .error cause := herror
    rw [hfail, herror]
    rfl

lemma run_ofType (hf : types.find? t.name = some t) (h : make types config (Pattern.ofType t.name) = .ok m)
    (hl : m.compiled.Legible) (he : (groupCore config t).eager = true) {haystack : String}
    (hfull : ¬Missed (m.run .full haystack)) :
    m.run .full haystack = taking t.converter haystack haystack ∧
      m.run .start haystack = taking t.converter haystack haystack := by
  have hstarts := Point.starts_ofText haystack.toList
  have htaking : ∀ mode found, m.find? mode haystack.toList = some found →
      m.FoundAt mode haystack.toList found (.ofText haystack.toList) → found.stop.rest = [] →
        m.run mode haystack = taking t.converter haystack haystack := by
    intro mode found hfind hfound hend
    obtain ⟨raw, hraw, hresult⟩ := resultOf_ofType hf h hl hfound
    rw [hend, List.append_nil] at hraw
    rw [run_of_find? hfind, hresult, String.toList_inj.mp hraw]
  obtain ⟨whole, hwhole⟩ := Option.isSome_iff_exists.mp (not_missed_run.mp hfull)
  obtain ⟨start, hstart⟩ := Option.isSome_iff_exists.mp (start_of_full h (not_missed_run.mp hfull))
  have hfound := foundAt_of_matchAt h .full hstarts hwhole
  have hfound' := foundAt_of_matchAt h .start hstarts hstart
  have hstops : stops .full whole.stop.clear = true := List.find?_some hfound.stop
  have hend : whole.stop.rest = [] := List.isEmpty_iff.mp hstops
  have hmem := List.mem_of_find?_eq_some hfound.stop
  -- at the start the first point of the run is taken, in full the first one at the end of the text
  have hfirst : (m.bare.core.run [.ofText haystack.toList]).find? (fun _ => true) = some start.stop.clear := hfound'.stop
  rw [← List.head?_filter, List.filter_true] at hfirst
  rw [bare_ofType hf h hl] at hmem hfirst
  obtain ⟨o, ho, hend'⟩ := Core.head?_capture_of_eager he hstarts.on hmem hend
  obtain rfl := Option.some.inj (hfirst.symm.trans ho)
  exact ⟨htaking .full whole hwhole hfound hend, htaking .start start hstart hfound' hend'⟩

end Matcher

namespace Registry

open Fragment (Spelled)

/-- The fragment of an entry means an expression that takes all of a text if it can. -/
def Eager (entry : String × String × Converter) : Prop :=
  Fragment.Means entry.2.1 fun caseInsensitive r => caseInsensitive || r.eager

variable {name fragment : String} {converter : Converter}

def spelledEmail : Spelled Fragment.email :=
  ⟨_, rfl⟩

lemma eager_of_spelled (w : Spelled fragment)
    (h : Fragment.means w.chars (fun caseInsensitive r => caseInsensitive || r.eager) = true) :
    Eager (name, fragment, converter) :=
  Fragment.means_of_spelled w h

lemma eager_builtin : ∀ entry ∈ builtinTypes, entry.1 ≠ "ipv6" → Eager entry := by
  have hnumber : ∀ (name : String) (converter : Converter), Eager (name, Fragment.number, converter) :=
    fun _ _ => eager_of_spelled ⟨_, rfl⟩ (by decide +kernel)
  -- both have sets of word characters, whose table is read once for the two
  have haddresses : [spelledEmail.chars, Fragment.spelledUrl.chars].all (fun cs =>
      Fragment.means cs fun caseInsensitive r => caseInsensitive || r.eager) = true := by
    decide +kernel
  obtain ⟨hemail, hurl⟩ := List.forall_mem_cons.mp (List.all_eq_true.mp haddresses)
  simp only [builtinTypes, List.forall_mem_cons, List.not_mem_nil, false_implies, implies_true, and_true]
  refine ⟨fun _ => eager_of_spelled ⟨_, rfl⟩ ?int, fun _ => hnumber _ _, fun _ => hnumber _ _,
    fun _ => eager_of_spelled ⟨_, rfl⟩ ?uuid, fun _ => eager_of_spelled ⟨_, rfl⟩ ?date,
    fun _ => eager_of_spelled Fragment.spelledDatetime ?datetime, fun _ => eager_of_spelled ⟨_, rfl⟩ ?letters,
    fun _ => eager_of_spelled ⟨_, rfl⟩ ?identifier, fun _ => eager_of_spelled ⟨_, rfl⟩ ?opening,
    fun _ => eager_of_spelled ⟨_, rfl⟩ ?closing, fun _ => eager_of_spelled spelledEmail hemail,
    fun _ => eager_of_spelled Fragment.spelledUrl (hurl _ List.mem_cons_self),
    fun _ => eager_of_spelled Fragment.spelledCreditCard ?creditCard,
    fun _ => eager_of_spelled Fragment.spelledIpv4 ?ipv4, fun hne => absurd rfl hne⟩
  all_goals decide +kernel

end Registry

namespace Matcher

open Fragment (Spelled)

variable {origin : Nat} {entry : String × String × Converter} {m : Matcher}

/-- A value of a built-in type other than IPv6 is captured whole: a text that a group of the type matches in full is
what the group captures at the start of the text too. -/
theorem builtin_types_capture_whole (he : entry ∈ Registry.builtinTypes) (hne : entry.1 ≠ "ipv6")
    (h : make (.builtin origin) {} (Pattern.ofType entry.1) = .ok m) {haystack : String}
    (hfull : ¬Missed (m.run .full haystack)) :
    m.run .start haystack = taking entry.2.2 haystack haystack ∧
      m.run .full haystack = taking entry.2.2 haystack haystack := by
  obtain ⟨t, ht⟩ := Registry.exists_builtin origin he
  obtain ⟨hname, hconverter, whole, hread, htree⟩ := ht.spec
  obtain ⟨-, whole', hread', -, hmeaning⟩ := Registry.eager_builtin entry he hne
  obtain rfl := Except.ok.inj (hread.symm.trans hread')
  obtain ⟨core, hcore, heager⟩ := hmeaning false
  have hf : (Registry.builtin origin).find? t.name = some t := hname ▸ Registry.find?_builtin he ht
  have hgroup : groupCore {} t = core := by
    change (Regex.result? (t.tree.meaning _)).getD _ = core
    rw [htree]
    exact congrArg (fun o => (Regex.result? o).getD .never) hcore
  have hrun := run_ofType hf (hname.symm ▸ h) (legible_builtin h) (hgroup.symm ▸ heager) hfull
  rw [hconverter] at hrun
  exact hrun.symm

/-- An address whose last number is a longer match than the first alternatives for it. -/
theorem builtin_types_capture_whole_address : ∃ m, make (.builtin 0) {} (Pattern.ofType "ipv4") = .ok m ∧
    ¬Missed (m.run .full "1.22.200.255") ∧ m.run .start "1.22.200.255" =
      .ok ⟨[("x", .text "1.22.200.255")], [], [⟨some "x", ⟨0, 12⟩⟩], some "1.22.200.255"⟩ := by
  have he : ("ipv4", Fragment.ipv4, Converter.identity) ∈ Registry.builtinTypes :=
    List.mem_of_getElem? (i := 13) rfl
  obtain ⟨t, m, -, hname, -, hm, hfound⟩ := @exists_make_builtin 0 _ he Fragment.spelledIpv4
    (fun _ closed => (closed.core.matchAt (.ofText "1.22.200.255".toList)).isSome) (by decide +kernel)
  obtain hname : t.name = "ipv4" := hname
  rw [hname] at hm
  have hfull : ¬Missed (m.run .full "1.22.200.255") := not_missed_run.mpr hfound
  exact ⟨m, hm, hfull, (builtin_types_capture_whole he (by decide) hm hfull).1⟩

/-- Of an IPv6 address with zeros left out in the middle only the beginning is captured: the alternative where they are
left out at the end comes before it. -/
theorem builtin_types_truncate_ipv6 : ∃ m, make (.builtin 0) {} (Pattern.ofType "ipv6") = .ok m ∧
    ¬Missed (m.run .full "1::2") ∧
      m.run .start "1::2" = .ok ⟨[("x", .text "1::")], [], [⟨some "x", ⟨0, 3⟩⟩], some "1::2"⟩ := by
  have he : ("ipv6", Fragment.ipv6, Converter.identity) ∈ Registry.builtinTypes :=
    List.mem_of_getElem? (i := 14) rfl
  obtain ⟨t, m, hf, hname, hconverter, hm, hfound⟩ := @exists_make_builtin 0 _ he Fragment.spelledIpv6
    (fun bare closed => (closed.core.matchAt (.ofText "1::2".toList)).isSome &&
      (bare.core.matchAt (.ofText "1::2".toList)).any fun found => found.stop.rest == ['2']) (by decide +kernel)
  obtain ⟨hfull, hstart⟩ := (Bool.and_eq_true _ _).mp hfound
  obtain ⟨found, hfound, hrest⟩ := (Option.any_eq_true _ _).mp hstart
  have hfind : m.find? .start "1::2".toList = some found := hfound
  obtain ⟨raw, hraw, hresult⟩ := resultOf_ofType hf hm (legible_builtin hm)
    (foundAt_of_matchAt hm .start (Point.starts_ofText _) hfound)
  rw [beq_iff_eq.mp hrest] at hraw
  obtain rfl : raw = "1::" := String.toList_inj.mp (List.append_cancel_right (hraw.symm.trans rfl))
  rw [hconverter] at hresult
  obtain hname : t.name = "ipv6" := hname
  rw [hname] at hm
  exact ⟨m, hm, not_missed_run.mpr hfull, (run_of_find? hfind).trans hresult⟩

end Matcher

end TypedPattern
