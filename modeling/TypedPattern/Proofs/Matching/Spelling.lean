import TypedPattern.Proofs.Matching.Words
import TypedPattern.Proofs.Matching.Sightless

/-! Without assertions an expression takes up each of its words wherever they stand. -/

namespace TypedPattern.Regex

lemma Times.of_words {R : Spot → Spot → Prop} {ws : List (List Char)}
    (h : ∀ x ∈ ws, ∀ prev rest, ∃ last, R ⟨prev, x ++ rest⟩ ⟨last, rest⟩) (prev : Option Char) (rest : List Char) :
    ∃ last, Times R ws.length ⟨prev, ws.flatten ++ rest⟩ ⟨last, rest⟩ := by
  induction ws generalizing prev with
  | nil => exact ⟨prev, rfl⟩
  | cons x ws ih =>
    obtain ⟨hx, hws⟩ := List.forall_mem_cons.mp h
    obtain ⟨mid, hmid⟩ := hx prev (ws.flatten ++ rest)
    obtain ⟨last, hlast⟩ := ih hws mid
    refine ⟨last, ⟨mid, ws.flatten ++ rest⟩, ?_, hlast⟩
    rw [List.flatten_cons, List.append_assoc]
    exact hmid

namespace Core

variable {r body : Core} {min : Nat} {more : Option Nat} {greedy : Bool} {set : CharSet} {w : List Char}

lemma Spells.leads (hs : r.sightless = true) (h : r.Spells w) (prev : Option Char) (rest : List Char) :
    ∃ last, r.Leads ⟨prev, w ++ rest⟩ ⟨last, rest⟩ := by
  induction r generalizing w prev rest with
  | empty =>
    obtain rfl : w = [] := h
    exact ⟨prev, rfl⟩
  | literal cs =>
    obtain rfl : w = cs := h
    exact ⟨_, rfl, rfl⟩
  | chars set =>
    obtain ⟨c, hc, rfl⟩ := h
    exact ⟨some c, c, hc, rfl, rfl⟩
  | look l => cases hs
  | repetition min more greedy body ih =>
    obtain ⟨ws, hmin, hmore, hall, rfl⟩ := h
    obtain ⟨last, hlast⟩ := Times.of_words (fun x hx => ih hs (hall x hx)) prev rest
    refine ⟨last, ws.length - min, fun m hm => ?_, ?_⟩
    · have := hmore m hm
      omega
    · rwa [Nat.add_sub_cancel' hmin]
  | capture index body ih => exact ih hs h prev rest
  | seq a b iha ihb =>
    obtain ⟨ha, hb⟩ := (Bool.and_eq_true _ _).mp hs
    obtain ⟨u, v, hu, hv, rfl⟩ := h
    obtain ⟨mid, hmid⟩ := iha ha hu prev (v ++ rest)
    obtain ⟨last, hlast⟩ := ihb hb hv mid rest
    rw [List.append_assoc]
    exact ⟨last, ⟨mid, v ++ rest⟩, hmid, hlast⟩
  | alt a b iha ihb =>
    obtain ⟨ha, hb⟩ := (Bool.and_eq_true _ _).mp hs
    rcases h with h | h
    · obtain ⟨last, hlast⟩ := iha ha h prev rest
      exact ⟨last, Or.inl hlast⟩
    · obtain ⟨last, hlast⟩ := ihb hb h prev rest
      exact ⟨last, Or.inr hlast⟩

lemma spells_maybe : (repetition 0 (some 1) greedy body).Spells w ↔ w = [] ∨ body.Spells w := by
  constructor
  · exact Spells.maybe
  · rintro (rfl | h)
    · exact ⟨[], Nat.zero_le _, fun m _ => Nat.zero_le _, List.forall_mem_nil _, rfl⟩
    · refine ⟨[w], Nat.zero_le _, fun m hm => ?_, List.forall_mem_singleton.mpr h, List.flatten_singleton.symm⟩
      obtain rfl := Option.mem_some.mp hm
      exact Nat.le_refl _

lemma spells_repeated_chars : (repetition min more greedy (chars set)).Spells w ↔
    min ≤ w.length ∧ (∀ m ∈ more, w.length ≤ min + m) ∧ ∀ c ∈ w, set.contains c = true := by
  constructor
  · exact Spells.repeated_chars
  · rintro ⟨hmin, hmore, hall⟩
    refine ⟨w.map fun c => [c], by rwa [List.length_map], fun m hm => ?_, fun x hx => ?_, ?_⟩
    · rw [List.length_map]
      exact hmore m hm
    · obtain ⟨c, hc, rfl⟩ := List.mem_map.mp hx
      exact ⟨c, hall c hc, rfl⟩
    · rw [← List.flatMap_def, List.flatMap_singleton']

lemma spells_repetition {n : Nat} {P : List Char → Prop} {f : List Char → List Char}
    (h : ∀ {w}, body.Spells w ↔ ∃ x, P x ∧ w = f x) : (repetition min (some n) greedy body).Spells w ↔
      ∃ xs : List (List Char), min ≤ xs.length ∧ xs.length ≤ min + n ∧ (∀ x ∈ xs, P x) ∧ w = xs.flatMap f := by
  constructor
  · rintro ⟨ws, hmin, hmost, hall, rfl⟩
    choose! x hx hw using fun w hw => h.mp (hall w hw)
    refine ⟨ws.map x, by rwa [List.length_map], by simpa using hmost n rfl, by simpa using hx, ?_⟩
    rw [List.flatMap_map, List.flatMap_def, List.map_congr_left fun w hw' => (hw w hw').symm, List.map_id']
  · rintro ⟨xs, hmin, hmost, hall, rfl⟩
    refine ⟨xs.map f, by rwa [List.length_map], fun m hm => ?_, fun w hw => ?_, List.flatMap_def⟩
    · obtain rfl := Option.mem_some.mp hm
      rwa [List.length_map]
    · obtain ⟨x, hx, rfl⟩ := List.mem_map.mp hw
      exact h.mpr ⟨x, hall x hx, rfl⟩

lemma spells_branches : r.Spells w ↔ ∃ x ∈ r.branches, x.Spells w := by
  induction r with
  | alt a b iha ihb =>
    change a.Spells w ∨ b.Spells w ↔ _
    rw [iha, ihb, branches]
    simp only [List.mem_append, or_and_right, exists_or]
  | _ => simp [branches]

/-- Every word of the expression has the character. -/
def needs (c : Char) : Core → Bool
  | literal cs => cs.contains c
  | repetition min _ _ body => decide (0 < min) && body.needs c
  | capture _ body => body.needs c
  | seq a b => a.needs c || b.needs c
  | alt a b => a.needs c && b.needs c
  | _ => false

lemma Spells.mem_of_needs {c : Char} (h : r.Spells w) (hc : r.needs c = true) : c ∈ w := by
  induction r generalizing w with
  | literal cs =>
    obtain rfl : w = cs := h
    exact List.contains_iff_mem.mp hc
  | repetition min more greedy body ih =>
    obtain ⟨ws, hmin, -, hall, rfl⟩ := h
    obtain ⟨hpos, hbody⟩ := (Bool.and_eq_true _ _).mp hc
    obtain ⟨x, hx⟩ := List.exists_mem_of_length_pos ((of_decide_eq_true hpos).trans_le hmin)
    exact List.mem_flatten.mpr ⟨x, hx, ih (hall x hx) hbody⟩
  | capture index body ih => exact ih h hc
  | seq a b iha ihb =>
    obtain ⟨u, v, hu, hv, rfl⟩ := h
    rcases (Bool.or_eq_true _ _).mp hc with hc | hc
    · exact List.mem_append_left v (iha hu hc)
    · exact List.mem_append_right u (ihb hv hc)
  | alt a b iha ihb =>
    obtain ⟨ha, hb⟩ := (Bool.and_eq_true _ _).mp hc
    exact h.elim (iha · ha) (ihb · hb)
  | _ => cases hc

end Core

end TypedPattern.Regex
