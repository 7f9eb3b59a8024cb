import TypedPattern.Proofs.Matching.Run

/-! Points past some characters. -/

namespace TypedPattern.Regex

open Text (byteLength)

namespace Point

def advance (p : Point) (cs : List Char) : Point :=
  ⟨p.pos + byteLength cs, cs.getLast?.or p.prev, p.rest.drop cs.length, [], p.opened, p.groups⟩

variable {p q : Point} {text : List Char}

@[simp] lemma pos_advance (p : Point) (cs : List Char) : (p.advance cs).pos = p.pos + byteLength cs := rfl

@[simp] lemma rest_advance (p : Point) (cs : List Char) : (p.advance cs).rest = p.rest.drop cs.length := rfl

@[simp] lemma trail_advance (p : Point) (cs : List Char) : (p.advance cs).trail = [] := rfl

@[simp] lemma groups_advance (p : Point) (cs : List Char) : (p.advance cs).groups = p.groups := rfl

@[simp] lemma opened_advance (p : Point) (cs : List Char) : (p.advance cs).opened = p.opened := rfl

lemma advance_nil (p : Point) : p.advance [] = p.clear := rfl

lemma advance_append (p : Point) (a b : List Char) : p.advance (a ++ b) = (p.advance a).advance b := by
  simp only [advance, Text.byteLength_append, List.getLast?_append, List.length_append, List.drop_drop, Nat.add_assoc,
    Option.or_assoc]

lemma next?_eq_some_advance {accepts : Char → Bool} :
    p.next? accepts = some q ↔ ∃ c, accepts c = true ∧ [c] <+: p.rest ∧ q = p.advance [c] := by
  rw [next?_eq_some]
  constructor
  · rintro ⟨c, rest, hr, ha, rfl⟩
    exact ⟨c, ha, hr ▸ List.prefix_append [c] rest, by rw [advance, hr]; rfl⟩
  · rintro ⟨c, ha, ⟨rest, hr⟩, rfl⟩
    exact ⟨c, rest, hr.symm, ha, by rw [advance, ← hr]; rfl⟩

lemma literal?_eq_some {cs : List Char} (hp : p.trail = []) :
    p.literal? cs = some q ↔ cs <+: p.rest ∧ q = p.advance cs := by
  induction cs generalizing p with
  | nil =>
    rw [literal?, advance_nil, clear_eq hp, Option.some.injEq]
    exact ⟨fun h => ⟨List.nil_prefix, h.symm⟩, fun h => h.2.symm⟩
  | cons c cs ih =>
    rw [literal?, Option.bind_eq_some_iff]
    constructor
    · rintro ⟨o, ho, hq⟩
      obtain ⟨d, hd, hpre, rfl⟩ := next?_eq_some_advance.mp ho
      obtain rfl : d = c := by simpa using hd
      obtain ⟨hcs, rfl⟩ := (ih rfl).mp hq
      obtain ⟨rest, hr⟩ := hpre
      rw [rest_advance, ← hr] at hcs
      refine ⟨?_, (p.advance_append [d] cs).symm⟩
      rw [← hr]
      exact (List.prefix_cons_inj d).mpr hcs
    · rintro ⟨⟨rest, hr⟩, rfl⟩
      refine ⟨p.advance [c], next?_eq_some_advance.mpr ⟨c, beq_self_eq_true c, ⟨cs ++ rest, hr⟩, rfl⟩, ?_⟩
      refine (ih rfl).mpr ⟨⟨rest, ?_⟩, p.advance_append [c] cs⟩
      rw [rest_advance, ← hr]
      rfl

lemma On.advance {cs : List Char} (h : p.On text) (hcs : cs <+: p.rest) : (p.advance cs).On text := by
  obtain ⟨before, htext, hpos, hprev⟩ := h
  obtain ⟨rest, hr⟩ := hcs
  refine ⟨before ++ cs, ?_, ?_, ?_⟩
  · rw [htext, ← hr, rest_advance, ← hr, List.drop_left, List.append_assoc]
  · rw [pos_advance, hpos, Text.byteLength_append]
  · rw [List.getLast?_append, ← hprev]
    rfl

end Point

namespace Core

lemma run_literal_single (cs : List Char) (p : Point) :
    (literal cs).run [p] = if cs <+: p.rest then [p.advance cs] else [] := by
  rw [run_literal, List.map_singleton, List.filterMap_cons, List.filterMap_nil]
  have hsome := fun q => @Point.literal?_eq_some p.clear q cs rfl
  by_cases hcs : cs <+: p.rest
  · rw [if_pos hcs, (hsome _).mpr ⟨hcs, rfl⟩]
    rfl
  · rw [if_neg hcs]
    cases hq : p.clear.literal? cs with
    | none => rfl
    | some q => exact absurd ((hsome q).mp hq).1 hcs

end Core

end TypedPattern.Regex
