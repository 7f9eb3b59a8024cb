import TypedPattern.Proofs.Matching.Language

/-! Expressions are flattened, joined and factored as they are put together, and lead where their parts do. -/

namespace TypedPattern.Regex.Core

/-- Some expressions lead from one spot to another, one after the other. -/
def LeadsAll : List Core → Spot → Spot → Prop
  | [], s, t => s = t
  | r :: rs, s, t => Then r.Leads (LeadsAll rs) s t

variable {s t : Spot}

lemma leadsAll_single (r : Core) : LeadsAll [r] s t ↔ r.Leads s t := by
  constructor
  · rintro ⟨u, h, rfl⟩
    exact h
  · intro h
    exact ⟨t, h, rfl⟩

lemma leadsAll_append (xs ys : List Core) : LeadsAll (xs ++ ys) s t ↔ Then (LeadsAll xs) (LeadsAll ys) s t := by
  induction xs generalizing s with
  | nil =>
    constructor
    · intro h
      exact ⟨s, rfl, h⟩
    · rintro ⟨u, rfl, h⟩
      exact h
  | cons x xs ih =>
    constructor
    · rintro ⟨u, hx, h⟩
      obtain ⟨v, hxs, hys⟩ := ih.mp h
      exact ⟨v, ⟨u, hx, hxs⟩, hys⟩
    · rintro ⟨v, ⟨u, hx, hxs⟩, hys⟩
      exact ⟨u, hx, ih.mpr ⟨v, hxs, hys⟩⟩

lemma leadsAll_parts (r : Core) : LeadsAll r.parts s t ↔ r.Leads s t := by
  induction r generalizing s t with
  | empty => exact Iff.rfl
  | seq a b iha ihb =>
    rw [parts, leadsAll_append]
    constructor
    · rintro ⟨u, ha, hb⟩
      exact ⟨u, iha.mp ha, ihb.mp hb⟩
    · rintro ⟨u, ha, hb⟩
      exact ⟨u, iha.mpr ha, ihb.mpr hb⟩
  | _ => exact leadsAll_single _

lemma leadsAll_flatMap_parts (xs : List Core) : LeadsAll (xs.flatMap parts) s t ↔ LeadsAll xs s t := by
  induction xs generalizing s with
  | nil => exact Iff.rfl
  | cons x xs ih =>
    rw [List.flatMap_cons, leadsAll_append]
    constructor
    · rintro ⟨u, hx, h⟩
      exact ⟨u, (leadsAll_parts x).mp hx, ih.mp h⟩
    · rintro ⟨u, hx, h⟩
      exact ⟨u, (leadsAll_parts x).mpr hx, ih.mpr h⟩

lemma leads_literal_append (a b : List Char) :
    (literal (a ++ b)).Leads s t ↔ Then (literal a).Leads (literal b).Leads s t := by
  have hlast : ∀ o : Option Char, (a ++ b).getLast?.or o = b.getLast?.or (a.getLast?.or o) := by
    intro o
    rw [List.getLast?_append, Option.or_assoc]
  constructor
  · rintro ⟨hr, hp⟩
    exact ⟨⟨a.getLast?.or s.prev, b ++ t.rest⟩, ⟨hr.trans (List.append_assoc ..), rfl⟩, rfl, hp.trans (hlast _)⟩
  · rintro ⟨u, ⟨hr, hp⟩, hr', hp'⟩
    exact ⟨by rw [hr, hr', List.append_assoc], by rw [hp', hp, hlast]⟩

lemma leadsAll_prepend (x : Core) (xs : List Core) : LeadsAll (prepend x xs) s t ↔ LeadsAll (x :: xs) s t := by
  unfold prepend
  split
  · rename_i a b rest
    constructor
    · rintro ⟨u, h, hrest⟩
      obtain ⟨v, ha, hb⟩ := (leads_literal_append a b).mp h
      exact ⟨v, ha, u, hb, hrest⟩
    · rintro ⟨v, ha, u, hb, hrest⟩
      exact ⟨u, (leads_literal_append a b).mpr ⟨v, ha, hb⟩, hrest⟩
  · exact Iff.rfl

lemma leadsAll_foldr_prepend (xs : List Core) : LeadsAll (xs.foldr prepend []) s t ↔ LeadsAll xs s t := by
  induction xs generalizing s with
  | nil => exact Iff.rfl
  | cons x xs ih =>
    rw [List.foldr_cons, leadsAll_prepend]
    constructor
    · rintro ⟨u, hx, h⟩
      exact ⟨u, hx, ih.mp h⟩
    · rintro ⟨u, hx, h⟩
      exact ⟨u, hx, ih.mpr h⟩

lemma leads_foldl_seq (x : Core) (xs : List Core) : (xs.foldl seq x).Leads s t ↔ LeadsAll (x :: xs) s t := by
  induction xs generalizing x with
  | nil => exact (leadsAll_single x).symm
  | cons y ys ih =>
    rw [List.foldl_cons, ih]
    constructor
    · rintro ⟨v, ⟨u, hx, hy⟩, h⟩
      exact ⟨u, hx, v, hy, h⟩
    · rintro ⟨u, hx, v, hy, h⟩
      exact ⟨v, ⟨u, hx, hy⟩, h⟩

lemma leads_ofParts (xs : List Core) : (ofParts xs).Leads s t ↔ LeadsAll xs s t := by
  cases xs with
  | nil => exact Iff.rfl
  | cons x xs => exact leads_foldl_seq x xs

/-- A sequence leads where its members lead one after the other. -/
theorem leads_concat (xs : List Core) : (concat xs).Leads s t ↔ LeadsAll xs s t := by
  rw [concat, leads_ofParts, leadsAll_foldr_prepend, leadsAll_flatMap_parts]

end TypedPattern.Regex.Core
