import TypedPattern.Registry
import Mathlib.Tactic

/-! What a registration adds to a registry. -/

namespace TypedPattern

namespace GroupType

lemma nameFault?_eq_none {name : String} : nameFault? name = none ↔
    name.toList ≠ [] ∧ name.toList.all Text.isDigit = false ∧ ∀ c ∈ name.toList, reserved c = false := by
  unfold nameFault?
  dsimp only
  split_ifs with h1 h2 h3 <;> simp_all

lemma make_ok {name fragment : String} {converter : Converter} {origin : Nat} {t : GroupType}
    (h : make name fragment converter origin = .ok t) : t.name = name ∧ t.converter = converter ∧
      ∃ whole, readFragment fragment.toList = .ok whole ∧ t.tree = whole.withoutCaptures := by
  unfold make at h
  split at h
  · cases h
  · split at h
    · cases h
    · split at h
      · cases h
      · rename_i whole hread
        cases h
        exact ⟨rfl, rfl, whole, hread, rfl⟩

lemma exists_make {name fragment : String} {whole : Regex.Syntax} (hname : nameFault? name = none)
    (hempty : fragment.isEmpty = false) (hread : readFragment fragment.toList = .ok whole) (converter : Converter)
    (origin : Nat) : ∃ t, make name fragment converter origin = .ok t := by
  unfold make
  split
  · rename_i fault hfault
    cases hname.symm.trans hfault
  · rw [hempty, if_neg Bool.false_ne_true]
    split
    · rename_i cause hcause
      cases hread.symm.trans hcause
    · exact ⟨_, rfl⟩

end GroupType

namespace Registry

lemma find?_insertSorted (t : GroupType) (types : List GroupType) :
    (insertSorted t types).find? (·.name == t.name) = some t := by
  induction types with
  | nil => simp [insertSorted]
  | cons u rest ih =>
    rw [insertSorted]
    split_ifs with h1 h2
    · simp
    · simp
    · have hne : (u.name == t.name) = false := beq_eq_false_iff_ne.mpr (Ne.symm h2)
      rw [List.find?_cons, hne]
      exact ih

lemma find?_insert (r : Registry) (t : GroupType) : (r.insert t).find? t.name = some t :=
  find?_insertSorted t r.types

lemma find?_insertSorted_ne {name : String} {t : GroupType} (h : name ≠ t.name) (types : List GroupType) :
    (insertSorted t types).find? (·.name == name) = types.find? (·.name == name) := by
  have hne : (t.name == name) = false := beq_eq_false_iff_ne.mpr h.symm
  induction types with
  | nil => rw [insertSorted, List.find?_cons, hne]
  | cons u rest ih =>
    rw [insertSorted]
    split_ifs with hlt heq
    · rw [List.find?_cons, hne]
    · rw [List.find?_cons, hne, List.find?_cons, ← heq, hne]
    · rw [List.find?_cons, ih, List.find?_cons]

lemma mem_insertSorted {t u : GroupType} {types : List GroupType} (h : u ∈ insertSorted t types) : u = t ∨ u ∈ types := by
  induction types with
  | nil => exact Or.inl (List.mem_singleton.mp h)
  | cons v rest ih =>
    rw [insertSorted] at h
    split_ifs at h
    · exact List.mem_cons.mp h
    · exact (List.mem_cons.mp h).imp_right (List.mem_cons_of_mem v)
    · rcases List.mem_cons.mp h with rfl | h
      · exact Or.inr List.mem_cons_self
      · exact (ih h).imp_right (List.mem_cons_of_mem v)

lemma mem_of_find? {r : Registry} {name : String} {t : GroupType} (h : r.find? name = some t) : t ∈ r.types :=
  List.mem_of_find?_eq_some h

lemma make_of_register {types types' : Registry} {name fragment : String} {converter : Converter} {origin : Nat}
    (h : types.register name fragment converter origin = .ok types') :
    ∃ t, GroupType.make name fragment converter origin = .ok t ∧ types'.find? name = some t := by
  unfold register at h
  split at h
  · rename_i t ht
    cases h
    obtain ⟨rfl, -⟩ := GroupType.make_ok ht
    exact ⟨t, ht, find?_insert types t⟩
  · cases h

lemma register_of_make {name fragment : String} {converter : Converter} {origin : Nat} {t : GroupType}
    (h : GroupType.make name fragment converter origin = .ok t) (types : Registry) :
    ∃ types', types.register name fragment converter origin = .ok types' ∧ types'.find? name = some t := by
  obtain ⟨rfl, -⟩ := GroupType.make_ok h
  refine ⟨types.insert t, ?_, find?_insert types t⟩
  unfold register
  rw [h]

end Registry

end TypedPattern
