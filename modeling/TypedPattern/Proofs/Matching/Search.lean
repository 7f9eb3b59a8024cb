import TypedPattern.Proofs.Found
import TypedPattern.Proofs.Matching.Passage

/-! A search for all matches goes through the text from left to right. -/

namespace TypedPattern.Regex

open Text (byteLength)

namespace Point

variable {text : List Char} {p q : Point}

lemma suffix_of_mem_onwards (hp : p.On text) (h : q ∈ p.onwards) : q.rest <:+ p.rest := by
  obtain ⟨before, -, hpos, hprev⟩ := hp
  rw [onwards, hpos, hprev] at h
  obtain ⟨passed, behind, hrest, rfl⟩ := mem_onwards_go.mp h
  exact ⟨passed, hrest.symm⟩

lemma length_lt_of_mem_tail (hp : p.On text) (h : q ∈ p.onwards.tail) : q.rest.length < p.rest.length := by
  obtain ⟨before, -, hpos, hprev⟩ := hp
  rw [onwards, hpos, hprev] at h
  cases hrest : p.rest with
  | nil =>
    rw [hrest] at h
    cases h
  | cons c rest =>
    have hb : byteLength before + c.utf8Size = byteLength (before ++ [c]) := by simp [byteLength]
    have hl : some c = (before ++ [c]).getLast? := by simp
    rw [hrest, onwards.go, List.tail_cons, hb, hl] at h
    obtain ⟨passed, behind, hrest, rfl⟩ := mem_onwards_go.mp h
    rw [hrest, List.length_cons, List.length_append]
    exact Nat.lt_succ_of_le (Nat.le_add_left _ _)

end Point

/-- A match between two points of a text, at or behind another one. -/
structure Match.Behind (text : List Char) (p : Point) (found : Match) : Prop where
  start : found.start.On text
  stop : found.stop.On text
  behind : found.start.rest <:+ p.rest
  forward : found.stop.rest <:+ found.start.rest

/-- Matches one behind the other, each of which ends farther on than the one before. -/
def Match.Successive (text : List Char) : Point → List Match → Prop
  | _, [] => True
  | p, found :: rest =>
    found.Behind text p ∧ found.stop.rest.length < p.rest.length ∧ Successive text found.stop rest

lemma Match.Successive.length_le {text : List Char} {p : Point} {founds : List Match}
    (h : Successive text p founds) : founds.length ≤ p.rest.length := by
  induction founds generalizing p with
  | nil => exact Nat.zero_le _
  | cons found founds ih =>
    obtain ⟨-, hlt, h⟩ := h
    exact (Nat.succ_le_succ (ih h)).trans hlt

namespace Core

variable {r : Core} {text : List Char} {p q : Point} {found : Match}

lemma forward_of_matchAt (hq : q.On text) (ht : q.trail = []) (h : r.matchAt q = some found) :
    found.start = q ∧ found.stop.On text ∧ found.stop.rest <:+ q.rest := by
  obtain ⟨hstart, hstop⟩ := matchAt_eq_some ht h
  obtain ⟨o, ho, hcross⟩ := crosses_of_mem_run (List.mem_of_mem_head? hstop)
  obtain rfl := List.mem_singleton.mp ho
  have hon : found.stop.clear.On text := hcross.on (hq.of_spot rfl rfl)
  exact ⟨hstart, hon.of_spot rfl rfl, hcross.suffix⟩

lemma behind_of_search (hp : p.On text) (h : r.search p = some found) : found.Behind text p := by
  obtain ⟨q, hq, h⟩ := List.exists_of_findSome?_eq_some h
  have hstarts := Point.starts_of_mem_onwards hp hq
  obtain ⟨rfl, hstop, hforward⟩ := forward_of_matchAt hstarts.on hstarts.trail h
  exact ⟨hstarts.on, hstop, Point.suffix_of_mem_onwards hp hq, hforward⟩

/-- The next match ends farther on: it may be empty, but not where the last one has ended. -/
lemma behind_of_searchAfter (hp : p.On text) (h : r.searchAfter p = some found) :
    found.Behind text p ∧ found.stop.rest.length < p.rest.length := by
  unfold searchAfter at h
  split at h
  · cases h
  · rename_i first hfirst
    have hbehind := behind_of_search hp hfirst
    split at h
    · obtain ⟨q, hq, h⟩ := List.exists_of_findSome?_eq_some h
      have hmem := List.mem_of_mem_tail hq
      have hstarts := Point.starts_of_mem_onwards hp hmem
      obtain ⟨rfl, hstop, hforward⟩ := forward_of_matchAt hstarts.on hstarts.trail h
      exact ⟨⟨hstarts.on, hstop, Point.suffix_of_mem_onwards hp hmem, hforward⟩,
        hforward.length_le.trans_lt (Point.length_lt_of_mem_tail hp hq)⟩
    · rename_i hempty
      obtain rfl := Option.some.inj h
      refine ⟨hbehind, Nat.lt_of_not_le fun hle => hempty ?_⟩
      -- it would be empty, at the point itself
      have hrest : first.stop.rest = p.rest := (hbehind.forward.trans hbehind.behind).eq_of_length_le hle
      have hmid : first.stop.rest = first.start.rest :=
        hbehind.forward.eq_of_length_le (hrest ▸ hbehind.behind.length_le)
      have hstop := hbehind.stop.pos_eq hp hrest
      have hstart := hbehind.stop.pos_eq hbehind.start hmid
      simp [Match.isEmpty, ← hstart, hstop]

lemma successive_matchesAfter (fuel : Nat) (hp : p.On text) : Match.Successive text p (r.matchesAfter fuel p) := by
  induction fuel generalizing p with
  | zero => exact trivial
  | succ k ih =>
    rw [matchesAfter]
    split
    · exact trivial
    · rename_i found hfound
      obtain ⟨hbehind, hlt⟩ := behind_of_searchAfter hp hfound
      exact ⟨hbehind, hlt, ih hbehind.stop⟩

/-- All matches of a text: the first one, and then each one behind the one before. -/
theorem searchAll_cases (r : Core) (text : List Char) : r.searchAll text = [] ∨
    ∃ found rest, r.searchAll text = found :: rest ∧ found.Behind text (.ofText text) ∧
      Match.Successive text found.stop rest := by
  rw [searchAll]
  split
  · exact Or.inl rfl
  · rename_i found hfound
    have hbehind := behind_of_search (Point.on_ofText text) hfound
    exact Or.inr ⟨found, _, rfl, hbehind, successive_matchesAfter _ hbehind.stop⟩

/-- There are no more matches than places between characters. -/
theorem length_searchAll_le (r : Core) (text : List Char) : (r.searchAll text).length ≤ text.length + 1 := by
  rcases r.searchAll_cases text with h | ⟨found, rest, h, hbehind, hrest⟩
  · rw [h]
    exact Nat.zero_le _
  · rw [h]
    have hstop : found.stop.rest.length ≤ text.length := (hbehind.forward.trans hbehind.behind).length_le
    exact Nat.succ_le_succ (hrest.length_le.trans hstop)

end Core

end TypedPattern.Regex
