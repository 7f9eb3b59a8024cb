import TypedPattern.Proofs.Matching.Coverage

/-! Laps leave each position once, and yet miss no spot. -/

namespace TypedPattern.Regex

/-- A number of times, one after the other. -/
def Times (R : Spot → Spot → Prop) : Nat → Spot → Spot → Prop
  | 0, s, t => s = t
  | n + 1, s, t => ∃ u, R s u ∧ Times R n u t

/-- Any number of times. -/
def Often (R : Spot → Spot → Prop) (s t : Spot) : Prop :=
  ∃ n, Times R n s t

lemma Times.snoc {R : Spot → Spot → Prop} {n : Nat} {s t u : Spot} (h : Times R n s t) (hr : R t u) :
    Times R (n + 1) s u := by
  induction n generalizing s with
  | zero => exact ⟨u, h ▸ hr, rfl⟩
  | succ n ih =>
    obtain ⟨v, hv, h⟩ := h
    exact ⟨v, hv, ih h⟩

lemma Times.add {R : Spot → Spot → Prop} {m n : Nat} {s t u : Spot} (h : Times R m s t) (h' : Times R n t u) :
    Times R (m + n) s u := by
  induction m generalizing s with
  | zero =>
    rw [Nat.zero_add, show s = t from h]
    exact h'
  | succ m ih =>
    obtain ⟨v, hv, h⟩ := h
    rw [Nat.succ_add]
    exact ⟨v, hv, ih h⟩

lemma Times.split {R : Spot → Spot → Prop} {m n : Nat} {s u : Spot} (h : Times R (m + n) s u) :
    ∃ t, Times R m s t ∧ Times R n t u := by
  induction m generalizing s with
  | zero => exact ⟨s, rfl, (Nat.zero_add n) ▸ h⟩
  | succ m ih =>
    rw [Nat.succ_add] at h
    obtain ⟨v, hv, h⟩ := h
    obtain ⟨t, h1, h2⟩ := ih h
    exact ⟨t, ⟨v, hv, h1⟩, h2⟩

lemma Times.eq_of_stay {R : Spot → Spot → Prop} (hr : ∀ s t, R s t → s = t) {n : Nat} {s t : Spot}
    (h : Times R n s t) : s = t := by
  induction n generalizing s with
  | zero => exact h
  | succ n ih =>
    obtain ⟨u, hu, h⟩ := h
    exact (hr s u hu).trans (ih h)

lemma often_iff {R : Spot → Spot → Prop} {s t : Spot} : Often R s t ↔ s = t ∨ Then R (Often R) s t := by
  constructor
  · rintro ⟨n, h⟩
    cases n with
    | zero => exact Or.inl h
    | succ n =>
      obtain ⟨u, hr, h⟩ := h
      exact Or.inr ⟨u, hr, n, h⟩
  · rintro (rfl | ⟨u, hr, n, h⟩)
    · exact ⟨0, rfl⟩
    · exact ⟨n + 1, u, hr, h⟩

lemma Times.upTo_succ_iff {R : Spot → Spot → Prop} {k : Nat} {s t : Spot} :
    (∃ n ≤ k + 1, Times R n s t) ↔ s = t ∨ Then R (fun u t => ∃ n ≤ k, Times R n u t) s t := by
  constructor
  · rintro ⟨n, hn, h⟩
    cases n with
    | zero => exact Or.inl h
    | succ n =>
      obtain ⟨u, hr, h⟩ := h
      exact Or.inr ⟨u, hr, n, Nat.le_of_succ_le_succ hn, h⟩
  · rintro (rfl | ⟨u, hr, n, hn, h⟩)
    · exact ⟨0, Nat.zero_le _, rfl⟩
    · exact ⟨n + 1, Nat.succ_le_succ hn, u, hr, h⟩

namespace Tour

@[simp] lemma visited_empty (pos : Nat) : Tour.empty.visited pos = false := by
  simp [Tour.empty, visited]

@[simp] lemma visited_add (t : Tour) (p : Point) (pos : Nat) : (t.add p).visited pos = t.visited pos := rfl

@[simp] lemma found_add (t : Tour) (p : Point) : (t.add p).found = p :: t.found := rfl

@[simp] lemma found_visit (t : Tour) (pos : Nat) : (t.visit pos).found = t.found := rfl

lemma visited_visit (t : Tour) (i pos : Nat) :
    (t.visit i).visited pos = true ↔ t.visited pos = true ∨ i = pos := by
  simp only [visit, visited, List.headD_cons, testBit_or_shift, Bool.or_eq_true, decide_eq_true_eq]

end Tour

section Laps

variable (step : List Point → List Point) (choice : Path)

/-- How the points came about that were lapped from: they are starts or were reached by a lap. -/
inductive Made (ps found : List Point) : Point → Prop
  | start {p : Point} : p ∈ ps → Made ps found p
  | lap {p e : Point} : Made ps found p → p.mark choice ∈ found → e ∈ step [p.mark choice] → Made ps found e

/-- What a tour from some points adds to another one. -/
structure Toured (ps : List Point) (t t' : Tour) : Prop where
  found_keeps : ∀ q ∈ t.found, q ∈ t'.found
  visited_keeps : ∀ pos, t.visited pos = true → t'.visited pos = true
  starts : ∀ p ∈ ps, choice ∈ p.trail ∨ t'.visited p.pos = true
  visits : ∀ pos, t'.visited pos = true → t.visited pos = true ∨ ∃ q ∈ t'.found, q.pos = pos
  closed : ∀ q ∈ t'.found, q ∈ t.found ∨ ∀ e ∈ step [q], choice ∈ e.trail ∨ t'.visited e.pos = true
  made : ∀ q ∈ t'.found, q ∈ t.found ∨ ∀ starts found, (∀ r ∈ t'.found, r ∈ found) →
    (∀ p ∈ ps, Made step choice starts found p) →
      ∃ p, Made step choice starts found p ∧ choice ∉ p.trail ∧ q = p.mark choice

variable {step choice}

namespace Toured

variable {ps : List Point} {p : Point} {t t₁ t₂ t₃ : Tour}

lemma nil (t : Tour) : Toured step choice [] t t :=
  ⟨fun _ h => h, fun _ h => h, by simp, fun _ h => Or.inl h, fun _ h => Or.inl h, fun _ h => Or.inl h⟩

lemma pruned (h : choice ∈ p.trail ∨ t.visited p.pos = true) : Toured step choice [p] t t :=
  ⟨fun _ h => h, fun _ h => h, fun _ hq => List.mem_singleton.mp hq ▸ h, fun _ h => Or.inl h, fun _ h => Or.inl h,
    fun _ h => Or.inl h⟩

lemma cons (h : Toured step choice [p] t t₁) (h' : Toured step choice ps t₁ t₂) :
    Toured step choice (p :: ps) t t₂ where
  found_keeps q hq := h'.found_keeps q (h.found_keeps q hq)
  visited_keeps pos hv := h'.visited_keeps pos (h.visited_keeps pos hv)
  starts q hq := by
    rcases List.mem_cons.mp hq with rfl | hq
    · exact (h.starts q List.mem_cons_self).imp_right (h'.visited_keeps _)
    · exact h'.starts q hq
  visits pos hv := by
    rcases h'.visits pos hv with hv | hq
    · rcases h.visits pos hv with hv | ⟨q, hq, hpos⟩
      · exact Or.inl hv
      · exact Or.inr ⟨q, h'.found_keeps q hq, hpos⟩
    · exact Or.inr hq
  closed q hq := by
    rcases h'.closed q hq with hq | hc
    · rcases h.closed q hq with hq | hc
      · exact Or.inl hq
      · exact Or.inr fun e he => (hc e he).imp_right (h'.visited_keeps _)
    · exact Or.inr hc
  made q hq := by
    rcases h'.made q hq with hq | hm
    · rcases h.made q hq with hq | hm
      · exact Or.inl hq
      · refine Or.inr fun starts found hf hps => hm starts found (fun r hr => hf r (h'.found_keeps r hr)) ?_
        intro r hr
        exact hps r (List.mem_singleton.mp hr ▸ List.mem_cons_self)
    · exact Or.inr fun starts found hf hps => hm starts found hf fun r hr => hps r (List.mem_cons_of_mem p hr)

/-- A point is visited, then what a lap leads to is toured; the marked point is found before or behind that. -/
lemma enter (hc : choice ∉ p.trail) (hv : ∀ pos, t₁.visited pos = true ↔ t.visited pos = true ∨ p.pos = pos)
    (hf : ∀ q ∈ t.found, q ∈ t₁.found) (hf' : ∀ q ∈ t₁.found, q ∈ t.found ∨ q = p.mark choice)
    (h : Toured step choice (step [p.mark choice]) t₁ t₂) (hv₃ : ∀ pos, t₃.visited pos = t₂.visited pos)
    (hf₃ : ∀ q, q ∈ t₃.found ↔ q ∈ t₂.found ∨ q = p.mark choice) : Toured step choice [p] t t₃ := by
  have here : t₃.visited p.pos = true := by
    rw [hv₃]
    exact h.visited_keeps _ ((hv _).mpr (Or.inr rfl))
  have old : ∀ q ∈ t₃.found, q = p.mark choice ∨ (q ∈ t₂.found ∧ (q ∈ t₁.found → q ∈ t.found)) := by
    intro q hq
    by_cases hp : q = p.mark choice
    · exact Or.inl hp
    · exact Or.inr ⟨((hf₃ q).mp hq).resolve_right hp, fun h1 => (hf' q h1).resolve_right hp⟩
  constructor
  · intro q hq
    exact (hf₃ q).mpr (Or.inl (h.found_keeps q (hf q hq)))
  · intro pos hpos
    rw [hv₃]
    exact h.visited_keeps pos ((hv pos).mpr (Or.inl hpos))
  · intro q hq
    exact Or.inr (List.mem_singleton.mp hq ▸ here)
  · intro pos hpos
    rw [hv₃] at hpos
    rcases h.visits pos hpos with h1 | ⟨q, hq, hqp⟩
    · rcases (hv pos).mp h1 with h0 | rfl
      · exact Or.inl h0
      · exact Or.inr ⟨p.mark choice, (hf₃ _).mpr (Or.inr rfl), rfl⟩
    · exact Or.inr ⟨q, (hf₃ q).mpr (Or.inl hq), hqp⟩
  · intro q hq
    simp only [hv₃]
    rcases old q hq with rfl | ⟨hq, h1⟩
    · exact Or.inr h.starts
    · exact (h.closed q hq).imp_left h1
  · intro q hq
    rcases old q hq with rfl | ⟨hq', h1⟩
    · exact Or.inr fun starts found _ hps => ⟨p, hps p List.mem_cons_self, hc, rfl⟩
    · refine (h.made q hq').imp h1 fun hm starts found hin hps => ?_
      refine hm starts found (fun r hr => hin r ((hf₃ r).mpr (Or.inl hr))) fun e he => ?_
      exact Made.lap (hps p List.mem_cons_self) (hin _ ((hf₃ _).mpr (Or.inr rfl))) he

lemma foldl {f : Point → Tour → Tour} {visited : Tour → Prop}
    (hv : ∀ ps t t', Toured step choice ps t t' → visited t → visited t')
    (h : ∀ p ∈ ps, ∀ t, visited t → Toured step choice [p] t (f p t)) (ht : visited t) :
    Toured step choice ps t (ps.foldl (fun t p => f p t) t) := by
  induction ps generalizing t with
  | nil => exact nil t
  | cons p ps ih =>
    have hp := h p List.mem_cons_self t ht
    exact hp.cons (ih (fun q hq => h q (List.mem_cons_of_mem p hq)) (hv _ _ _ hp ht))

end Toured

variable {text : List Char} {U : Path → Prop} {R S : Spot → Spot → Prop} {X : Path → Spot → Spot → Prop}
  {start : List Point → List Point}

lemma laps_toured (greedy : Bool) (hb : Covers text U R X step) (hr : ∀ s t, R s t → t.rest <:+ s.rest)
    {k : Nat} {p : Point} (hp : p.On text) (hk : p.rest.length < k) (t : Tour) :
    Toured step choice [p] t (laps step choice greedy k p t) := by
  induction k generalizing p t with
  | zero => omega
  | succ k ih =>
    rw [laps]
    by_cases hcut : (t.visited p.pos || p.trail.contains choice) = true
    · rw [if_pos hcut]
      rw [Bool.or_eq_true, List.contains_iff_mem] at hcut
      exact Toured.pruned hcut.symm
    · rw [if_neg hcut]
      rw [Bool.or_eq_true, List.contains_iff_mem, not_or] at hcut
      have hone := (hp.mark choice).single
      have again : ∀ t : Tour, t.visited p.pos = true → Toured step choice (step [p.mark choice]) t
          ((step [p.mark choice]).foldl (fun t e => laps step choice greedy k e t) t) := by
        intro t ht
        refine Toured.foldl (fun _ _ _ h => h.visited_keeps p.pos) (fun e he t ht => ?_) ht
        obtain ⟨heo, q, hq, hre, -⟩ := hb.sound _ hone e he
        obtain rfl := List.mem_singleton.mp hq
        have hsuf : e.rest <:+ p.rest := hr _ _ hre
        by_cases hlen : e.rest.length < p.rest.length
        · exact ih heo (by omega) t
        · -- The lap took no character, so the tour stops where it has just been.
          have heq : e.pos = p.pos := heo.pos_eq hp (hsuf.eq_of_length (by have := hsuf.length_le; omega))
          have hstop : laps step choice greedy k e t = t := by
            cases k with
            | zero => rfl
            | succ k => rw [laps, if_pos (by rw [heq, ht, Bool.true_or])]
          rw [hstop]
          exact Toured.pruned (Or.inr (heq ▸ ht))
      have hvisit := t.visited_visit p.pos
      cases greedy with
      | true =>
        exact Toured.enter hcut.2 hvisit (fun _ h => h) (fun _ h => Or.inl h)
          (again _ ((hvisit _).mpr (Or.inr rfl))) (fun _ => rfl) (fun q => by simp [or_comm])
      | false =>
        have hadd : ∀ pos, ((t.visit p.pos).add (p.mark choice)).visited pos = true ↔
            t.visited pos = true ∨ p.pos = pos := hvisit
        have hsub := again ((t.visit p.pos).add (p.mark choice)) ((hadd _).mpr (Or.inr rfl))
        refine Toured.enter hcut.2 hadd (fun _ h => List.mem_cons_of_mem _ h)
          (fun q h => (List.mem_cons.mp h).symm) hsub (fun _ => rfl) (fun q => ⟨Or.inl, ?_⟩)
        rintro (h | rfl)
        · exact h
        · exact hsub.found_keeps _ List.mem_cons_self

/-- The points that have been lapped from, when all is done. -/
structure Lapped (step : List Point → List Point) (choice : Path) (ps found : List Point) : Prop where
  starts : ∀ p ∈ ps, choice ∈ p.trail ∨ ∃ q ∈ found, q.pos = p.pos
  closed : ∀ q ∈ found, ∀ e ∈ step [q], choice ∈ e.trail ∨ ∃ q' ∈ found, q'.pos = e.pos
  made : ∀ q ∈ found, ∃ p, Made step choice ps found p ∧ choice ∉ p.trail ∧ q = p.mark choice

lemma allLaps_lapped (greedy : Bool) (hb : Covers text U R X step) (hr : ∀ s t, R s t → t.rest <:+ s.rest)
    {ps : List Point} (hps : ∀ p ∈ ps, p.On text) :
    ∃ found, Lapped step choice ps found ∧ allLaps step choice greedy ps = distinct found.reverse := by
  have h : Toured step choice ps .empty _ := Toured.foldl (fun _ _ _ _ _ => trivial)
    (fun p hp t _ => laps_toured greedy hb hr (hps p hp) (Nat.lt_succ_self _) t) trivial
  have hvisits := fun pos hv => (h.visits pos hv).resolve_left (by simp)
  refine ⟨_, ⟨fun p hp => (h.starts p hp).imp_right (hvisits _), fun q hq e he => ?_, fun q hq => ?_⟩, rfl⟩
  · exact ((h.closed q hq).resolve_left (List.not_mem_nil) e he).imp_right (hvisits _)
  · exact (h.made q hq).resolve_left (List.not_mem_nil) ps _ (fun _ hr => hr) fun p hp => Made.start hp

section Lapped

variable {greedy : Bool} {ps found : List Point} {p : Point} {u t : Spot} {n : Nat}

/-- What is known of the places that laps lead to. -/
abbrev Lapping (R : Spot → Spot → Prop) (X : Path → Spot → Spot → Prop) (choice c : Path) (s t : Spot) : Prop :=
  Then (X c) (Often R) s t ∨ (c = choice ∧ Often R s t)

lemma Made.sound (hb : Covers text U R X step) (hs : Covers text U S X start) (hps : ∀ p ∈ ps, p.On text)
    (h : Made step choice (start ps) found p) :
    p.On text ∧ ∃ o ∈ ps, Then S (Often R) o.spot p.spot ∧
      ∀ c ∈ p.trail, (U c ∨ c = choice) ∨ (c ∈ o.trail ∧ o.spot = p.spot) := by
  induction h with
  | start hp =>
    obtain ⟨hon, o, ho, hr, ht⟩ := hs.sound ps hps _ hp
    exact ⟨hon, o, ho, ⟨_, hr, 0, rfl⟩, fun c hc => (ht c hc).imp_left Or.inl⟩
  | @lap p e _ _ he ih =>
    obtain ⟨hon, o, ho, ⟨u, hou, n, hn⟩, ht⟩ := ih
    have hone := (hon.mark choice).single
    obtain ⟨heo, q, hq, hre, hte⟩ := hb.sound _ hone e he
    obtain rfl := List.mem_singleton.mp hq
    refine ⟨heo, o, ho, ⟨u, hou, n + 1, hn.snoc hre⟩, fun c hc => ?_⟩
    rcases hte c hc with hu | ⟨hcp, heq⟩
    · exact Or.inl (Or.inl hu)
    · rcases List.mem_cons.mp hcp with rfl | hcp
      · exact Or.inl (Or.inr rfl)
      · exact (ht c hcp).imp_right fun h => ⟨h.1, h.2.trans heq⟩

variable (hb : Covers text U R X step) (hs : Covers text U S X start) (hc : ¬U choice) (hps : ∀ p ∈ ps, p.On text)
  (h : Lapped step choice (start ps) found)

include hb hs hps h in
lemma Lapped.on {q : Point} (hq : q ∈ found) : q.On text := by
  obtain ⟨p, hp, -, rfl⟩ := h.made q hq
  exact (hp.sound hb hs hps).1.mark choice

section Goal

variable {goal : Prop} (hfound : ∀ q ∈ found, Times R n q.spot t → goal)

include hb hs hc hps h hfound in
lemma Lapped.after_start (hgoal : ∀ p ∈ ps, ∀ c ∈ p.trail, Lapping R X choice c p.spot t → goal)
    (hu : Covered X start ps u) (hn : Times R n u t) : goal := by
  rcases hu with ⟨p, hp, rfl⟩ | ⟨p, hp, c, hcp, hx⟩
  · rcases h.starts p hp with ht | ⟨q, hq, hpos⟩
    · obtain ⟨-, o, ho, -, htr⟩ := hs.sound ps hps p hp
      obtain ⟨hto, heq⟩ := (htr choice ht).resolve_left hc
      exact hgoal o ho choice hto (Or.inr ⟨rfl, n, heq ▸ hn⟩)
    · have heq : q.spot = p.spot := (h.on hb hs hps hq).spot_eq (hs.on hps p hp) hpos
      exact hfound q hq (heq ▸ hn)
  · exact hgoal p hp c hcp (Or.inl ⟨u, hx, n, hn⟩)

include hb hs hc hps h hfound in
lemma Lapped.after_lap (hq : p.mark choice ∈ found) (hgoal : ∀ c ∈ p.trail, X c p.spot u → goal)
    (hu : Covered X step [p.mark choice] u) (hn : Times R n u t) : goal := by
  have hone := (h.on hb hs hps hq).single
  rcases hu with ⟨e, he, rfl⟩ | ⟨q, hm, c, hcq, hx⟩
  · obtain ⟨heo, o, ho, -, htr⟩ := hb.sound _ hone e he
    obtain rfl := List.mem_singleton.mp ho
    rcases h.closed _ hq e he with ht | ⟨q', hq', hpos⟩
    · obtain ⟨-, heq⟩ := (htr choice ht).resolve_left hc
      exact hfound _ hq (heq ▸ hn)
    · have heq : q'.spot = e.spot := (h.on hb hs hps hq').spot_eq heo hpos
      exact hfound q' hq' (heq ▸ hn)
  · obtain rfl := List.mem_singleton.mp hm
    rcases List.mem_cons.mp hcq with rfl | hcp
    · exact absurd (hb.region _ _ _ hx) hc
    · exact hgoal c hcp hx

include hb hs hc hps h hfound in
lemma Lapped.after_choice (hgoal : ∀ p ∈ ps, ∀ c ∈ p.trail, Lapping R X choice c p.spot t → goal)
    (hp : Made step choice (start ps) found p) : ∀ c ∈ p.trail, ∀ u, X c p.spot u → Times R n u t → goal := by
  induction hp with
  | start hp =>
    intro c hcp u hx hn
    exact h.after_start hb hs hc hps hfound hgoal (hs.through ps hps _ hp c hcp u hx) hn
  | @lap p e _ hq he ih =>
    intro c hce u hx hn
    have hone := (h.on hb hs hps hq).single
    exact h.after_lap hb hs hc hps hfound hq (fun d hd hy => ih d hd u hy hn) (hb.through _ hone e he c hce u hx) hn

end Goal

include hb hs hc hps h in
lemma Lapped.leads {goal : Prop} (hend : ∀ q ∈ found, q.spot = t → goal)
    (hgoal : ∀ p ∈ ps, ∀ c ∈ p.trail, Lapping R X choice c p.spot t → goal) :
    ∀ n, ∀ q ∈ found, Times R n q.spot t → goal := by
  intro n
  induction n with
  | zero => exact hend
  | succ n ih =>
    rintro q hq ⟨u, hr, hn⟩
    obtain ⟨p, hp, -, rfl⟩ := h.made q hq
    have hone := (h.on hb hs hps hq).single
    refine h.after_lap hb hs hc hps ih hq (fun c hcp hx => ?_) (hb.complete _ hone _ List.mem_cons_self u hr) hn
    exact h.after_choice hb hs hc hps ih hgoal hp c hcp u hx hn

include hb hs hc in
/-- Any number of laps from where another part leads to, be it one more lap. -/
theorem Covers.allLaps (greedy : Bool) (hr : ∀ s t, R s t → t.rest <:+ s.rest) :
    Covers text (fun c => U c ∨ c = choice) (Then S (Often R)) (Lapping R X choice)
      (fun ps => allLaps step choice greedy (start ps)) := by
  -- what has been found before points at one position were dropped; a spot that was dropped is kept elsewhere
  have covered : ∀ ps, (∀ p ∈ ps, p.On text) → ∃ found, Lapped step choice (start ps) found ∧
      (∀ q ∈ Regex.allLaps step choice greedy (start ps), q ∈ found) ∧
      ∀ n t, ∀ q ∈ found, Times R n q.spot t →
        Covered (Lapping R X choice) (fun ps => Regex.allLaps step choice greedy (start ps)) ps t := by
    intro ps hps
    obtain ⟨found, h, heq⟩ := allLaps_lapped greedy hb hr (hs.on hps)
    refine ⟨found, h, fun q hq => ?_, fun n t => h.leads hb hs hc hps (fun q hq ht => ?_) (fun p hp c hcp hx => ?_) n⟩
    · exact List.mem_reverse.mp (mem_of_mem_distinct (heq ▸ hq))
    · obtain ⟨q', hq', hpos⟩ := exists_mem_distinct (List.mem_reverse.mpr hq)
      have hon := h.on hb hs hps (List.mem_reverse.mp (mem_of_mem_distinct hq'))
      have hmem : q' ∈ Regex.allLaps step choice greedy (start ps) := heq.symm ▸ hq'
      exact Or.inl ⟨q', hmem, (hon.spot_eq (h.on hb hs hps hq) hpos).trans ht⟩
    · exact Or.inr ⟨p, hp, c, hcp, hx⟩
  constructor
  · intro ps hps q hq
    obtain ⟨found, h, hin, -⟩ := covered ps hps
    obtain ⟨p, hp, -, rfl⟩ := h.made q (hin q hq)
    obtain ⟨hon, o, ho, hr, ht⟩ := hp.sound hb hs hps
    refine ⟨hon.mark choice, o, ho, hr, fun c hcq => ?_⟩
    rcases List.mem_cons.mp hcq with rfl | hcp
    · exact Or.inl (Or.inr rfl)
    · exact ht c hcp
  · rintro ps hps p hp t ⟨u, hsu, n, hn⟩
    obtain ⟨found, h, -, hlead⟩ := covered ps hps
    exact h.after_start hb hs hc hps (hlead n t) (fun p hp c hcp hx => Or.inr ⟨p, hp, c, hcp, hx⟩)
      (hs.complete ps hps p hp u hsu) hn
  · intro ps hps q hq c hcq t hx
    obtain ⟨found, h, hin, hlead⟩ := covered ps hps
    obtain ⟨p, hp, -, rfl⟩ := h.made q (hin q hq)
    rcases hx with ⟨u, hx, n, hn⟩ | ⟨rfl, n, hn⟩
    · rcases List.mem_cons.mp hcq with rfl | hcp
      · exact absurd (hb.region _ _ _ hx) hc
      · exact h.after_choice hb hs hc hps (hlead n t) (fun p hp c hcp hx => Or.inr ⟨p, hp, c, hcp, hx⟩) hp c hcp u hx hn
    · exact hlead n t _ (hin _ hq) hn
  · rintro c s t (⟨u, hx, -⟩ | ⟨rfl, -⟩)
    · exact Or.inl (hb.region c s u hx)
    · exact Or.inr rfl

end Lapped

end Laps

end TypedPattern.Regex
