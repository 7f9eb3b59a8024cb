import TypedPattern.Proofs.Matching.Options

/-! What an expression leads to as a relation between spots, which its points reach and reach alone. -/

namespace TypedPattern.Regex

namespace Core

/-- An expression leads from one spot to another. -/
def Leads : Core → Spot → Spot → Prop
  | empty, s, t => s = t
  | literal cs, s, t => s.rest = cs ++ t.rest ∧ t.prev = cs.getLast?.or s.prev
  | chars set, s, t => ∃ c, set.contains c = true ∧ s.rest = c :: t.rest ∧ t.prev = some c
  | look l, s, t => s = t ∧ l.holds s.prev s.rest.head? = true
  | repetition min more _ body, s, t => ∃ n, (∀ m ∈ more, n ≤ m) ∧ Times body.Leads (min + n) s t
  | capture _ body, s, t => body.Leads s t
  | seq a b, s, t => Then a.Leads b.Leads s t
  | alt a b, s, t => a.Leads s t ∨ b.Leads s t

end Core

lemma Times.suffix {R : Spot → Spot → Prop} (hr : ∀ s t, R s t → t.rest <:+ s.rest) {n : Nat} {s t : Spot}
    (h : Times R n s t) : t.rest <:+ s.rest := by
  induction n generalizing s with
  | zero => exact (show s = t from h) ▸ List.suffix_refl _
  | succ n ih =>
    obtain ⟨u, hu, h⟩ := h
    exact (ih h).trans (hr s u hu)

lemma Core.Leads.suffix {r : Core} {s t : Spot} (h : r.Leads s t) : t.rest <:+ s.rest := by
  induction r generalizing s t with
  | empty => exact (show s = t from h) ▸ List.suffix_refl _
  | literal cs => exact ⟨cs, h.1.symm⟩
  | chars set =>
    obtain ⟨c, -, hs, -⟩ := h
    exact ⟨[c], hs.symm⟩
  | look l => exact h.1 ▸ List.suffix_refl _
  | repetition min more greedy body ih =>
    obtain ⟨n, -, h⟩ := h
    exact h.suffix fun s t => ih
  | capture index body ih => exact ih h
  | seq a b iha ihb =>
    obtain ⟨u, ha, hb⟩ := h
    exact (ihb hb).trans (iha ha)
  | alt a b iha ihb =>
    rcases h with h | h
    · exact iha h
    · exact ihb h

section Repeats

variable {text : List Char} {path : Path} {R : Spot → Spot → Prop} {step : Nat → List Point → List Point}

lemma choice_not_within (i j : Nat) : ¬Within path (2 * i) ((2 * j + 1) :: path) := by
  intro h
  have := h.unique (within_self path _)
  omega

lemma copies_succ (step : Nat → List Point → List Point) (k level : Nat) (ps : List Point) :
    copies step (k + 1) level ps = step (level + k) (copies step k level ps) := by
  induction k generalizing level ps with
  | zero => rfl
  | succ k ih =>
    rw [copies, ih, copies, show level + 1 + k = level + (k + 1) from by omega]

/-- All points, marked if they may be. -/
def markAll (choice : Path) (ps : List Point) : List Point :=
  (ps.filter fun p => !p.trail.contains choice).map (·.mark choice)

lemma covers_markAll (text : List Char) (choice : Path) :
    Covers text (· = choice) Eq (fun c => fun s t => c = choice ∧ s = t) (markAll choice) := by
  refine Covers.marking (fun ps q hq => ?_) fun ps _ p hp hc => ?_
  · obtain ⟨p, hp, rfl⟩ := List.mem_map.mp hq
    obtain ⟨hp, hc⟩ := List.mem_filter.mp hp
    exact ⟨p, hp, by simpa using hc, rfl⟩
  · exact ⟨_, List.mem_map.mpr ⟨p, List.mem_filter.mpr ⟨hp, by simpa using hc⟩, rfl⟩, rfl⟩

lemma markAll_cons (choice : Path) (p : Point) (ps : List Point) :
    markAll choice (p :: ps) =
      if p.trail.contains choice then markAll choice ps else p.mark choice :: markAll choice ps := by
  by_cases hc : choice ∈ p.trail <;> simp [markAll, hc]

lemma covers_leave (text : List Char) : Covers text Nothing Eq Noway fun ps => ps :=
  Covers.stay fun _ _ _ h => h.elim

/-- A part that may match nothing is tried once before its laps, or left out. -/
lemma covers_lapsOrNone (greedy : Bool) (hstep : ∃ X, Covers text (Within path 0) R X (step 0))
    (hr : ∀ s t, R s t → t.rest <:+ s.rest) :
    ∃ X, Covers text (path <:+ ·) (Often R) X
      (fun ps => distinct (ps.flatMap (lapsOrNone (step 0) (3 :: path) (1 :: path) greedy))) := by
  obtain ⟨X, hX⟩ := hstep
  have hlaps := Covers.allLaps hX hX (choice_not_within 0 0) greedy hr
  have hall := (covers_markAll text (3 :: path)).comp
      ((covers_leave text).union hlaps fun _ h => h.elim).pointwise fun c hc => by
    rintro (h | h | h)
    · exact h
    · exact choice_not_within 0 1 (hc ▸ h)
    · cases hc.symm.trans h
  have hmem : ∀ ps q, q ∈ ps.flatMap (lapsOrNone (step 0) (3 :: path) (1 :: path) greedy) ↔
      q ∈ (markAll (3 :: path) ps).flatMap fun m => [m] ++ allLaps (step 0) (1 :: path) greedy (step 0 [m]) := by
    intro ps q
    induction ps with
    | nil => rfl
    | cons p ps ih =>
      rw [List.flatMap_cons, List.mem_append, ih, lapsOrNone, markAll_cons]
      by_cases hc : p.trail.contains (3 :: path) = true
      · rw [if_pos hc, if_pos hc]
        simp
      · rw [if_neg hc, if_neg hc, List.flatMap_cons, List.mem_append]
        cases greedy <;> simp [or_comm]
  refine ⟨_, ((hall.represent (fun ps q hq => (hmem ps q).mp hq) fun ps _ q hq => ?_).mono fun c h => ?_).distinct.of_iff
    fun s t => ?_⟩
  · exact ⟨q, (hmem ps q).mpr hq, rfl⟩
  · rcases h with rfl | h | h | rfl
    · exact List.suffix_cons _ _
    · exact h.elim
    · exact h.suffix
    · exact List.suffix_cons _ _
  · rw [often_iff]
    exact ⟨fun ⟨_, hu, h⟩ => hu ▸ h, fun h => ⟨s, rfl, h⟩⟩

lemma covers_bounded (hstep : ∀ i, ∃ X, Covers text (Within path (2 * i)) R X (step i)) (nullable : Bool) (min more : Nat)
    (greedy : Bool) : ∃ X, Covers text (path <:+ ·) (fun s t => ∃ n ≤ more, Times R (min + n) s t) X
      (repeats step (fun i => (2 * i + 1) :: path) nullable min (some more) greedy) := by
  obtain ⟨X, hX⟩ := covers_copies hstep min 0
  obtain ⟨Y, hY⟩ := covers_options hstep greedy more min
  have hall := hX.comp hY fun c => by
    rintro ⟨i, -, hi, h⟩ ⟨j, hj, h'⟩
    have := h.unique h'
    omega
  have hrep := hall.represent (G := repeats step (fun i => (2 * i + 1) :: path) nullable min (some more) greedy)
    (fun ps q hq => List.mem_reverse.mp (mem_of_mem_distinct hq)) fun ps _ q hq =>
      exists_mem_distinct (List.mem_reverse.mpr hq)
  refine ⟨_, (hrep.mono fun c h => ?_).of_iff fun s t => ?_⟩
  · rcases h with ⟨i, -, -, h⟩ | ⟨i, -, h⟩ <;> exact h.suffix
  · constructor
    · rintro ⟨u, h, n, hn, h'⟩
      exact ⟨n, hn, h.add h'⟩
    · rintro ⟨n, hn, h⟩
      obtain ⟨u, h, h'⟩ := h.split
      exact ⟨u, h, n, hn, h'⟩

/-- Some copies of a part, the last of which is where its laps begin. -/
lemma covers_unbounded (hstep : ∀ i, ∃ X, Covers text (Within path (2 * i)) R X (step i))
    (hr : ∀ s t, R s t → t.rest <:+ s.rest) (nullable : Bool) (k : Nat) (greedy : Bool) :
    ∃ X, Covers text (path <:+ ·) (Then (Times R (k + 1)) (Often R)) X
      (repeats step (fun i => (2 * i + 1) :: path) nullable (k + 1) none greedy) := by
  obtain ⟨X, hX⟩ := covers_copies hstep k 0
  obtain ⟨Y, hY⟩ := hstep k
  have hlaps := Covers.allLaps hY hY (choice_not_within k k) greedy hr
  have hall := hX.comp hlaps fun c => by
    rintro ⟨i, -, hi, h⟩ (h' | rfl)
    · have := h.unique h'
      omega
    · have := h.unique (within_self path _)
      omega
  have heq : repeats step (fun i => (2 * i + 1) :: path) nullable (k + 1) none greedy =
      fun ps => allLaps (step k) ((2 * k + 1) :: path) greedy (step k (copies step k 0 ps)) := by
    funext ps
    rw [repeats, copies_succ, Nat.zero_add]
  rw [heq]
  refine ⟨_, (hall.mono fun c h => ?_).of_iff fun s t => ?_⟩
  · rcases h with ⟨i, -, -, h⟩ | h | rfl
    · exact h.suffix
    · exact h.suffix
    · exact List.suffix_cons _ _
  · constructor
    · rintro ⟨u, h, v, hv, hn⟩
      exact ⟨v, h.snoc hv, hn⟩
    · rintro ⟨v, h, hn⟩
      obtain ⟨u, hk, w, hw, rfl⟩ := @Times.split R k 1 s v h
      exact ⟨u, hk, w, hw, hn⟩

lemma then_often_iff (k : Nat) (s t : Spot) : Then (Times R k) (Often R) s t ↔ ∃ n, Times R (k + n) s t := by
  constructor
  · rintro ⟨u, h, n, hn⟩
    exact ⟨n, h.add hn⟩
  · rintro ⟨n, h⟩
    obtain ⟨u, h, hn⟩ := h.split
    exact ⟨u, h, n, hn⟩

lemma covers_repeats (hstep : ∀ i, ∃ X, Covers text (Within path (2 * i)) R X (step i))
    (hr : ∀ s t, R s t → t.rest <:+ s.rest) (nullable : Bool) (min : Nat) (more : Option Nat) (greedy : Bool) :
    ∃ X, Covers text (path <:+ ·) (fun s t => ∃ n, (∀ m ∈ more, n ≤ m) ∧ Times R (min + n) s t) X
      (repeats step (fun i => (2 * i + 1) :: path) nullable min more greedy) := by
  cases more with
  | some more =>
    obtain ⟨X, hX⟩ := covers_bounded hstep nullable min more greedy
    exact ⟨X, Covers.of_iff hX fun s t => by simp⟩
  | none =>
    have often : ∀ s t, Then (Times R min) (Often R) s t ↔
        ∃ n, (∀ m ∈ (none : Option Nat), n ≤ m) ∧ Times R (min + n) s t := by
      intro s t
      rw [then_often_iff]
      simp
    cases min with
    | succ k =>
      obtain ⟨X, hX⟩ := covers_unbounded hstep hr nullable k greedy
      exact ⟨X, Covers.of_iff hX often⟩
    | zero =>
      cases nullable with
      | true =>
        obtain ⟨X, hX⟩ := covers_lapsOrNone greedy (hstep 0) hr
        refine ⟨X, Covers.of_iff hX fun s t => ?_⟩
        rw [← often]
        exact ⟨fun h => ⟨s, rfl, h⟩, fun ⟨u, hu, h⟩ => (show s = u from hu) ▸ h⟩
      | false =>
        obtain ⟨X, hX⟩ := hstep 0
        have hstay : Covers text (Within path 0) Eq X fun ps => ps := Covers.stay hX.region
        have hlaps := Covers.allLaps hX hstay (choice_not_within 0 0) greedy hr
        refine ⟨_, (hlaps.mono fun c h => ?_).of_iff often⟩
        rcases h with h | rfl
        · exact h.suffix
        · exact List.suffix_cons _ _

end Repeats

lemma getLast?_cons_or (c : Char) (cs : List Char) (o : Option Char) :
    (c :: cs).getLast?.or o = cs.getLast?.or (some c) := by
  cases cs with
  | nil => rfl
  | cons d ds =>
    rw [List.getLast?_cons_cons, List.getLast?_eq_some_getLast (List.cons_ne_nil d ds)]
    rfl

namespace Point

lemma next?_spec {p q : Point} {accepts : Char → Bool} (h : p.next? accepts = some q) :
    (∃ c, accepts c = true ∧ p.spot.rest = c :: q.spot.rest ∧ q.spot.prev = some c) ∧ q.trail = [] := by
  obtain ⟨c, rest, hr, ha, rfl⟩ := next?_eq_some.mp h
  exact ⟨⟨c, ha, hr, rfl⟩, rfl⟩

lemma exists_next? {p : Point} {accepts : Char → Bool} {c : Char} {t : Spot} (ha : accepts c = true)
    (hr : p.spot.rest = c :: t.rest) (ht : t.prev = some c) : ∃ q, p.next? accepts = some q ∧ q.spot = t :=
  ⟨_, next?_eq_some.mpr ⟨c, t.rest, hr, ha, rfl⟩, by rw [spot, ← ht]⟩

lemma literal?_spec {p q : Point} {cs : List Char} (h : p.literal? cs = some q) :
    (Core.literal cs).Leads p.spot q.spot ∧ ∀ c ∈ q.trail, c ∈ p.trail ∧ p.spot = q.spot := by
  induction cs generalizing p with
  | nil =>
    cases h
    exact ⟨⟨rfl, rfl⟩, fun c hc => ⟨hc, rfl⟩⟩
  | cons c cs ih =>
    obtain ⟨m, hm, hq⟩ := Option.bind_eq_some_iff.mp h
    obtain ⟨⟨d, hd, hr, hprev⟩, ht⟩ := next?_spec hm
    obtain rfl : d = c := by simpa using hd
    obtain ⟨⟨hr', hp'⟩, ht'⟩ := ih hq
    refine ⟨⟨by rw [hr, hr', List.cons_append], ?_⟩, fun e he => ?_⟩
    · rw [hp', hprev, getLast?_cons_or]
    · have := (ht' e he).1
      rw [ht] at this
      cases this

lemma exists_literal? {p : Point} {cs : List Char} {t : Spot} (h : (Core.literal cs).Leads p.spot t) :
    ∃ q, p.literal? cs = some q ∧ q.spot = t := by
  induction cs generalizing p with
  | nil =>
    obtain ⟨hr, hp⟩ := h
    exact ⟨p, rfl, (Spot.mk.injEq _ _ _ _).mpr ⟨hp.symm, hr⟩⟩
  | cons c cs ih =>
    obtain ⟨hr, hp⟩ := h
    obtain ⟨m, hm, hms⟩ := @exists_next? p (· == c) c ⟨some c, cs ++ t.rest⟩ (beq_self_eq_true c) hr rfl
    obtain ⟨q, hq, hqt⟩ := @ih m (hms ▸ ⟨rfl, hp.trans (getLast?_cons_or c cs _)⟩)
    exact ⟨q, Option.bind_eq_some_iff.mpr ⟨m, hm, hq⟩, hqt⟩

end Point

namespace Core

lemma covers_look (text : List Char) (l : Look) (path : Path) :
    Covers text (path <:+ ·) (look l).Leads Noway ((look l).ends path) := by
  have heq : (look l).ends path = List.filterMap fun p => if l.holds p.prev p.rest.head? then some p else none := by
    funext ps
    rw [ends, ← List.filterMap_eq_filter]
    rfl
  rw [heq]
  refine Covers.filterMap _ (fun p q hp h => ?_) fun p t h => ?_
  · obtain ⟨hl, h⟩ := Option.ite_none_right_eq_some.mp h
    cases h
    exact ⟨hp, ⟨rfl, hl⟩, fun c hc => ⟨hc, rfl⟩⟩
  · exact ⟨p, if_pos h.2, h.1⟩

lemma covers_capture {text : List Char} {index : Nat} {body : Core} {path : Path} {X : Path → Spot → Spot → Prop}
    (hX : Covers text ((0 :: path) <:+ ·) body.Leads X (body.ends (0 :: path))) :
    ∃ X, Covers text (path <:+ ·) (capture index body).Leads X ((capture index body).ends path) := by
  have hbegin : Covers text Nothing Eq Noway (List.filterMap fun p => some (p.begin index)) :=
    Covers.filterMap _ (fun p q hp h => by
      cases h
      exact ⟨hp.begin index, rfl, fun c hc => ⟨hc, rfl⟩⟩) fun p t h => ⟨_, rfl, h⟩
  have hfinish : Covers text Nothing Eq Noway (List.filterMap fun p => some p.finish) :=
    Covers.filterMap _ (fun p q hp h => by
      cases h
      exact ⟨hp.finish, p.spot_finish.symm, fun c hc => ⟨p.trail_finish ▸ hc, p.spot_finish.symm⟩⟩)
      fun p t h => ⟨_, rfl, p.spot_finish.trans h⟩
  have hall := (hbegin.comp hX fun _ h => h.elim).comp hfinish fun _ _ h => h
  refine ⟨_, ((hall.represent (fun ps q hq => ?_) fun ps _ q hq => ?_).mono fun c h => ?_).of_iff fun s t => ?_⟩
  · simpa only [ends, List.filterMap_eq_map'] using hq
  · exact ⟨q, by simpa only [ends, List.filterMap_eq_map'] using hq, rfl⟩
  · rcases h with (h | h) | h
    · exact h.elim
    · exact (List.suffix_cons 0 path).trans h
    · exact h.elim
  · constructor
    · rintro ⟨u, ⟨v, rfl, h⟩, rfl⟩
      exact h
    · intro h
      exact ⟨t, ⟨s, rfl, h⟩, rfl⟩

lemma covers_alt {text : List Char} {a b : Core} {path : Path} {X Y : Path → Spot → Spot → Prop}
    (hX : Covers text ((0 :: path) <:+ ·) a.Leads X (a.ends (0 :: path)))
    (hY : Covers text ((1 :: path) <:+ ·) b.Leads Y (b.ends (1 :: path))) :
    ∃ X, Covers text (path <:+ ·) (alt a b).Leads X ((alt a b).ends path) := by
  have hboth := hX.union hY fun c h h' => absurd (Within.unique h h') (by decide)
  have hall := (covers_markAll text path).comp hboth.pointwise fun c hc h => by
    have hlen : ∀ i, ¬i :: path <:+ path := fun i h => by
      have := h.length_le
      rw [List.length_cons] at this
      omega
    rcases hc ▸ h with h | h
    · exact hlen 0 h
    · exact hlen 1 h
  have heq : (alt a b).ends path = fun ps => Regex.distinct ((markAll path ps).flatMap fun p =>
      a.ends (0 :: path) [p] ++ b.ends (1 :: path) [p]) := by
    funext ps
    rw [ends, markAll, List.flatMap_map]
  rw [heq]
  refine ⟨_, (hall.distinct.mono fun c h => ?_).of_iff fun s t => ?_⟩
  · rcases h with rfl | h | h
    · exact List.suffix_refl _
    · exact (List.suffix_cons 0 path).trans h
    · exact (List.suffix_cons 1 path).trans h
  · exact ⟨fun ⟨u, hu, h⟩ => (show s = u from hu) ▸ h, fun h => ⟨s, rfl, h⟩⟩

/-- The points that an expression leads to are where its relation leads. -/
theorem covers (text : List Char) (r : Core) (path : Path) :
    ∃ X, Covers text (path <:+ ·) r.Leads X (r.ends path) := by
  induction r generalizing path with
  | empty => exact ⟨Noway, Covers.stay fun _ _ _ h => h.elim⟩
  | literal cs =>
    refine ⟨Noway, Covers.filterMap _ (fun p q hp h => ?_) fun p t h => Point.exists_literal? h⟩
    exact ⟨hp.literal? h, Point.literal?_spec h⟩
  | chars set =>
    refine ⟨Noway, Covers.filterMap _ (fun p q hp h => ?_) fun p t ⟨c, hc, hr, ht⟩ => Point.exists_next? hc hr ht⟩
    obtain ⟨hl, ht⟩ := Point.next?_spec h
    refine ⟨hp.next? h, hl, fun c hc => ?_⟩
    rw [ht] at hc
    cases hc
  | look l => exact ⟨Noway, covers_look text l path⟩
  | capture index body ih =>
    obtain ⟨X, hX⟩ := ih (0 :: path)
    exact covers_capture hX
  | seq a b iha ihb =>
    obtain ⟨X, hX⟩ := iha (0 :: path)
    obtain ⟨Y, hY⟩ := ihb (1 :: path)
    have hall := hX.comp hY fun c h h' => absurd (Within.unique h h') (by decide)
    exact ⟨_, hall.mono fun c h => h.elim Within.suffix Within.suffix⟩
  | alt a b iha ihb =>
    obtain ⟨X, hX⟩ := iha (0 :: path)
    obtain ⟨Y, hY⟩ := ihb (1 :: path)
    exact covers_alt hX hY
  | repetition min more greedy body ih =>
    exact covers_repeats (fun i => ih (2 * i :: path)) (fun s t => Leads.suffix) body.nullable min more greedy

/-- From a point where no choice has been made an expression reaches all the spots that it leads to, and no others. -/
theorem exists_mem_ends_iff {text : List Char} {r : Core} {p : Point} (hp : p.On text) (ht : p.trail = []) (t : Spot) :
    (∃ q ∈ r.ends [] [p], q.spot = t) ↔ r.Leads p.spot t := by
  obtain ⟨X, hX⟩ := covers text r []
  have hone := hp.single
  constructor
  · rintro ⟨q, hq, rfl⟩
    obtain ⟨-, p', hp', h, -⟩ := hX.sound [p] hone q hq
    obtain rfl := List.mem_singleton.mp hp'
    exact h
  · intro h
    rcases hX.complete [p] hone p List.mem_cons_self t h with h | ⟨p', hp', c, hc, -⟩
    · exact h
    · obtain rfl := List.mem_singleton.mp hp'
      rw [ht] at hc
      cases hc

theorem matchAt_isSome_iff {text : List Char} {r : Core} {p : Point} (hp : p.On text) (ht : p.trail = []) :
    (r.matchAt p).isSome = true ↔ ∃ t, r.Leads p.spot t := by
  rw [matchAt, Option.isSome_map, List.isSome_head?]
  constructor
  · intro h
    obtain ⟨q, hq⟩ := List.exists_mem_of_ne_nil _ h
    exact ⟨q.spot, (exists_mem_ends_iff hp ht q.spot).mp ⟨q, hq, rfl⟩⟩
  · rintro ⟨t, h⟩
    obtain ⟨q, hq, -⟩ := (exists_mem_ends_iff hp ht t).mpr h
    exact List.ne_nil_of_mem hq

end Core

end TypedPattern.Regex
