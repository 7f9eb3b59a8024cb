import TypedPattern.Proofs.Matching.Spot

/-! What the moves of a run keep is kept by the whole run. -/

namespace TypedPattern.Regex

/-- What holds of all points before holds of all points behind. -/
def Stays (S : Point → Prop) (f : List Point → List Point) : Prop :=
  ∀ ps, (∀ p ∈ ps, S p) → ∀ q ∈ f ps, S q

section

variable {S : Point → Prop}

lemma Stays.single {f : List Point → List Point} (h : Stays S f) {p : Point} (hp : S p) : ∀ q ∈ f [p], S q :=
  h [p] fun _ hq => List.mem_singleton.mp hq ▸ hp

lemma found_foldl {f : Tour → Point → Tour} {ps : List Point} {t : Tour}
    (hf : ∀ p ∈ ps, ∀ t : Tour, (∀ q ∈ t.found, S q) → ∀ q ∈ (f t p).found, S q) (ht : ∀ q ∈ t.found, S q) :
    ∀ q ∈ (ps.foldl f t).found, S q := by
  induction ps generalizing t with
  | nil => exact ht
  | cons p ps ih => exact ih (fun r hr => hf r (List.mem_cons_of_mem p hr)) (hf p List.mem_cons_self t ht)

lemma found_laps {step : List Point → List Point} {choice : Path} (hstep : Stays S step)
    (hmark : ∀ p, S p → S (p.mark choice)) (greedy : Bool) (n : Nat) {p : Point} {t : Tour} (hp : S p)
    (ht : ∀ q ∈ t.found, S q) : ∀ q ∈ (laps step choice greedy n p t).found, S q := by
  induction n generalizing p t with
  | zero => exact ht
  | succ n ih =>
    rw [laps]
    split
    · exact ht
    · have again : ∀ t : Tour, (∀ q ∈ t.found, S q) →
          ∀ q ∈ ((step [p.mark choice]).foldl (fun t e => laps step choice greedy n e t) t).found, S q :=
        fun t ht => found_foldl (fun e he t ht => ih (hstep.single (hmark p hp) e he) ht) ht
      cases greedy with
      | true => exact List.forall_mem_cons.mpr ⟨hmark p hp, again _ ht⟩
      | false => exact again _ (List.forall_mem_cons.mpr ⟨hmark p hp, ht⟩)

lemma Stays.allLaps {step : List Point → List Point} {choice : Path} (hstep : Stays S step)
    (hmark : ∀ p, S p → S (p.mark choice)) (greedy : Bool) : Stays S (allLaps step choice greedy) := by
  intro ps hps q hq
  have hfound := found_foldl (f := fun t p => laps step choice greedy (p.rest.length + 1) p t) (t := Tour.empty)
    (fun p hp t ht => found_laps hstep hmark greedy _ (hps p hp) ht) (fun q hq => by cases hq)
  exact hfound q (List.mem_reverse.mp (mem_of_mem_distinct hq))

variable {step : Nat → List Point → List Point} {choice : Nat → Path} (hstep : ∀ i, Stays S (step i))
  (hmark : ∀ i p, S p → S (p.mark (choice i)))

include hstep

lemma Stays.copies (count level : Nat) : Stays S (copies step count level) := by
  induction count generalizing level with
  | zero => exact fun ps hps => hps
  | succ count ih => exact fun ps hps => ih (level + 1) _ (hstep level ps hps)

include hmark

lemma found_options (greedy : Bool) (count level : Nat) {p : Point} {t : Tour} (hp : S p) (ht : ∀ q ∈ t.found, S q) :
    ∀ q ∈ (options step choice greedy count level p t).found, S q := by
  induction count generalizing level p t with
  | zero => exact List.forall_mem_cons.mpr ⟨hp, ht⟩
  | succ count ih =>
    rw [options]
    split
    · exact ht
    · have hm := hmark level p hp
      have again : ∀ t : Tour, (∀ q ∈ t.found, S q) → ∀ q ∈ ((step level [p.mark (choice level)]).foldl
          (fun t e => options step choice greedy count (level + 1) e t) t).found, S q := fun t ht =>
        found_foldl (fun e he t ht => ih (level + 1) ((hstep level).single hm e he) ht) ht
      cases greedy with
      | true => exact List.forall_mem_cons.mpr ⟨hm, again _ ht⟩
      | false => exact again _ (List.forall_mem_cons.mpr ⟨hm, ht⟩)

lemma Stays.repeats (nullable : Bool) (min : Nat) (more : Option Nat) (greedy : Bool) :
    Stays S (repeats step choice nullable min more greedy) := by
  intro ps hps q hq
  cases more with
  | some more =>
    rw [Regex.repeats] at hq
    have hcopies := Stays.copies hstep min 0 ps hps
    have hfound := found_foldl (f := fun t p => options step choice greedy more min p t) (t := Tour.empty)
      (fun p hp t ht => found_options hstep hmark greedy more min (hcopies p hp) ht) (fun q hq => by cases hq)
    exact hfound q (List.mem_reverse.mp (mem_of_mem_distinct hq))
  | none =>
    cases min with
    | zero =>
      rw [Regex.repeats] at hq
      cases nullable with
      | false => exact (hstep 0).allLaps (hmark 0) greedy ps hps q hq
      | true =>
        obtain ⟨p, hp, hq⟩ := List.mem_flatMap.mp (mem_of_mem_distinct hq)
        rw [lapsOrNone] at hq
        split at hq
        · cases hq
        · have hm := hmark 1 p (hps p hp)
          have hlaps := (hstep 0).allLaps (hmark 0) greedy _ ((hstep 0).single hm)
          cases greedy with
          | true =>
            rcases List.mem_append.mp hq with hq | hq
            · exact hlaps q hq
            · exact List.mem_singleton.mp hq ▸ hm
          | false =>
            rcases List.mem_cons.mp hq with rfl | hq
            · exact hm
            · exact hlaps q hq
    | succ k =>
      rw [Regex.repeats] at hq
      exact (hstep k).allLaps (hmark k) greedy _ (Stays.copies hstep (k + 1) 0 ps hps) q hq

end

namespace Core

def indices : Core → List Nat
  | empty => []
  | literal _ => []
  | chars _ => []
  | look _ => []
  | repetition _ _ _ body => body.indices
  | capture index body => index :: body.indices
  | seq a b => a.indices ++ b.indices
  | alt a b => a.indices ++ b.indices

lemma stays_literal {S : Point → Prop} (hnext : ∀ p q accepts, S p → p.next? accepts = some q → S q) {cs : List Char}
    {p q : Point} (hp : S p) (h : p.literal? cs = some q) : S q := by
  induction cs generalizing p with
  | nil =>
    cases h
    exact hp
  | cons c cs ih =>
    obtain ⟨m, hm, hq⟩ := Option.bind_eq_some_iff.mp h
    exact ih (hnext p m _ hp hm) hq

/-- What choices, characters and the groups of an expression keep is kept by the expression. -/
theorem stays_ends {S : Point → Prop} (hnext : ∀ p q accepts, S p → p.next? accepts = some q → S q) (r : Core)
    (path : Path) (hmark : ∀ p c, path <:+ c → S p → S (p.mark c))
    (hbegin : ∀ i ∈ r.indices, ∀ p, S p → S (p.begin i)) (hfinish : r.indices ≠ [] → ∀ p, S p → S p.finish) :
    Stays S (r.ends path) := by
  -- a part makes its choices below its own place
  have hdeeper : ∀ i p c, i :: path <:+ c → S p → S (p.mark c) := fun i p c h =>
    hmark p c ((List.suffix_cons i path).trans h)
  induction r generalizing path with
  | empty => exact fun ps hps => hps
  | literal cs =>
    intro ps hps q hq
    obtain ⟨p, hp, hq⟩ := List.mem_filterMap.mp hq
    exact stays_literal hnext (hps p hp) hq
  | chars s =>
    intro ps hps q hq
    obtain ⟨p, hp, hq⟩ := List.mem_filterMap.mp hq
    exact hnext p q _ (hps p hp) hq
  | look l => exact fun ps hps q hq => hps q (List.mem_of_mem_filter hq)
  | capture index body ih =>
    intro ps hps q hq
    have hbody := ih (0 :: path) (hdeeper 0) (fun i hi => hbegin i (List.mem_cons_of_mem index hi))
      (fun _ => hfinish (List.cons_ne_nil _ _)) fun i p c h => hdeeper 0 p c ((List.suffix_cons i _).trans h)
    obtain ⟨p, hp, rfl⟩ := List.mem_map.mp hq
    refine hfinish (List.cons_ne_nil _ _) p (hbody _ (fun o ho => ?_) p hp)
    obtain ⟨m, hm, rfl⟩ := List.mem_map.mp ho
    exact hbegin index List.mem_cons_self m (hps m hm)
  | seq a b iha ihb =>
    intro ps hps q hq
    have ha := iha (0 :: path) (hdeeper 0) (fun i hi => hbegin i (List.mem_append_left _ hi))
      (fun h => hfinish (by simp [indices, h])) fun i p c h => hdeeper 0 p c ((List.suffix_cons i _).trans h)
    have hb := ihb (1 :: path) (hdeeper 1) (fun i hi => hbegin i (List.mem_append_right _ hi))
      (fun h => hfinish (by simp [indices, h])) fun i p c h => hdeeper 1 p c ((List.suffix_cons i _).trans h)
    exact hb _ (ha ps hps) q hq
  | alt a b iha ihb =>
    intro ps hps q hq
    have ha := iha (0 :: path) (hdeeper 0) (fun i hi => hbegin i (List.mem_append_left _ hi))
      (fun h => hfinish (by simp [indices, h])) fun i p c h => hdeeper 0 p c ((List.suffix_cons i _).trans h)
    have hb := ihb (1 :: path) (hdeeper 1) (fun i hi => hbegin i (List.mem_append_right _ hi))
      (fun h => hfinish (by simp [indices, h])) fun i p c h => hdeeper 1 p c ((List.suffix_cons i _).trans h)
    obtain ⟨p, hp, hq⟩ := List.mem_flatMap.mp (mem_of_mem_distinct hq)
    have hm := hmark p path (List.suffix_refl path) (hps p (List.mem_of_mem_filter hp))
    rcases List.mem_append.mp hq with hq | hq
    · exact ha.single hm q hq
    · exact hb.single hm q hq
  | repetition min more greedy body ih =>
    refine Stays.repeats (fun i => ?_) (fun i p => hdeeper (2 * i + 1) p _ (List.suffix_refl _)) _ _ _ _
    exact ih (2 * i :: path) (hdeeper (2 * i)) hbegin hfinish
      fun j p c h => hdeeper (2 * i) p c ((List.suffix_cons j _).trans h)

lemma trail_ends {r : Core} {path : Path} {ps : List Point} {q : Point} (h : q ∈ r.ends path ps) {c : Path}
    (hc : c ∈ q.trail) : path <:+ c ∨ ∃ p ∈ ps, c ∈ p.trail := by
  have hstay : Stays (fun q => ∀ c ∈ q.trail, path <:+ c ∨ ∃ p ∈ ps, c ∈ p.trail) (r.ends path) := by
    apply stays_ends
    · intro p q accepts _ hn c hc
      obtain ⟨d, rest, -, -, rfl⟩ := Point.next?_eq_some.mp hn
      cases hc
    · intro p d hd hp c hc
      rcases List.mem_cons.mp hc with rfl | hc
      · exact Or.inl hd
      · exact hp c hc
    · exact fun i _ p hp => hp
    · intro _ p hp c hc
      exact hp c (p.trail_finish ▸ hc)
  exact hstay ps (fun p hp c hc => Or.inr ⟨p, hp, hc⟩) q h c hc

lemma on_ends {r : Core} {path : Path} {text : List Char} {ps : List Point} (hps : ∀ p ∈ ps, p.On text) :
    ∀ q ∈ r.ends path ps, q.On text := by
  exact stays_ends (fun p q accepts hp hn => hp.next? hn) r path (fun p c _ hp => hp.mark c)
    (fun i _ p hp => hp.begin i) (fun _ p hp => hp.finish) ps hps

lemma groups_ends {r : Core} (hr : r.indices = []) {path : Path} {ps : List Point} {q : Point}
    (h : q ∈ r.ends path ps) : ∃ p ∈ ps, q.groups = p.groups ∧ q.opened = p.opened ∧ q.rest <:+ p.rest := by
  have hstay : Stays (fun q => ∃ p ∈ ps, q.groups = p.groups ∧ q.opened = p.opened ∧ q.rest <:+ p.rest)
      (r.ends path) := by
    apply stays_ends
    · rintro p q accepts ⟨o, ho, hg, hp, hs⟩ hn
      obtain ⟨d, rest, hr, -, rfl⟩ := Point.next?_eq_some.mp hn
      exact ⟨o, ho, hg, hp, ((List.suffix_cons d rest).trans (hr ▸ List.suffix_refl _)).trans hs⟩
    · exact fun p c _ hp => hp
    · intro i hi
      rw [hr] at hi
      cases hi
    · exact fun hn => absurd hr hn
  exact hstay ps (fun p hp => ⟨p, hp, rfl, rfl, List.suffix_refl _⟩) q h

end Core

end TypedPattern.Regex
