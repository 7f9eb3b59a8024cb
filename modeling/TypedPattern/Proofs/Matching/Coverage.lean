import TypedPattern.Proofs.Matching.Spot

/-!
What the points reached by a part say about a text. To come back to a choice without a character between is no way on,
so a spot may be missed from where a choice is on the trail; but then it is reached from where that choice was made.
-/

namespace TypedPattern.Regex

/-- A spot is reached from some points, or one of the choices on their trails leads there. -/
def Covered (X : Path → Spot → Spot → Prop) (F : List Point → List Point) (ps : List Point) (t : Spot) : Prop :=
  (∃ q ∈ F ps, q.spot = t) ∨ ∃ p ∈ ps, ∃ c ∈ p.trail, X c p.spot t

/-- The points that a part reaches in a text stand for the relation `R`. Its own choices are in `U`, and `X` says how
to get from one of them out of the part. -/
structure Covers (text : List Char) (U : Path → Prop) (R : Spot → Spot → Prop) (X : Path → Spot → Spot → Prop)
    (F : List Point → List Point) : Prop where
  sound : ∀ ps, (∀ p ∈ ps, p.On text) → ∀ q ∈ F ps, q.On text ∧
    ∃ p ∈ ps, R p.spot q.spot ∧ ∀ c ∈ q.trail, U c ∨ (c ∈ p.trail ∧ p.spot = q.spot)
  complete : ∀ ps, (∀ p ∈ ps, p.On text) → ∀ p ∈ ps, ∀ t, R p.spot t → Covered X F ps t
  through : ∀ ps, (∀ p ∈ ps, p.On text) → ∀ q ∈ F ps, ∀ c ∈ q.trail, ∀ t, X c q.spot t → Covered X F ps t
  region : ∀ c s t, X c s t → U c

def Then (R S : Spot → Spot → Prop) (s t : Spot) : Prop :=
  ∃ u, R s u ∧ S u t

lemma Covered.mono {X Y : Path → Spot → Spot → Prop} {F G : List Point → List Point} {ps : List Point} {t : Spot}
    (h : Covered X F ps t) (hF : ∀ q, q ∈ F ps → q ∈ G ps) (hX : ∀ c s t, X c s t → Y c s t) : Covered Y G ps t := by
  rcases h with ⟨q, hq, ht⟩ | ⟨p, hp, c, hc, hx⟩
  · exact Or.inl ⟨q, hF q hq, ht⟩
  · exact Or.inr ⟨p, hp, c, hc, hX _ _ _ hx⟩

def Noway (_ : Path) (_ _ : Spot) : Prop :=
  False

def Nothing (_ : Path) : Prop :=
  False

namespace Covers

variable {text : List Char} {U V : Path → Prop} {R S : Spot → Spot → Prop} {X Y : Path → Spot → Spot → Prop}
  {F G : List Point → List Point}

lemma on (h : Covers text U R X F) {ps : List Point} (hps : ∀ p ∈ ps, p.On text) : ∀ q ∈ F ps, q.On text :=
  fun q hq => (h.sound ps hps q hq).1

lemma mono (h : Covers text U R X F) (hu : ∀ c, U c → V c) : Covers text V R X F where
  sound ps hps q hq := by
    obtain ⟨ho, p, hp, hr, ht⟩ := h.sound ps hps q hq
    exact ⟨ho, p, hp, hr, fun c hc => (ht c hc).imp_left (hu c)⟩
  complete := h.complete
  through := h.through
  region c s t hx := hu c (h.region c s t hx)

lemma of_iff (h : Covers text U R X F) (hr : ∀ s t, R s t ↔ S s t) : Covers text U S X F := by
  have : R = S := by
    funext s t
    exact propext (hr s t)
  exact this ▸ h

lemma filterMap {f : Point → Option Point} (U : Path → Prop)
    (hs : ∀ p q, p.On text → f p = some q →
      q.On text ∧ R p.spot q.spot ∧ ∀ c ∈ q.trail, c ∈ p.trail ∧ p.spot = q.spot)
    (hc : ∀ p t, R p.spot t → ∃ q, f p = some q ∧ q.spot = t) :
    Covers text U R Noway (List.filterMap f) where
  sound ps hps q hq := by
    obtain ⟨p, hp, hf⟩ := List.mem_filterMap.mp hq
    obtain ⟨ho, hr, ht⟩ := hs p q (hps p hp) hf
    exact ⟨ho, p, hp, hr, fun c hc => Or.inr (ht c hc)⟩
  complete _ _ p hp t hr := by
    obtain ⟨q, hf, hq⟩ := hc p t hr
    exact Or.inl ⟨q, List.mem_filterMap.mpr ⟨p, hp, hf⟩, hq⟩
  through _ _ _ _ _ _ _ hx := hx.elim
  region _ _ _ hx := hx.elim

lemma stay (hx : ∀ c s t, X c s t → U c) : Covers text U Eq X fun ps => ps where
  sound _ hps q hq := ⟨hps q hq, q, hq, rfl, fun _ hc => Or.inr ⟨hc, rfl⟩⟩
  complete _ _ p hp _ hr := Or.inl ⟨p, hp, hr⟩
  through _ _ q hq c hc _ hx := Or.inr ⟨q, hq, c, hc, hx⟩
  region := hx

lemma covered_comp (hF : Covers text U R X F) (hG : Covers text V S Y G) (hd : ∀ c, U c → ¬V c)
    {ps : List Point} (hps : ∀ p ∈ ps, p.On text) {u t : Spot} (h : Covered X F ps u) (hs : S u t) :
    Covered (fun c => fun s t => Then (X c) S s t ∨ Y c s t) (fun ps => G (F ps)) ps t := by
  rcases h with ⟨q, hq, rfl⟩ | ⟨p, hp, c, hc, hx⟩
  · rcases hG.complete (F ps) (hF.on hps) q hq t hs with h | ⟨q', hq', c, hc, hy⟩
    · exact Or.inl h
    · obtain ⟨-, p, hp, -, ht⟩ := hF.sound ps hps q' hq'
      rcases ht c hc with hu | ⟨hcp, heq⟩
      · exact absurd (hG.region c _ _ hy) (hd c hu)
      · exact Or.inr ⟨p, hp, c, hcp, Or.inr (heq ▸ hy)⟩
  · exact Or.inr ⟨p, hp, c, hc, Or.inl ⟨u, hx, hs⟩⟩

/-- One part after another whose choices are others. -/
lemma comp (hF : Covers text U R X F) (hG : Covers text V S Y G) (hd : ∀ c, U c → ¬V c) :
    Covers text (fun c => U c ∨ V c) (Then R S) (fun c => fun s t => Then (X c) S s t ∨ Y c s t)
      (fun ps => G (F ps)) where
  sound ps hps q hq := by
    obtain ⟨ho, m, hm, hs, htm⟩ := hG.sound (F ps) (hF.on hps) q hq
    obtain ⟨-, p, hp, hr, htp⟩ := hF.sound ps hps m hm
    refine ⟨ho, p, hp, ⟨m.spot, hr, hs⟩, fun c hc => ?_⟩
    rcases htm c hc with hv | ⟨hcm, heq⟩
    · exact Or.inl (Or.inr hv)
    · rcases htp c hcm with hu | ⟨hcp, heq'⟩
      · exact Or.inl (Or.inl hu)
      · exact Or.inr ⟨hcp, heq'.trans heq⟩
  complete ps hps p hp t := by
    rintro ⟨u, hr, hs⟩
    exact covered_comp hF hG hd hps (hF.complete ps hps p hp u hr) hs
  through ps hps q hq c hc t := by
    rintro (⟨u, hx, hs⟩ | hy)
    · obtain ⟨-, m, hm, -, htm⟩ := hG.sound (F ps) (hF.on hps) q hq
      rcases htm c hc with hv | ⟨hcm, heq⟩
      · exact absurd hv (hd c (hF.region c _ _ hx))
      · exact covered_comp hF hG hd hps (hF.through ps hps m hm c hcm u (heq ▸ hx)) hs
    · rcases hG.through (F ps) (hF.on hps) q hq c hc t hy with h | ⟨m, hm, d, hd', hy'⟩
      · exact Or.inl h
      · obtain ⟨-, p, hp, -, htp⟩ := hF.sound ps hps m hm
        rcases htp d hd' with hu | ⟨hdp, heq⟩
        · exact absurd (hG.region d _ _ hy') (hd d hu)
        · exact Or.inr ⟨p, hp, d, hdp, Or.inr (heq ▸ hy')⟩
  region c s t := by
    rintro (⟨u, hx, -⟩ | hy)
    · exact Or.inl (hF.region c s u hx)
    · exact Or.inr (hG.region c s t hy)

lemma union (hF : Covers text U R X F) (hG : Covers text V S Y G) (hd : ∀ c, U c → ¬V c) :
    Covers text (fun c => U c ∨ V c) (fun s t => R s t ∨ S s t) (fun c => fun s t => X c s t ∨ Y c s t)
      (fun ps => F ps ++ G ps) := by
  have left : ∀ ps t, Covered X F ps t →
      Covered (fun c => fun s t => X c s t ∨ Y c s t) (fun ps => F ps ++ G ps) ps t := fun ps t h =>
    h.mono (fun _ => List.mem_append_left _) fun _ _ _ => Or.inl
  have right : ∀ ps t, Covered Y G ps t →
      Covered (fun c => fun s t => X c s t ∨ Y c s t) (fun ps => F ps ++ G ps) ps t := fun ps t h =>
    h.mono (fun _ => List.mem_append_right _) fun _ _ _ => Or.inr
  constructor
  · intro ps hps q hq
    rcases List.mem_append.mp hq with hq | hq
    · obtain ⟨ho, p, hp, hr, ht⟩ := hF.sound ps hps q hq
      exact ⟨ho, p, hp, Or.inl hr, fun c hc => (ht c hc).imp_left Or.inl⟩
    · obtain ⟨ho, p, hp, hr, ht⟩ := hG.sound ps hps q hq
      exact ⟨ho, p, hp, Or.inr hr, fun c hc => (ht c hc).imp_left Or.inr⟩
  · rintro ps hps p hp t (hr | hs)
    · exact left ps t (hF.complete ps hps p hp t hr)
    · exact right ps t (hG.complete ps hps p hp t hs)
  · intro ps hps q hq c hc t hxy
    rcases List.mem_append.mp hq with hq | hq
    · rcases hxy with hx | hy
      · exact left ps t (hF.through ps hps q hq c hc t hx)
      · obtain ⟨-, p, hp, -, ht⟩ := hF.sound ps hps q hq
        rcases ht c hc with hu | ⟨hcp, heq⟩
        · exact absurd (hG.region c _ _ hy) (hd c hu)
        · exact Or.inr ⟨p, hp, c, hcp, Or.inr (heq ▸ hy)⟩
    · rcases hxy with hx | hy
      · obtain ⟨-, p, hp, -, ht⟩ := hG.sound ps hps q hq
        rcases ht c hc with hv | ⟨hcp, heq⟩
        · exact absurd hv (hd c (hF.region c _ _ hx))
        · exact Or.inr ⟨p, hp, c, hcp, Or.inl (heq ▸ hx)⟩
      · exact right ps t (hG.through ps hps q hq c hc t hy)
  · rintro c s t (hx | hy)
    · exact Or.inl (hF.region c s t hx)
    · exact Or.inr (hG.region c s t hy)

lemma pointwise (hF : Covers text U R X F) : Covers text U R X fun ps => ps.flatMap fun p => F [p] := by
  have each : ∀ ps p t, p ∈ ps → Covered X F [p] t → Covered X (fun ps => ps.flatMap fun p => F [p]) ps t := by
    rintro ps p t hp (⟨q, hq, ht⟩ | ⟨p', hp', c, hc, hx⟩)
    · exact Or.inl ⟨q, List.mem_flatMap.mpr ⟨p, hp, hq⟩, ht⟩
    · obtain rfl := List.mem_singleton.mp hp'
      exact Or.inr ⟨p', hp, c, hc, hx⟩
  have single : ∀ ps : List Point, (∀ p ∈ ps, p.On text) → ∀ p ∈ ps, ∀ q ∈ [p], q.On text := by
    intro ps hps p hp q hq
    exact List.mem_singleton.mp hq ▸ hps p hp
  constructor
  · intro ps hps q hq
    obtain ⟨p, hp, hq⟩ := List.mem_flatMap.mp hq
    obtain ⟨ho, p', hp', hr, ht⟩ := hF.sound [p] (single ps hps p hp) q hq
    obtain rfl := List.mem_singleton.mp hp'
    exact ⟨ho, p', hp, hr, ht⟩
  · intro ps hps p hp t hr
    exact each ps p t hp (hF.complete [p] (single ps hps p hp) p List.mem_cons_self t hr)
  · intro ps hps q hq c hc t hx
    obtain ⟨p, hp, hq⟩ := List.mem_flatMap.mp hq
    exact each ps p t hp (hF.through [p] (single ps hps p hp) q hq c hc t hx)
  · exact hF.region

/-- Of the points at one position it is enough to keep one. -/
lemma represent (hF : Covers text U R X F) (hsub : ∀ ps, ∀ q ∈ G ps, q ∈ F ps)
    (hrep : ∀ ps, (∀ p ∈ ps, p.On text) → ∀ q ∈ F ps, ∃ q' ∈ G ps, q'.pos = q.pos) : Covers text U R X G := by
  have keep : ∀ ps, (∀ p ∈ ps, p.On text) → ∀ t, Covered X F ps t → Covered X G ps t := by
    rintro ps hps t (⟨q, hq, rfl⟩ | h)
    · obtain ⟨q', hq', hpos⟩ := hrep ps hps q hq
      exact Or.inl ⟨q', hq', (hF.on hps q' (hsub ps q' hq')).spot_eq (hF.on hps q hq) hpos⟩
    · exact Or.inr h
  constructor
  · intro ps hps q hq
    exact hF.sound ps hps q (hsub ps q hq)
  · intro ps hps p hp t hr
    exact keep ps hps t (hF.complete ps hps p hp t hr)
  · intro ps hps q hq c hc t hx
    exact keep ps hps t (hF.through ps hps q (hsub ps q hq) c hc t hx)
  · exact hF.region

lemma distinct (hF : Covers text U R X F) : Covers text U R X fun ps => distinct (F ps) :=
  hF.represent (fun _ _ => mem_of_mem_distinct) fun _ _ _ => exists_mem_distinct

lemma marking {choice : Path} (hsub : ∀ ps, ∀ q ∈ F ps, ∃ p ∈ ps, choice ∉ p.trail ∧ q = p.mark choice)
    (hrep : ∀ ps, (∀ p ∈ ps, p.On text) → ∀ p ∈ ps, choice ∉ p.trail → ∃ q ∈ F ps, q.pos = p.pos) :
    Covers text (· = choice) Eq (fun c => fun s t => c = choice ∧ s = t) F where
  sound ps hps q hq := by
    obtain ⟨p, hp, -, rfl⟩ := hsub ps q hq
    refine ⟨(hps p hp).mark choice, p, hp, rfl, fun c hc => ?_⟩
    rcases List.mem_cons.mp hc with rfl | hc
    · exact Or.inl rfl
    · exact Or.inr ⟨hc, rfl⟩
  complete ps hps p hp t := by
    rintro rfl
    by_cases hc : choice ∈ p.trail
    · exact Or.inr ⟨p, hp, choice, hc, rfl, rfl⟩
    · obtain ⟨q, hq, hpos⟩ := hrep ps hps p hp hc
      obtain ⟨p', hp', -, rfl⟩ := hsub ps q hq
      exact Or.inl ⟨_, hq, (hps p' hp').spot_eq (hps p hp) hpos⟩
  through _ _ q hq _ _ _ := by
    rintro ⟨-, rfl⟩
    exact Or.inl ⟨q, hq, rfl⟩
  region _ _ _ hx := hx.1

end Covers

end TypedPattern.Regex
