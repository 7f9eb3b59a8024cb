import TypedPattern.Proofs.Matching.Groups
import TypedPattern.Proofs.Matching.Language

/-! How a run gets from one point to another: the characters that it takes and the groups that it records. -/

namespace TypedPattern.Regex

/-- An expression leads from one point to another. What has been chosen on the way does not count. -/
inductive Crosses : Core → Point → Point → Prop
  | empty {p : Point} : Crosses .empty p p
  | literal {cs : List Char} {p q : Point} : p.literal? cs = some q → Crosses (.literal cs) p q
  | chars {s : CharSet} {p q : Point} : p.next? s.contains = some q → Crosses (.chars s) p q
  | look {l : Look} {p : Point} : l.holds p.prev p.rest.head? = true → Crosses (.look l) p p
  | capture {index : Nat} {body : Core} {p q : Point} : Crosses body (p.begin index) q →
      Crosses (.capture index body) p q.finish
  | seq {a b : Core} {p o q : Point} : Crosses a p o → Crosses b o q → Crosses (.seq a b) p q
  | left {a b : Core} {p q : Point} : Crosses a p q → Crosses (.alt a b) p q
  | right {a b : Core} {p q : Point} : Crosses b p q → Crosses (.alt a b) p q
  | leave {more : Option Nat} {greedy : Bool} {body : Core} {p : Point} : Crosses (.repetition 0 more greedy body) p p
  | must {min : Nat} {more : Option Nat} {greedy : Bool} {body : Core} {p o q : Point} : Crosses body p o →
      Crosses (.repetition min more greedy body) o q → Crosses (.repetition (min + 1) more greedy body) p q
  | may {more : Nat} {greedy : Bool} {body : Core} {p o q : Point} : Crosses body p o →
      Crosses (.repetition 0 (some more) greedy body) o q → Crosses (.repetition 0 (some (more + 1)) greedy body) p q
  | again {greedy : Bool} {body : Core} {p o q : Point} : Crosses body p o →
      Crosses (.repetition 0 none greedy body) o q → Crosses (.repetition 0 none greedy body) p q

namespace Point

lemma clear_of_next? {p q : Point} {accepts : Char → Bool} (h : p.next? accepts = some q) :
    p.clear.next? accepts = some q.clear := by
  obtain ⟨c, rest, hr, ha, rfl⟩ := next?_eq_some.mp h
  exact next?_eq_some.mpr ⟨c, rest, hr, ha, rfl⟩

lemma clear_of_literal? {p q : Point} {cs : List Char} (h : p.literal? cs = some q) :
    p.clear.literal? cs = some q.clear := by
  induction cs generalizing p with
  | nil =>
    cases h
    rfl
  | cons c cs ih =>
    obtain ⟨o, ho, hq⟩ := Option.bind_eq_some_iff.mp h
    exact Option.bind_eq_some_iff.mpr ⟨o.clear, clear_of_next? ho, ih hq⟩

lemma On.pos_add {text raw : List Char} {p q : Point} (hp : p.On text) (hq : q.On text) (h : p.rest = raw ++ q.rest) :
    q.pos = p.pos + Text.byteLength raw := by
  obtain ⟨raw', hrest, before, after, -, hspan⟩ := hp.stretch hq ⟨raw, h.symm⟩
  obtain rfl := List.append_cancel_right (h.symm.trans hrest)
  obtain ⟨hpos, hqpos⟩ := Text.ByteSpan.mk.inj hspan
  rw [hpos, hqpos, Text.byteLength_append]

lemma On.pos_le {text : List Char} {p q : Point} (hp : p.On text) (hq : q.On text) (h : q.rest <:+ p.rest) :
    p.pos ≤ q.pos := by
  obtain ⟨raw, hraw⟩ := h
  rw [hp.pos_add hq hraw.symm]
  exact Nat.le_add_right _ _

end Point

section Repeats

variable {body : Core} {S : Point → Prop}

/-- What steps lead to is what an expression leads to. -/
def Traces (body : Core) (step : List Point → List Point) : Prop :=
  ∀ ps, ∀ q ∈ step ps, ∃ p ∈ ps, Crosses body p.clear q.clear

lemma Traces.marked {step : List Point → List Point} (h : Traces body step) {p q : Point} {choice : Path}
    (hq : q ∈ step [p.mark choice]) : Crosses body p.clear q.clear := by
  obtain ⟨o, ho, hpass⟩ := h [p.mark choice] q hq
  obtain rfl := List.mem_singleton.mp ho
  exact hpass

lemma crosses_laps {step : List Point → List Point} (hstep : Traces body step) {choice : Path} {greedy : Bool}
    (n : Nat) {p : Point} {t : Tour} (hp : ∀ q, Crosses (.repetition 0 none greedy body) p.clear q.clear → S q)
    (ht : ∀ q ∈ t.found, S q) : ∀ q ∈ (laps step choice greedy n p t).found, S q := by
  induction n generalizing p t with
  | zero => exact ht
  | succ n ih =>
    rw [laps]
    split
    · exact ht
    · have hmark : S (p.mark choice) := hp _ .leave
      have again : ∀ t : Tour, (∀ q ∈ t.found, S q) →
          ∀ q ∈ ((step [p.mark choice]).foldl (fun t e => laps step choice greedy n e t) t).found, S q :=
        fun t ht => found_foldl (fun e he t ht => ih (fun q hq => hp q (.again (hstep.marked he) hq)) ht) ht
      cases greedy with
      | true => exact List.forall_mem_cons.mpr ⟨hmark, again _ ht⟩
      | false => exact again _ (List.forall_mem_cons.mpr ⟨hmark, ht⟩)

lemma crosses_allLaps {step : List Point → List Point} (hstep : Traces body step) {choice : Path} {greedy : Bool}
    {ps : List Point} {q : Point} (h : q ∈ allLaps step choice greedy ps) :
    ∃ p ∈ ps, Crosses (.repetition 0 none greedy body) p.clear q.clear := by
  have hfound := found_foldl (S := fun q => ∃ p ∈ ps, Crosses (.repetition 0 none greedy body) p.clear q.clear)
    (f := fun t p => laps step choice greedy (p.rest.length + 1) p t) (t := Tour.empty)
    (fun p hp t ht => crosses_laps hstep _ (fun q hq => ⟨p, hp, hq⟩) ht) (fun q hq => absurd hq List.not_mem_nil)
  exact hfound q (List.mem_reverse.mp (mem_of_mem_distinct h))

variable {step : Nat → List Point → List Point} (hstep : ∀ i, Traces body (step i))

include hstep

lemma crosses_options {choice : Nat → Path} {greedy : Bool} (count level : Nat) {p : Point} {t : Tour}
    (hp : ∀ q, Crosses (.repetition 0 (some count) greedy body) p.clear q.clear → S q) (ht : ∀ q ∈ t.found, S q) :
    ∀ q ∈ (options step choice greedy count level p t).found, S q := by
  induction count generalizing level p t with
  | zero => exact List.forall_mem_cons.mpr ⟨hp p .leave, ht⟩
  | succ count ih =>
    rw [options]
    split
    · exact ht
    · have hmark : S (p.mark (choice level)) := hp _ .leave
      have again : ∀ t : Tour, (∀ q ∈ t.found, S q) → ∀ q ∈ ((step level [p.mark (choice level)]).foldl
          (fun t e => options step choice greedy count (level + 1) e t) t).found, S q := fun t ht =>
        found_foldl
          (fun e he t ht => ih (level + 1) (fun q hq => hp q (.may ((hstep level).marked he) hq)) ht) ht
      cases greedy with
      | true => exact List.forall_mem_cons.mpr ⟨hmark, again _ ht⟩
      | false => exact again _ (List.forall_mem_cons.mpr ⟨hmark, ht⟩)

lemma crosses_copies {more : Option Nat} {greedy : Bool} (count level : Nat) {ps : List Point} {o q : Point}
    (ho : o ∈ copies step count level ps) (h : Crosses (.repetition 0 more greedy body) o.clear q) :
    ∃ p ∈ ps, Crosses (.repetition count more greedy body) p.clear q := by
  induction count generalizing level ps with
  | zero => exact ⟨o, ho, h⟩
  | succ count ih =>
    obtain ⟨n, hn, hrest⟩ := ih (level + 1) ho
    obtain ⟨p, hp, hfirst⟩ := hstep level ps n hn
    exact ⟨p, hp, .must hfirst hrest⟩

lemma crosses_repeats {choice : Nat → Path} {nullable : Bool} {min : Nat} {more : Option Nat} {greedy : Bool}
    {ps : List Point} {q : Point} (h : q ∈ repeats step choice nullable min more greedy ps) :
    ∃ p ∈ ps, Crosses (.repetition min more greedy body) p.clear q.clear := by
  cases more with
  | some more =>
    rw [repeats] at h
    have hfound := found_foldl
      (S := fun q => ∃ p ∈ ps, Crosses (.repetition min (some more) greedy body) p.clear q.clear)
      (f := fun t p => options step choice greedy more min p t) (t := Tour.empty)
      (fun p hp t ht => crosses_options hstep more min (fun q hq => crosses_copies hstep min 0 hp hq) ht)
      (fun q hq => absurd hq List.not_mem_nil)
    exact hfound q (List.mem_reverse.mp (mem_of_mem_distinct h))
  | none =>
    cases min with
    | zero =>
      rw [repeats] at h
      cases nullable with
      | false => exact crosses_allLaps (hstep 0) h
      | true =>
        obtain ⟨p, hp, h⟩ := List.mem_flatMap.mp (mem_of_mem_distinct h)
        refine ⟨p, hp, ?_⟩
        rw [lapsOrNone] at h
        split at h
        · cases h
        · have hlaps : ∀ q ∈ allLaps (step 0) (choice 0) greedy (step 0 [p.mark (choice 1)]),
              Crosses (.repetition 0 none greedy body) p.clear q.clear := fun q hq => by
            obtain ⟨o, ho, hrest⟩ := crosses_allLaps (hstep 0) hq
            exact .again ((hstep 0).marked ho) hrest
          cases greedy with
          | true =>
            rcases List.mem_append.mp h with h | h
            · exact hlaps q h
            · exact List.mem_singleton.mp h ▸ .leave
          | false =>
            rcases List.mem_cons.mp h with rfl | h
            · exact .leave
            · exact hlaps q h
    | succ k =>
      rw [repeats] at h
      obtain ⟨o, ho, hlaps⟩ := crosses_allLaps (hstep k) h
      exact crosses_copies hstep (k + 1) 0 ho hlaps

end Repeats

namespace Core

/-- What an expression leads to, it leads to from one of the points. -/
theorem crosses_of_mem_ends (r : Core) (path : Path) : Traces r (r.ends path) := by
  induction r generalizing path with
  | empty => exact fun ps q hq => ⟨q, hq, .empty⟩
  | literal cs =>
    intro ps q hq
    obtain ⟨p, hp, hq⟩ := List.mem_filterMap.mp hq
    exact ⟨p, hp, .literal (Point.clear_of_literal? hq)⟩
  | chars s =>
    intro ps q hq
    obtain ⟨p, hp, hq⟩ := List.mem_filterMap.mp hq
    exact ⟨p, hp, .chars (Point.clear_of_next? hq)⟩
  | look l =>
    intro ps q hq
    obtain ⟨hq, hl⟩ := List.mem_filter.mp hq
    exact ⟨q, hq, .look hl⟩
  | capture index body ih =>
    intro ps q hq
    obtain ⟨o, ho, rfl⟩ := List.mem_map.mp hq
    obtain ⟨b, hb, hpass⟩ := ih (0 :: path) _ o ho
    obtain ⟨p, hp, rfl⟩ := List.mem_map.mp hb
    exact ⟨p, hp, o.clear_finish ▸ .capture hpass⟩
  | seq a b iha ihb =>
    intro ps q hq
    obtain ⟨o, ho, hb⟩ := ihb (1 :: path) _ q hq
    obtain ⟨p, hp, ha⟩ := iha (0 :: path) ps o ho
    exact ⟨p, hp, .seq ha hb⟩
  | alt a b iha ihb =>
    intro ps q hq
    obtain ⟨p, hp, hq⟩ := List.mem_flatMap.mp (mem_of_mem_distinct hq)
    refine ⟨p, List.mem_of_mem_filter hp, ?_⟩
    rcases List.mem_append.mp hq with hq | hq
    · exact .left ((iha (0 :: path)).marked hq)
    · exact .right ((ihb (1 :: path)).marked hq)
  | repetition min more greedy body ih =>
    exact fun ps q hq => crosses_repeats (fun i => ih (2 * i :: path)) hq

lemma crosses_of_mem_run {r : Core} {ps : List Point} {q : Point} (h : q ∈ r.run ps) :
    ∃ p ∈ ps, Crosses r p.clear q := by
  obtain ⟨o, ho, rfl⟩ := List.mem_map.mp h
  obtain ⟨p, hp, hpass⟩ := r.crosses_of_mem_ends [] _ o ho
  obtain ⟨p, hp', rfl⟩ := List.mem_map.mp hp
  exact ⟨p, hp', hpass⟩

end Core

lemma crosses_capture {index : Nat} {body : Core} {p q : Point} :
    Crosses (.capture index body) p q ↔ ∃ o, Crosses body (p.begin index) o ∧ q = o.finish := by
  constructor
  · intro h
    cases h with
    | capture h => exact ⟨_, h, rfl⟩
  · rintro ⟨o, h, rfl⟩
    exact .capture h

namespace Crosses

variable {r : Core} {p q : Point} {text : List Char}

lemma leads (h : Crosses r p q) : r.Leads p.spot q.spot := by
  induction h with
  | empty => exact Eq.refl _
  | literal h => exact (Point.literal?_spec h).1
  | chars h => exact (Point.next?_spec h).1
  | look h => exact ⟨rfl, h⟩
  | @capture index body p q _ ih => exact q.spot_finish ▸ ih
  | seq _ _ iha ihb => exact ⟨_, iha, ihb⟩
  | left _ ih => exact Or.inl ih
  | right _ ih => exact Or.inr ih
  | leave => exact ⟨0, fun _ _ => Nat.zero_le _, rfl⟩
  | @must min more greedy body p o q _ _ ih ihrest =>
    obtain ⟨n, hn, htimes⟩ := ihrest
    exact ⟨n, hn, Nat.succ_add min n ▸ ⟨_, ih, htimes⟩⟩
  | @may more greedy body p o q _ _ ih ihrest =>
    obtain ⟨n, hn, htimes⟩ := ihrest
    have hle : n ≤ more := hn more rfl
    refine ⟨n + 1, fun m hm => ?_, ⟨_, ih, htimes⟩⟩
    obtain rfl := Option.some.inj hm
    exact Nat.succ_le_succ hle
  | again _ _ ih ihrest =>
    obtain ⟨n, -, htimes⟩ := ihrest
    exact ⟨n + 1, fun _ hm => (nomatch hm), ⟨_, ih, htimes⟩⟩

lemma suffix (h : Crosses r p q) : q.rest <:+ p.rest :=
  h.leads.suffix

lemma on (h : Crosses r p q) (hp : p.On text) : q.On text := by
  induction h with
  | empty => exact hp
  | literal h => exact hp.literal? h
  | chars h => exact hp.next? h
  | look _ => exact hp
  | @capture index body p q _ ih => exact (ih (hp.begin index)).finish
  | seq _ _ iha ihb => exact ihb (iha hp)
  | left _ ih => exact ih hp
  | right _ ih => exact ih hp
  | leave => exact hp
  | must _ _ ih ihrest => exact ihrest (ih hp)
  | may _ _ ih ihrest => exact ihrest (ih hp)
  | again _ _ ih ihrest => exact ihrest (ih hp)

lemma pos_le (h : Crosses r p q) (hp : p.On text) : p.pos ≤ q.pos :=
  hp.pos_le (h.on hp) h.suffix

lemma keeps (h : Crosses r p q) (hr : r.indices = []) : q.groups = p.groups ∧ q.opened = p.opened := by
  have hnext : ∀ p q : Point, ∀ accepts, p.next? accepts = some q → q.groups = p.groups ∧ q.opened = p.opened := by
    intro p q accepts h
    obtain ⟨c, rest, -, -, rfl⟩ := Point.next?_eq_some.mp h
    exact ⟨rfl, rfl⟩
  have hpair : ∀ {a b : Core}, a.indices ++ b.indices = [] → a.indices = [] ∧ b.indices = [] :=
    fun h => List.append_eq_nil_iff.mp h
  induction h with
  | empty => exact ⟨rfl, rfl⟩
  | @literal cs p q h =>
    refine Core.stays_literal (S := fun q => q.groups = p.groups ∧ q.opened = p.opened) (fun o q accepts ho hn => ?_)
      ⟨rfl, rfl⟩ h
    obtain ⟨hg, hp⟩ := hnext o q accepts hn
    exact ⟨hg.trans ho.1, hp.trans ho.2⟩
  | chars h => exact hnext _ _ _ h
  | look _ => exact ⟨rfl, rfl⟩
  | capture _ _ => cases hr
  | seq _ _ iha ihb =>
    obtain ⟨ha, hb⟩ := hpair hr
    exact ⟨(ihb hb).1.trans (iha ha).1, (ihb hb).2.trans (iha ha).2⟩
  | left _ ih => exact ih (hpair hr).1
  | right _ ih => exact ih (hpair hr).2
  | leave => exact ⟨rfl, rfl⟩
  | must _ _ ih ihrest => exact ⟨(ihrest hr).1.trans (ih hr).1, (ihrest hr).2.trans (ih hr).2⟩
  | may _ _ ih ihrest => exact ⟨(ihrest hr).1.trans (ih hr).1, (ihrest hr).2.trans (ih hr).2⟩
  | again _ _ ih ihrest => exact ⟨(ihrest hr).1.trans (ih hr).1, (ihrest hr).2.trans (ih hr).2⟩

end Crosses

def CrossesAll : List Core → Point → Point → Prop
  | [], p, q => p = q
  | x :: xs, p, q => ∃ o, Crosses x p o ∧ CrossesAll xs o q

section CrossesAll

variable {xs ys : List Core} {p q : Point}

lemma crossesAll_append : CrossesAll (xs ++ ys) p q ↔ ∃ o, CrossesAll xs p o ∧ CrossesAll ys o q := by
  induction xs generalizing p with
  | nil => exact ⟨fun h => ⟨p, rfl, h⟩, fun ⟨_, ho, h⟩ => ho ▸ h⟩
  | cons x xs ih =>
    constructor
    · rintro ⟨m, hm, h⟩
      obtain ⟨o, ho, h⟩ := ih.mp h
      exact ⟨o, ⟨m, hm, ho⟩, h⟩
    · rintro ⟨o, ⟨m, hm, ho⟩, h⟩
      exact ⟨m, hm, ih.mpr ⟨o, ho, h⟩⟩

lemma crossesAll_of_mem_runAll {ps : List Point} (h : q ∈ Core.runAll xs ps) : ∃ p ∈ ps, CrossesAll xs p.clear q := by
  induction xs generalizing ps with
  | nil =>
    obtain ⟨p, hp, rfl⟩ := List.mem_map.mp h
    exact ⟨p, hp, rfl⟩
  | cons x xs ih =>
    obtain ⟨o, ho, h⟩ := ih h
    obtain ⟨m, hm, rfl⟩ := List.mem_map.mp ho
    obtain ⟨p, hp, hx⟩ := Core.crosses_of_mem_run ho
    exact ⟨p, hp, m.clear, hx, h⟩

lemma clear_of_mem_runAll {ps : List Point} (h : q ∈ Core.runAll xs ps) : q.clear = q := by
  induction xs generalizing ps with
  | nil =>
    obtain ⟨p, -, rfl⟩ := List.mem_map.mp h
    rfl
  | cons x xs ih => exact ih h

lemma crosses_of_parts {r : Core} (h : CrossesAll r.parts p q) : Crosses r p q := by
  induction r generalizing p q with
  | empty => exact (show p = q from h) ▸ .empty
  | seq a b iha ihb =>
    obtain ⟨o, ha, hb⟩ := crossesAll_append.mp h
    exact .seq (iha ha) (ihb hb)
  | _ =>
    obtain ⟨o, ho, rfl⟩ := h
    exact ho

lemma crossesAll_of_flatMap_parts (h : CrossesAll (xs.flatMap Core.parts) p q) : CrossesAll xs p q := by
  induction xs generalizing p with
  | nil => exact h
  | cons x xs ih =>
    obtain ⟨o, ho, h⟩ := crossesAll_append.mp h
    exact ⟨o, crosses_of_parts ho, ih h⟩

lemma crossesAll_of_prepend {x : Core} (h : CrossesAll (Core.prepend x xs) p q) : CrossesAll (x :: xs) p q := by
  unfold Core.prepend at h
  split at h
  · obtain ⟨o, hl, h⟩ := h
    cases hl with
    | literal hl =>
      rw [Point.literal?_append] at hl
      obtain ⟨m, hm, ho⟩ := Option.bind_eq_some_iff.mp hl
      exact ⟨m, .literal hm, o, .literal ho, h⟩
  · exact h

lemma crossesAll_of_foldr_prepend (h : CrossesAll (xs.foldr Core.prepend []) p q) : CrossesAll xs p q := by
  induction xs generalizing p with
  | nil => exact h
  | cons x xs ih =>
    obtain ⟨o, ho, h⟩ := crossesAll_of_prepend h
    exact ⟨o, ho, ih h⟩

lemma crossesAll_of_ofParts (h : Crosses (Core.ofParts xs) p q) : CrossesAll xs p q := by
  have hfold : ∀ (ys : List Core) (x : Core) (q : Point), Crosses (ys.foldl Core.seq x) p q → CrossesAll (x :: ys) p q := by
    intro ys
    induction ys using List.reverseRecOn with
    | nil => exact fun x q h => ⟨q, h, rfl⟩
    | append_singleton ys y ih =>
      intro x q h
      rw [List.foldl_append] at h
      cases h with
      | seq ha hb => exact (@crossesAll_append (x :: ys) [y] p q).mpr ⟨_, ih x _ ha, q, hb, rfl⟩
  cases xs with
  | nil =>
    cases h
    exact Eq.refl _
  | cons x xs => exact hfold xs x q h

/-- A sequence leads where its members lead one after the other. -/
theorem crossesAll_of_concat (h : Crosses (Core.concat xs) p q) : CrossesAll xs p q :=
  crossesAll_of_flatMap_parts (crossesAll_of_foldr_prepend (crossesAll_of_ofParts h))

end CrossesAll

end TypedPattern.Regex
