import TypedPattern.Regex.Meaning
import TypedPattern.Proofs.Reading.Bare
import TypedPattern.Proofs.Matching.Choice

/-! Capturing groups do not change what an expression leads to. -/

namespace TypedPattern.Regex

namespace Core

/-- An expression leads wherever another one does. -/
def Widens (r r' : Core) : Prop :=
  ∀ s t, r.Leads s t → r'.Leads s t

def Alike (r r' : Core) : Prop :=
  ∀ s t, r.Leads s t ↔ r'.Leads s t

lemma Widens.refl (r : Core) : Widens r r :=
  fun _ _ h => h

lemma Alike.refl (r : Core) : Alike r r :=
  fun _ _ => Iff.rfl

lemma Alike.symm {r r' : Core} (h : Alike r r') : Alike r' r :=
  fun s t => (h s t).symm

lemma Alike.widens {r r' : Core} (h : Alike r r') : Widens r r' :=
  fun s t => (h s t).mp

variable {xs ys : List Core} {s t : Spot}

lemma leadsAll_widens (hxs : List.Forall₂ Widens xs ys) (h : LeadsAll xs s t) : LeadsAll ys s t := by
  induction hxs generalizing s with
  | nil => exact h
  | cons hx _ ih =>
    obtain ⟨u, hu, h⟩ := h
    exact ⟨u, hx s u hu, ih h⟩

lemma leadsSome_widens (hxs : List.Forall₂ Widens xs ys) (h : LeadsSome xs s t) : LeadsSome ys s t := by
  induction hxs with
  | nil => exact h
  | cons hx _ ih =>
    rw [leadsSome_cons] at h ⊢
    exact h.imp (hx s t) ih

lemma Widens.repetition {r r' : Core} (h : Widens r r') (min : Nat) (more : Option Nat) (greedy : Bool) :
    Widens (repetition min more greedy r) (repetition min more greedy r') := by
  have htimes : ∀ n s t, Times r.Leads n s t → Times r'.Leads n s t := by
    intro n
    induction n with
    | zero => exact fun s t hn => hn
    | succ n ih => exact fun s t ⟨u, hu, hn⟩ => ⟨u, h s u hu, ih u t hn⟩
  rintro s t ⟨n, hmost, hn⟩
  exact ⟨n, hmost, htimes _ s t hn⟩

lemma widens_of_alike (h : List.Forall₂ Alike xs ys) : List.Forall₂ Widens xs ys ∧ List.Forall₂ Widens ys xs :=
  ⟨h.imp fun _ _ => Alike.widens, (List.Forall₂.flip h).imp fun _ _ h => (Alike.symm h).widens⟩

lemma leadsAll_alike (h : List.Forall₂ Alike xs ys) : LeadsAll xs s t ↔ LeadsAll ys s t :=
  ⟨leadsAll_widens (widens_of_alike h).1, leadsAll_widens (widens_of_alike h).2⟩

lemma leadsSome_alike (h : List.Forall₂ Alike xs ys) : LeadsSome xs s t ↔ LeadsSome ys s t :=
  ⟨leadsSome_widens (widens_of_alike h).1, leadsSome_widens (widens_of_alike h).2⟩

lemma Alike.repetition {r r' : Core} (h : Alike r r') (min : Nat) (more : Option Nat) (greedy : Bool) :
    Alike (repetition min more greedy r) (repetition min more greedy r') :=
  fun s t => ⟨h.widens.repetition min more greedy s t, h.symm.widens.repetition min more greedy s t⟩

end Core

namespace Meaning

variable {x x' y : Context} {r : Core}

lemma primitive_alike {α : Type} (f : Flags → Except Error α) (g : α → Core) (hx : x'.flags = x.flags)
    (h : (f x.flags).map (fun a => (g a, x)) = .ok (r, y)) : ∃ r' y', (f x'.flags).map (fun a => (g a, x')) = .ok (r', y') ∧
      y'.flags = y.flags ∧ Core.Alike r r' := by
  obtain ⟨a, ha, he⟩ := map_eq_ok.mp h
  cases he
  rw [hx, ha]
  exact ⟨g a, x', rfl, hx, .refl _⟩

lemma expression_plain {z : Context} {q : Core} {s : Span} {items : List FlagItem} {body : Syntax}
    (h : expression { x with flags := x.flags.apply items } body = .ok (q, z)) :
    expression x (.group s (.plain items) body) = .ok (q, { z with flags := x.flags }) := by
  simp only [expression, h, Bind.bind, Except.bind]

mutual

/-- Without its capturing groups an expression means what it means with them. -/
lemma expression_withoutCaptures {x x' y : Context} {r : Core} (hx : x'.flags = x.flags) :
    ∀ s : Syntax, expression x s = .ok (r, y) → ∃ r' y', expression x' s.withoutCaptures = .ok (r', y') ∧
      y'.flags = y.flags ∧ Core.Alike r r'
  | .empty _, h => by
    cases h
    exact ⟨.empty, x', rfl, hx, .refl _⟩
  | .flags _ items, h => by
    cases h
    exact ⟨.empty, _, rfl, by rw [hx], .refl _⟩
  | .literal l, h => primitive_alike (literal · l) id hx h
  | .dot span, h => primitive_alike (dot · span) id hx h
  | .assertion _ kind, h => by
    cases h
    refine ⟨_, x', rfl, hx, ?_⟩
    rw [hx]
    exact .refl _
  | .unicode u, h => primitive_alike (unicodeClass · u) .ofChars hx h
  | .perl p, h => primitive_alike (perl · p) .ofChars hx h
  | .bracketed span negated inner, h => by
    obtain ⟨c, hc, h⟩ := bind_eq_ok.mp h
    obtain ⟨d, hd, h⟩ := bind_eq_ok.mp h
    cases h
    rw [← hx] at hc hd
    refine ⟨.ofChars d, x', ?_, hx, .refl _⟩
    change expression x' (.bracketed span negated inner) = _
    simp only [expression, hc, hd, Bind.bind, Except.bind]
  | .repetition s o kind greedy body, h => by
    obtain ⟨⟨q, z⟩, hq, h⟩ := bind_eq_ok.mp h
    cases h
    obtain ⟨q', z', hq', hz, halike⟩ := expression_withoutCaptures hx body hq
    refine ⟨.repeated (bounds kind).1 (bounds kind).2 (greedy != z'.flags.swapGreed) q', z', ?_, hz, fun s t => ?_⟩
    · rw [Syntax.withoutCaptures, expression, hq']
      rfl
    · rw [Core.leads_repeated, Core.leads_repeated, hz]
      exact halike.repetition _ _ _ s t
  | .group s (.plain items) body, h => by
    obtain ⟨⟨q, z⟩, hq, h⟩ := bind_eq_ok.mp h
    cases h
    have hflags : ({ x' with flags := x'.flags.apply items } : Context).flags =
        ({ x with flags := x.flags.apply items } : Context).flags := congrArg (Flags.apply · items) hx
    obtain ⟨q', z', hq', hz, halike⟩ := expression_withoutCaptures hflags body hq
    exact ⟨q', { z' with flags := x'.flags }, expression_plain hq', hx, halike⟩
  | .group s .numbered body, h => by
    obtain ⟨⟨q, z⟩, hq, h⟩ := bind_eq_ok.mp h
    cases h
    have hnext : x'.flags = ({ x with next := x.next + 1 } : Context).flags := hx
    obtain ⟨q', z', hq', hz, halike⟩ := expression_withoutCaptures hnext body hq
    exact ⟨q', { z' with flags := x'.flags }, @expression_plain x' _ _ _ [] _ hq', hx, halike⟩
  | .group s (.named _ _) body, h => by
    obtain ⟨⟨q, z⟩, hq, h⟩ := bind_eq_ok.mp h
    cases h
    have hnext : x'.flags = ({ x with next := x.next + 1 } : Context).flags := hx
    obtain ⟨q', z', hq', hz, halike⟩ := expression_withoutCaptures hnext body hq
    exact ⟨q', { z' with flags := x'.flags }, @expression_plain x' _ _ _ [] _ hq', hx, halike⟩
  | .alternation _ branches, h => by
    obtain ⟨⟨rs, z⟩, hrs, h⟩ := bind_eq_ok.mp h
    cases h
    obtain ⟨rs', z', hrs', hz, halike⟩ := expressions_withoutCaptures hx branches hrs
    refine ⟨.alternate rs', z', ?_, hz, fun s t => ?_⟩
    · rw [Syntax.withoutCaptures, expression, hrs']
      rfl
    · rw [Core.leads_alternate, Core.leads_alternate]
      exact Core.leadsSome_alike halike
  | .concat _ items, h => by
    obtain ⟨⟨rs, z⟩, hrs, h⟩ := bind_eq_ok.mp h
    cases h
    obtain ⟨rs', z', hrs', hz, halike⟩ := expressions_withoutCaptures hx items hrs
    refine ⟨.concat rs', z', ?_, hz, fun s t => ?_⟩
    · rw [Syntax.withoutCaptures, expression, hrs']
      rfl
    · rw [Core.leads_concat, Core.leads_concat]
      exact Core.leadsAll_alike halike

lemma expressions_withoutCaptures {x x' y : Context} {rs : List Core} (hx : x'.flags = x.flags) :
    ∀ ss : List Syntax, expressions x ss = .ok (rs, y) →
      ∃ rs' y', expressions x' (Syntax.withoutCapturesAll ss) = .ok (rs', y') ∧ y'.flags = y.flags ∧
        List.Forall₂ Core.Alike rs rs'
  | [], h => by
    cases h
    exact ⟨[], x', rfl, hx, .nil⟩
  | s :: rest, h => by
    obtain ⟨⟨r, z⟩, hr, h⟩ := bind_eq_ok.mp h
    obtain ⟨⟨qs, w⟩, hqs, h⟩ := bind_eq_ok.mp h
    cases h
    obtain ⟨r', z', hr', hz, halike⟩ := expression_withoutCaptures hx s hr
    obtain ⟨qs', w', hqs', hw, hall⟩ := expressions_withoutCaptures hz rest hqs
    refine ⟨r' :: qs', w', ?_, hw, .cons halike hall⟩
    simp only [Syntax.withoutCapturesAll, expressions, hr', hqs', Bind.bind, Except.bind]

end

end Meaning

end TypedPattern.Regex
