import TypedPattern.Proofs.Matching.Structural

/-! Expressions without assertions: what they do at a place depends on nothing but what comes next. -/

namespace TypedPattern.Regex

namespace Core

/-- Whether an expression has no assertions. -/
def sightless : Core → Bool
  | look _ => false
  | repetition _ _ _ body => body.sightless
  | capture _ body => body.sightless
  | seq a b => a.sightless && b.sightless
  | alt a b => a.sightless && b.sightless
  | _ => true

lemma structural_sightless : Structural fun r => r.sightless = true where
  empty := rfl
  literal _ := rfl
  chars _ := rfl
  seq _ _ := Bool.and_eq_true_iff
  alt _ _ := Bool.and_eq_true_iff
  repetition _ _ _ _ h := h

end Core

mutual

/-- Whether an expression is written without anchors and other assertions. -/
def Syntax.sightless : Syntax → Bool
  | .assertion _ _ => false
  | .repetition _ _ _ _ body => body.sightless
  | .group _ _ body => body.sightless
  | .alternation _ xs => Syntax.sightlessAll xs
  | .concat _ xs => Syntax.sightlessAll xs
  | _ => true

def Syntax.sightlessAll : List Syntax → Bool
  | [] => true
  | x :: xs => x.sightless && Syntax.sightlessAll xs

end

namespace Meaning

mutual

lemma sightless_expression {x y : Context} {r : Core} :
    ∀ s : Syntax, s.sightless = true → expression x s = .ok (r, y) → r.sightless = true
  | .empty _, _, h => by
    cases h
    rfl
  | .flags _ _, _, h => by
    cases h
    rfl
  | .literal l, _, h => by
    obtain ⟨r, hr, he⟩ := map_eq_ok.mp h
    cases he
    exact Core.structural_sightless.of_literal hr
  | .dot span, _, h => by
    obtain ⟨r, hr, he⟩ := map_eq_ok.mp h
    cases he
    exact Core.structural_sightless.of_dot hr
  | .unicode u, _, h => by
    obtain ⟨c, -, he⟩ := map_eq_ok.mp h
    cases he
    exact Core.structural_sightless.ofChars _
  | .perl p, _, h => by
    obtain ⟨c, -, he⟩ := map_eq_ok.mp h
    cases he
    exact Core.structural_sightless.ofChars _
  | .bracketed span negated inner, _, h => by
    obtain ⟨c, -, h⟩ := bind_eq_ok.mp h
    obtain ⟨d, -, h⟩ := bind_eq_ok.mp h
    cases h
    exact Core.structural_sightless.ofChars _
  | .repetition _ _ _ _ body, hs, h => by
    obtain ⟨⟨q, z⟩, hq, h⟩ := bind_eq_ok.mp h
    cases h
    exact Core.structural_sightless.repeated _ _ _ (sightless_expression body hs hq)
  | .group _ (.plain _) body, hs, h => by
    obtain ⟨⟨q, z⟩, hq, h⟩ := bind_eq_ok.mp h
    cases h
    exact sightless_expression body hs hq
  | .group _ .numbered body, hs, h => by
    obtain ⟨⟨q, z⟩, hq, h⟩ := bind_eq_ok.mp h
    cases h
    exact (sightless_expression body hs hq : q.sightless = true)
  | .group _ (.named _ _) body, hs, h => by
    obtain ⟨⟨q, z⟩, hq, h⟩ := bind_eq_ok.mp h
    cases h
    exact (sightless_expression body hs hq : q.sightless = true)
  | .alternation _ branches, hs, h => by
    obtain ⟨⟨rs, z⟩, hrs, h⟩ := bind_eq_ok.mp h
    cases h
    exact Core.structural_sightless.alternate (sightless_expressions branches hs hrs)
  | .concat _ items, hs, h => by
    obtain ⟨⟨rs, z⟩, hrs, h⟩ := bind_eq_ok.mp h
    cases h
    exact Core.structural_sightless.concat (sightless_expressions items hs hrs)

lemma sightless_expressions {x y : Context} {rs : List Core} :
    ∀ ss : List Syntax, Syntax.sightlessAll ss = true → expressions x ss = .ok (rs, y) →
      ∀ r ∈ rs, r.sightless = true
  | [], _, h => by
    cases h
    exact fun r hr => absurd hr List.not_mem_nil
  | s :: ss, hs, h => by
    obtain ⟨⟨r, z⟩, hr, h⟩ := bind_eq_ok.mp h
    obtain ⟨⟨qs, w⟩, hqs, h⟩ := bind_eq_ok.mp h
    cases h
    obtain ⟨hs, hss⟩ := (Bool.and_eq_true _ _).mp hs
    exact List.forall_mem_cons.mpr ⟨sightless_expression s hs hr, sightless_expressions ss hss hqs⟩

end

end Meaning

lemma Syntax.sightless_meaning {s : Syntax} (hs : s.sightless = true) {caseInsensitive : Bool} {r : Core}
    (h : s.meaning caseInsensitive = .ok r) : r.sightless = true := by
  obtain ⟨⟨q, y⟩, hq, rfl⟩ := map_eq_ok.mp h
  exact Meaning.sightless_expression s hs hq

end TypedPattern.Regex
