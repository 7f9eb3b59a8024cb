import TypedPattern.Matcher
import TypedPattern.Proofs.Closing.Level
import TypedPattern.Proofs.Matching.Composition

/-! The program that has to match up to the end of the text beside the one that need not. -/

namespace TypedPattern.Regex

lemma Meaning.expression_enclose (x : Meaning.Context) (h : x.flags.multiLine = false) (tree : Syntax) :
    Meaning.expression x (.concat ⟨0, 0⟩ [.group ⟨0, 0⟩ (.plain []) tree, .assertion ⟨0, 0⟩ .lineEnd]) =
      (Meaning.expression x tree).map fun (r, y) => (.concat [r, .look .textEnd], { y with flags := x.flags }) := by
  have hflags : x.flags.apply [] = x.flags := rfl
  simp only [Meaning.expression, Meaning.expressions, hflags]
  cases Meaning.expression x tree with
  | error e => rfl
  | ok p =>
    obtain ⟨r, y⟩ := p
    change Except.ok (Core.concat [r, .look (Meaning.look x.flags .lineEnd)], _) = _
    rw [Meaning.look, h]
    rfl

namespace Program

lemma ofText_ok {caseInsensitive : Bool} {text : List Char} {p : Program} (h : ofText caseInsensitive text = .ok p) :
    ∃ tree, read text = .ok tree ∧ tree.meaning caseInsensitive = .ok p.core ∧ p.names = tree.captures := by
  unfold ofText at h
  split at h
  · cases h
  · rename_i tree hread
    split at h
    · cases h
    · rename_i core hcore
      split at h
      · cases h
        exact ⟨tree, hread, hcore, rfl⟩
      · cases h

/-- Enclosed up to the end of the text, an expression is followed by an assertion. -/
theorem ofText_enclose {caseInsensitive : Bool} {text : List Char} {p q : Program}
    (hp : ofText caseInsensitive text = .ok p) (hq : ofText caseInsensitive (enclose text) = .ok q) :
    q.core = .concat [p.core, .look .textEnd] ∧ q.names = p.names := by
  obtain ⟨tree, hread, hmean, hnames⟩ := ofText_ok hp
  obtain ⟨whole, hread', hmean', hnames'⟩ := ofText_ok hq
  have hbare := read_enclose hread hread'
  have hsame : whole.bare =
      (Syntax.concat ⟨0, 0⟩ [.group ⟨0, 0⟩ (.plain []) tree, .assertion ⟨0, 0⟩ .lineEnd]).bare := hbare
  have hmean'' := Syntax.meaning_of_bare_eq hsame hmean'
  constructor
  · rw [Syntax.meaning, Meaning.expression_enclose _ rfl] at hmean''
    rw [Syntax.meaning] at hmean
    cases he : Meaning.expression ⟨.standard caseInsensitive, 0⟩ tree with
    | error e =>
      rw [he] at hmean
      cases hmean
    | ok x =>
      rw [he] at hmean hmean''
      have hcore : x.1 = p.core := Except.ok.inj hmean
      rw [← hcore]
      exact (Except.ok.inj hmean'').symm
  · rw [hnames', hnames, ← Syntax.captures_bare, hsame, Syntax.captures_bare]
    exact List.append_nil _

/-- Up to the end of the text an expression leads where it leads anyway, if that is the end. -/
theorem leads_enclose {caseInsensitive : Bool} {text : List Char} {p q : Program}
    (hp : ofText caseInsensitive text = .ok p) (hq : ofText caseInsensitive (enclose text) = .ok q) (s t : Spot) :
    q.core.Leads s t ↔ p.core.Leads s t ∧ t.rest = [] := by
  rw [(ofText_enclose hp hq).1, Core.leads_concat]
  constructor
  · rintro ⟨u, h, v, ⟨rfl, hend⟩, rfl⟩
    refine ⟨h, ?_⟩
    simpa [Look.holds] using hend
  · rintro ⟨h, hend⟩
    exact ⟨t, h, t, ⟨rfl, by simp [Look.holds, hend]⟩, rfl⟩

end Program

end TypedPattern.Regex
