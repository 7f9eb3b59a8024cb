import TypedPattern.Unicode.Packed
import TypedPattern.Unicode.Data.Folding

/-! Sets closed under simple case folding: with a character they hold all characters that fold to the same one. -/

namespace TypedPattern.Unicode

/-- Characters `first`, `first + step`, up to `last`, each of which folds by adding `shift`. -/
structure FoldingRun where
  first : Nat
  last : Nat
  step : Nat
  shift : Int

namespace FoldingRun

def all : List FoldingRun :=
  Data.foldingRuns.map fun (first, last, step, shift) => ⟨first, last, step, shift⟩

def move (shift : Int) (r : CharRange) : CharRange :=
  ⟨(r.lo + shift).toNat, (r.hi + shift).toNat⟩

/-- The run from the folded characters back to the others. -/
def inverse (f : FoldingRun) : FoldingRun :=
  ⟨(f.first + f.shift).toNat, (f.last + f.shift).toNat, f.step, -f.shift⟩

/-- What the members of a range in the run are moved to. -/
def image (f : FoldingRun) (r : CharRange) : List CharRange :=
  match r.inter ⟨f.first, f.last⟩ with
  | none => []
  | some ⟨lo, hi⟩ =>
    let start := lo + (f.step - (lo - f.first) % f.step) % f.step
    if start ≤ hi then (stride start hi f.step).map (move f.shift) else []

end FoldingRun

def imageOf (runs : List FoldingRun) (s : CharSet) : CharSet :=
  .ofRanges (runs.flatMap fun f => s.ranges.flatMap f.image)

def closeUnderFolding (s : CharSet) : CharSet :=
  let folded := s.union (imageOf FoldingRun.all s)
  folded.union (imageOf (FoldingRun.all.map FoldingRun.inverse) folded)

/-- The closure of a set under the folding of ASCII letters alone. -/
def closeUnderAsciiFolding (s : CharSet) : CharSet :=
  let lower : FoldingRun := ⟨0x41, 0x5A, 1, 32⟩
  s.union ((imageOf [lower] s).union (imageOf [lower.inverse] s))

end TypedPattern.Unicode
