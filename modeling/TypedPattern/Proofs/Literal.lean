import TypedPattern.Proofs.Matching.Advance
import TypedPattern.Proofs.Pattern.Expression

/-! Escaped texts match themselves. -/

namespace TypedPattern

open Pattern (Config Segment Compiled)
open Regex (Core Match Point)

namespace Pattern

/-- A text that stands for itself in a pattern. -/
def escape (text : String) : String :=
  String.ofList (text.toList.flatMap renderChar)

def literalSegments (γ : Type) (text : List Char) : List (Segment γ) :=
  if text = [] then [] else [.literal text]

lemma groups_literalSegments (text : List Char) : Segment.groups (literalSegments Capture text) = [] := by
  unfold literalSegments
  split <;> rfl

lemma cores_literalSegments (caseInsensitive flexible : Bool) (text : List Char) :
    (literalSegments Capture text).flatMap (Segment.cores caseInsensitive flexible) =
      text.map (literalCore caseInsensitive flexible) := by
  unfold literalSegments
  split
  · rename_i h
    rw [h]
    rfl
  · exact List.flatMap_singleton _ _

lemma read_escape (text : String) : read (escape text) = .ok (.one (literalSegments WrittenGroup text.toList)) := by
  unfold literalSegments escape
  by_cases h : text.toList = []
  · rw [if_pos h, h]
    rfl
  · have hw : Written.WellFormed (.one [.literal text.toList]) := by
      intro b hb
      obtain rfl := List.mem_singleton.mp hb
      exact ⟨fun s hs => List.mem_singleton.mp hs ▸ h, List.isChain_singleton _⟩
    have hr := read_render hw
    rw [Written.render, renderBranch, List.flatMap_singleton, Segment.render] at hr
    rw [if_neg h, hr]
    rfl

lemma compile_escape (types : Registry) (flexible : Bool) (text : String) :
    compile types flexible (escape text) = .ok ⟨.one (literalSegments Capture text.toList), flexible⟩ := by
  unfold compile
  rw [read_escape]
  unfold literalSegments
  split <;> rfl

end Pattern

namespace Regex.Core

variable {text : List Char}

end Regex.Core

namespace Matcher

variable {types : Registry} {text : String} {m : Matcher}

end Matcher

end TypedPattern
