import TypedPattern.Regex.Reader
import TypedPattern.Regex.Printer
import TypedPattern.Regex.Meaning
import TypedPattern.Error

/-! Types: a fragment that says what a group captures, and a converter for what it captured. -/

namespace TypedPattern

namespace GroupType

def reserved (c : Char) : Bool :=
  isWhite c || c == '[' || c == ']' || c == ':'

def nameFault? (name : String) : Option TypeFault :=
  let cs := name.toList
  if cs.isEmpty then some .emptyName
  else if cs.all Text.isDigit then some .nameIsWidth
  else if cs.any reserved then some .nameHasReserved
  else none

/-- The tree of a fragment that has a meaning. -/
def readFragment (text : List Char) : Except Regex.Error Regex.Syntax := do
  let tree ← Regex.read text
  let _ ← tree.meaning false
  .ok tree

end GroupType

/-- A type. Its tree is what was read of some text, without the capturing groups. Types with the same origin have the
same converter. -/
structure GroupType where
  name : String
  tree : Regex.Syntax
  converter : Converter
  origin : Nat
  name_ok : GroupType.nameFault? name = none
  tree_ok : ∃ text whole, GroupType.readFragment text = .ok whole ∧ tree = whole.withoutCaptures

namespace GroupType

/-- The text that stands in regular expressions. -/
def fragment (t : GroupType) : String :=
  String.ofList t.tree.chars

/-- A new type, if its name can stand in a group and its fragment is a regular expression. -/
def make (name fragment : String) (converter : Converter) (origin : Nat) : Except TypeFault GroupType :=
  match hn : nameFault? name with
  | some fault => .error fault
  | none =>
    if fragment.isEmpty then .error .emptyFragment
    else
      match ht : readFragment fragment.toList with
      | .error cause => .error (.fragment cause fragment)
      | .ok whole => .ok ⟨name, whole.withoutCaptures, converter, origin, hn, ⟨_, _, ht, rfl⟩⟩

/-- The same name and fragment, and the very same converter. -/
def same (a b : GroupType) : Bool :=
  a.name == b.name && a.fragment == b.fragment && a.origin == b.origin

def summary (t : GroupType) : String :=
  "TypeSpec \x7b name: " ++ Text.quoted t.name ++ ", fragment: " ++ Text.quoted t.fragment ++ ", .. \x7d"

end GroupType

end TypedPattern
