import TypedPattern.GroupType

/-! Registries: the types that patterns may name. -/

namespace TypedPattern

/-- Types in increasing order of their names. -/
structure Registry where
  types : List GroupType

namespace Registry

def empty : Registry :=
  ⟨[]⟩

def insertSorted (t : GroupType) : List GroupType → List GroupType
  | [] => [t]
  | u :: rest =>
    if t.name < u.name then t :: u :: rest
    else if t.name = u.name then t :: rest
    else u :: insertSorted t rest

/-- Adds a type, in place of one of that name. -/
def insert (r : Registry) (t : GroupType) : Registry :=
  ⟨insertSorted t r.types⟩

def find? (r : Registry) (name : String) : Option GroupType :=
  r.types.find? (·.name == name)

def contains (r : Registry) (name : String) : Bool :=
  (r.find? name).isSome

def names (r : Registry) : List String :=
  r.types.map (·.name)

def size (r : Registry) : Nat :=
  r.types.length

def isEmpty (r : Registry) : Bool :=
  r.types.isEmpty

def resolve (r : Registry) (name : String) : Except Error GroupType :=
  match r.find? name with
  | some t => .ok t
  | none => .error (.unknownType name r.names)

def register (r : Registry) (name fragment : String) (converter : Converter) (origin : Nat) : Except Error Registry :=
  match GroupType.make name fragment converter origin with
  | .ok t => .ok (r.insert t)
  | .error fault => .error (.invalidType name fault)

end Registry

end TypedPattern
