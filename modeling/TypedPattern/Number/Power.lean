/-! Powers of natural numbers. -/

namespace TypedPattern

/-- `base` times itself, `n` times over. -/
def power (base n : Nat) : Nat :=
  Nat.pow base n

def twoTo (n : Nat) : Nat :=
  power 2 n

def tenTo (n : Nat) : Nat :=
  power 10 n

end TypedPattern
