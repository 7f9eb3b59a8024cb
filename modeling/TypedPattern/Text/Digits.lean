/-! Decimal and hexadecimal digits. -/

namespace TypedPattern.Text

def isDigit (c : Char) : Bool :=
  decide ('0' ≤ c) && decide (c ≤ '9')

def digitValue (c : Char) : Nat :=
  c.toNat - '0'.toNat

/-- The number that a list of decimal digits denotes. -/
def decimalValue (cs : List Char) : Nat :=
  cs.foldl (fun n c => 10 * n + digitValue c) 0

def isHexDigit (c : Char) : Bool :=
  isDigit c || (decide ('a' ≤ c) && decide (c ≤ 'f')) || (decide ('A' ≤ c) && decide (c ≤ 'F'))

def hexDigitValue (c : Char) : Nat :=
  if isDigit c then digitValue c
  else if 'a' ≤ c then c.toNat - 'a'.toNat + 10
  else c.toNat - 'A'.toNat + 10

def hexValue (cs : List Char) : Nat :=
  cs.foldl (fun n c => 16 * n + hexDigitValue c) 0

def decimal (n : Nat) : List Char :=
  Nat.toDigits 10 n

def lowerHex (n : Nat) : List Char :=
  Nat.toDigits 16 n

def asciiUpper (c : Char) : Char :=
  c.toUpper

def asciiLower (c : Char) : Char :=
  c.toLower

def upperHex (n : Nat) : List Char :=
  (lowerHex n).map asciiUpper

def padLeft (width : Nat) (cs : List Char) : List Char :=
  List.replicate (width - cs.length) '0' ++ cs

end TypedPattern.Text
