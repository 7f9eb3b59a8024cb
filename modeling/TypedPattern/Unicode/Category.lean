import TypedPattern.Unicode.Packed
import TypedPattern.Unicode.Data.Category

/-! General categories of characters. -/

namespace TypedPattern.Unicode

inductive Category where
  | uppercaseLetter | lowercaseLetter | titlecaseLetter | modifierLetter | otherLetter
  | nonspacingMark | spacingMark | enclosingMark
  | decimalNumber | letterNumber | otherNumber
  | connectorPunctuation | dashPunctuation | openPunctuation | closePunctuation
  | initialPunctuation | finalPunctuation | otherPunctuation
  | mathSymbol | currencySymbol | modifierSymbol | otherSymbol
  | spaceSeparator | lineSeparator | paragraphSeparator
  | control | format | surrogate | privateUse | unassigned
  deriving DecidableEq, Repr

namespace Category

/-- Every category, in the order in which the table numbers them. -/
def all : List Category :=
  [uppercaseLetter, lowercaseLetter, titlecaseLetter, modifierLetter, otherLetter,
   nonspacingMark, spacingMark, enclosingMark,
   decimalNumber, letterNumber, otherNumber,
   connectorPunctuation, dashPunctuation, openPunctuation, closePunctuation,
   initialPunctuation, finalPunctuation, otherPunctuation,
   mathSymbol, currencySymbol, modifierSymbol, otherSymbol,
   spaceSeparator, lineSeparator, paragraphSeparator,
   control, format, surrogate, privateUse, unassigned]

/-- The number of a category in the table, its place in `all` counted from one. -/
def number : Category → Nat
  | uppercaseLetter => 1 | lowercaseLetter => 2 | titlecaseLetter => 3 | modifierLetter => 4 | otherLetter => 5
  | nonspacingMark => 6 | spacingMark => 7 | enclosingMark => 8
  | decimalNumber => 9 | letterNumber => 10 | otherNumber => 11
  | connectorPunctuation => 12 | dashPunctuation => 13 | openPunctuation => 14 | closePunctuation => 15
  | initialPunctuation => 16 | finalPunctuation => 17 | otherPunctuation => 18
  | mathSymbol => 19 | currencySymbol => 20 | modifierSymbol => 21 | otherSymbol => 22
  | spaceSeparator => 23 | lineSeparator => 24 | paragraphSeparator => 25
  | control => 26 | format => 27 | surrogate => 28 | privateUse => 29 | unassigned => 30

def casedLetters : List Category :=
  [uppercaseLetter, lowercaseLetter, titlecaseLetter]

def letters : List Category :=
  casedLetters ++ [modifierLetter, otherLetter]

def marks : List Category :=
  [nonspacingMark, spacingMark, enclosingMark]

def numbers : List Category :=
  [decimalNumber, letterNumber, otherNumber]

def punctuation : List Category :=
  [connectorPunctuation, dashPunctuation, openPunctuation, closePunctuation,
   initialPunctuation, finalPunctuation, otherPunctuation]

def symbols : List Category :=
  [mathSymbol, currencySymbol, modifierSymbol, otherSymbol]

def separators : List Category :=
  [spaceSeparator, lineSeparator, paragraphSeparator]

def others : List Category :=
  [control, format, surrogate, privateUse, unassigned]

end Category

/-- The characters whose category is in a list. -/
def inCategories (cs : List Category) : CharSet :=
  charsWhere Data.categoryRows (cs.foldl (fun mask c => mask ||| 1 <<< c.number) 0).testBit

end TypedPattern.Unicode
