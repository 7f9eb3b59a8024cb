import TypedPattern.Unicode.Category
import TypedPattern.Unicode.Data.Binary

/-! The character classes that patterns, fragments and quoted text depend on. -/

namespace TypedPattern.Unicode

def lowercase : CharSet :=
  (inCategories [.lowercaseLetter]).union (charsOf Data.otherLowercaseRows)

def uppercase : CharSet :=
  (inCategories [.uppercaseLetter]).union (charsOf Data.otherUppercaseRows)

def alphabetic : CharSet :=
  ((inCategories (.letterNumber :: Category.letters)).union (charsOf Data.otherLowercaseRows)).union
    ((charsOf Data.otherUppercaseRows).union (charsOf Data.otherAlphabeticRows))

def numeric : CharSet :=
  inCategories Category.numbers

def decimalDigit : CharSet :=
  inCategories [.decimalNumber]

def whiteSpace : CharSet :=
  charsOf Data.whiteSpaceRows

def joinControl : CharSet :=
  charsOf Data.joinControlRows

/-- The characters of words: letters, marks, digits, connectors and joiners. -/
def word : CharSet :=
  (alphabetic.union (inCategories (.decimalNumber :: .connectorPunctuation :: Category.marks))).union joinControl

def graphemeExtend : CharSet :=
  (inCategories [.nonspacingMark, .enclosingMark]).union (charsOf Data.otherGraphemeExtendRows)

/-- The characters that show as themselves in quoted text. -/
def printable : CharSet :=
  ((inCategories (Category.separators ++ Category.others)).union graphemeExtend).complement.union (.singleton ' ')

def asciiWord : CharSet :=
  ⟨[⟨0x30, 0x39⟩, ⟨0x41, 0x5A⟩, ⟨0x5F, 0x5F⟩, ⟨0x61, 0x7A⟩]⟩

def asciiDigit : CharSet :=
  .range 0x30 0x39

def asciiSpace : CharSet :=
  ⟨[⟨0x09, 0x0D⟩, ⟨0x20, 0x20⟩]⟩

end TypedPattern.Unicode

namespace TypedPattern

def isAlphabetic (c : Char) : Bool :=
  Unicode.alphabetic.contains c

def isAlphanumeric (c : Char) : Bool :=
  isAlphabetic c || Unicode.numeric.contains c

def isWhite (c : Char) : Bool :=
  Unicode.whiteSpace.contains c

def isPrintable (c : Char) : Bool :=
  Unicode.printable.contains c

end TypedPattern
