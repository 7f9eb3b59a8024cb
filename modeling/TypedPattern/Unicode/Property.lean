import TypedPattern.Unicode.Classes
import TypedPattern.Unicode.Data.Script
import TypedPattern.Unicode.Data.Age
import TypedPattern.Unicode.Data.Break

/-! Character classes by the names of Unicode properties and of their values. -/

namespace TypedPattern.Unicode

inductive PropertyError where
  | propertyNotFound
  | valueNotFound
  deriving DecidableEq, Repr

/-- Names are compared without case, blanks, hyphens and underscores, and without `is` in front. -/
def looseName (name : List Char) : List Char :=
  let keep (cs : List Char) : List Char :=
    (cs.filter fun c => decide (c.toNat < 0x80) && c != ' ' && c != '_' && c != '-').map Char.toLower
  match name with
  | a :: b :: rest =>
    if a.toLower = 'i' ∧ b.toLower = 's' then
      let kept := keep rest
      if kept = ['c'] then ['i', 's', 'c'] else kept
    else keep name
  | _ => keep name

def namedBy (spellings : List String) (name : List Char) : Bool :=
  spellings.any fun s => looseName s.toList == name

/-- What a property tells of a character. -/
inductive Property where
  | binary (chars : Unit → CharSet)
  | category
  | script
  | scriptExtensions
  | age
  | graphemeBreak
  | wordBreak
  | sentenceBreak
  | untold

namespace Property

def table (rows : List Nat) : Property :=
  binary fun _ => charsOf rows

def cased : CharSet :=
  (lowercase.union uppercase).union (inCategories [.titlecaseLetter])

def identifierStart : CharSet :=
  ((inCategories (.letterNumber :: Category.letters)).union (charsOf Data.otherIdStartRows)).diff
    (charsOf Data.patternSyntaxRows)

def identifierContinue : CharSet :=
  (identifierStart.union (inCategories [.nonspacingMark, .spacingMark, .decimalNumber, .connectorPunctuation])).union
    (charsOf Data.otherIdContinueRows)

def caseIgnorable : CharSet :=
  (inCategories [.nonspacingMark, .enclosingMark, .format, .modifierLetter, .modifierSymbol]).union
    (charsOf Data.caseIgnorablePunctuationRows)

def graphemeBase : CharSet :=
  ((inCategories (.lineSeparator :: .paragraphSeparator :: Category.others)).union graphemeExtend).complement

/-- Format characters and variation selectors are ignorable, but for white space, annotation marks, hieroglyph
format controls and marks that are prepended. -/
def defaultIgnorable : CharSet :=
  (((inCategories [.format]).union (charsOf Data.variationSelectorRows)).union
    (charsOf Data.otherDefaultIgnorableRows)).diff
    (((charsOf Data.whiteSpaceRows).union (charsOf Data.prependedConcatenationMarkRows)).union
      ⟨[⟨0xFFF9, 0xFFFB⟩, ⟨0x13430, 0x13440⟩]⟩)

def changesWhenCasemapped : CharSet :=
  ((charsOf Data.changesWhenLowercasedRows).union (charsOf Data.changesWhenUppercasedRows)).union
    (charsOf Data.changesWhenTitlecasedRows)

/-- The properties that tell something, with their names. -/
def told : List (List String × Property) :=
  [(["gc", "General_Category"], category),
   (["sc", "Script"], script),
   (["scx", "Script_Extensions"], scriptExtensions),
   (["age", "Age"], age),
   (["GCB", "Grapheme_Cluster_Break"], graphemeBreak),
   (["WB", "Word_Break"], wordBreak),
   (["SB", "Sentence_Break"], sentenceBreak),
   (["AHex", "ASCII_Hex_Digit"], table Data.asciiHexDigitRows),
   (["Alpha", "Alphabetic"], binary fun _ => alphabetic),
   (["Bidi_C", "Bidi_Control"], table Data.bidiControlRows),
   (["Bidi_M", "Bidi_Mirrored"], table Data.bidiMirroredRows),
   (["Cased", "Cased"], binary fun _ => cased),
   (["CI", "Case_Ignorable"], binary fun _ => caseIgnorable),
   (["CWCF", "Changes_When_Casefolded"], table Data.changesWhenCasefoldedRows),
   (["CWCM", "Changes_When_Casemapped"], binary fun _ => changesWhenCasemapped),
   (["CWL", "Changes_When_Lowercased"], table Data.changesWhenLowercasedRows),
   (["CWT", "Changes_When_Titlecased"], table Data.changesWhenTitlecasedRows),
   (["CWU", "Changes_When_Uppercased"], table Data.changesWhenUppercasedRows),
   (["Dash", "Dash"], table Data.dashRows),
   (["DI", "Default_Ignorable_Code_Point"], binary fun _ => defaultIgnorable),
   (["Dep", "Deprecated"], table Data.deprecatedRows),
   (["Dia", "Diacritic"], table Data.diacriticRows),
   (["Emoji", "Emoji"], table Data.emojiRows),
   (["EComp", "Emoji_Component"], table Data.emojiComponentRows),
   (["EMod", "Emoji_Modifier"], table Data.emojiModifierRows),
   (["EBase", "Emoji_Modifier_Base"], table Data.emojiModifierBaseRows),
   (["EPres", "Emoji_Presentation"], table Data.emojiPresentationRows),
   (["ExtPict", "Extended_Pictographic"], table Data.extendedPictographicRows),
   (["Ext", "Extender"], table Data.extenderRows),
   (["Gr_Base", "Grapheme_Base"], binary fun _ => graphemeBase),
   (["Gr_Ext", "Grapheme_Extend"], binary fun _ => graphemeExtend),
   (["Gr_Link", "Grapheme_Link"], table Data.graphemeLinkRows),
   (["Hex", "Hex_Digit"], table Data.hexDigitRows),
   (["Hyphen", "Hyphen"], table Data.hyphenRows),
   (["IDSB", "IDS_Binary_Operator"], table Data.idsBinaryOperatorRows),
   (["IDST", "IDS_Trinary_Operator"], table Data.idsTrinaryOperatorRows),
   (["IDSU", "IDS_Unary_Operator"], table Data.idsUnaryOperatorRows),
   (["ID_Compat_Math_Continue"], table Data.idCompatMathContinueRows),
   (["ID_Compat_Math_Start"], table Data.idCompatMathStartRows),
   (["IDC", "ID_Continue"], binary fun _ => identifierContinue),
   (["IDS", "ID_Start"], binary fun _ => identifierStart),
   (["Ideo", "Ideographic"], table Data.ideographicRows),
   (["Join_C", "Join_Control"], table Data.joinControlRows),
   (["LOE", "Logical_Order_Exception"], table Data.logicalOrderExceptionRows),
   (["Lower", "Lowercase"], binary fun _ => lowercase),
   (["Math", "Math"], binary fun _ => (inCategories [.mathSymbol]).union (charsOf Data.otherMathRows)),
   (["MCM", "Modifier_Combining_Mark"], table Data.modifierCombiningMarkRows),
   (["NChar", "Noncharacter_Code_Point"], table Data.noncharacterRows),
   (["OAlpha", "Other_Alphabetic"], table Data.otherAlphabeticRows),
   (["ODI", "Other_Default_Ignorable_Code_Point"], table Data.otherDefaultIgnorableRows),
   (["OGr_Ext", "Other_Grapheme_Extend"], table Data.otherGraphemeExtendRows),
   (["OIDC", "Other_ID_Continue"], table Data.otherIdContinueRows),
   (["OIDS", "Other_ID_Start"], table Data.otherIdStartRows),
   (["OLower", "Other_Lowercase"], table Data.otherLowercaseRows),
   (["OMath", "Other_Math"], table Data.otherMathRows),
   (["OUpper", "Other_Uppercase"], table Data.otherUppercaseRows),
   (["Pat_Syn", "Pattern_Syntax"], table Data.patternSyntaxRows),
   (["Pat_WS", "Pattern_White_Space"], table Data.patternWhiteSpaceRows),
   (["PCM", "Prepended_Concatenation_Mark"], table Data.prependedConcatenationMarkRows),
   (["QMark", "Quotation_Mark"], table Data.quotationMarkRows),
   (["Radical", "Radical"], table Data.radicalRows),
   (["RI", "Regional_Indicator"], table Data.regionalIndicatorRows),
   (["STerm", "Sentence_Terminal"], table Data.sentenceTerminalRows),
   (["SD", "Soft_Dotted"], table Data.softDottedRows),
   (["Term", "Terminal_Punctuation"], table Data.terminalPunctuationRows),
   (["UIdeo", "Unified_Ideograph"], table Data.unifiedIdeographRows),
   (["Upper", "Uppercase"], binary fun _ => uppercase),
   (["VS", "Variation_Selector"], table Data.variationSelectorRows),
   (["WSpace", "White_Space", "space"], binary fun _ => whiteSpace),
   (["XIDC", "XID_Continue"],
     binary fun _ => identifierContinue.diff (charsOf Data.nfkcUnstableContinueRows)),
   (["XIDS", "XID_Start"], binary fun _ => identifierStart.diff (charsOf Data.nfkcUnstableStartRows))]

def untoldNames : List String :=
  ["cjkAccountingNumeric", "kAccountingNumeric", "cjkOtherNumeric", "kOtherNumeric", "cjkPrimaryNumeric",
   "kPrimaryNumeric", "nv", "Numeric_Value", "bmg", "Bidi_Mirroring_Glyph", "bpb", "Bidi_Paired_Bracket", "cf",
   "Case_Folding", "cjkCompatibilityVariant", "kCompatibilityVariant", "dm", "Decomposition_Mapping", "EqUIdeo",
   "Equivalent_Unified_Ideograph", "FC_NFKC", "FC_NFKC_Closure", "lc", "Lowercase_Mapping", "NFKC_CF",
   "NFKC_Casefold", "NFKC_SCF", "NFKC_Simple_Casefold", "scf", "Simple_Case_Folding", "sfc", "slc",
   "Simple_Lowercase_Mapping", "stc", "Simple_Titlecase_Mapping", "suc", "Simple_Uppercase_Mapping", "tc",
   "Titlecase_Mapping", "uc", "Uppercase_Mapping", "cjkIICore", "kIICore", "cjkIRG_GSource", "kIRG_GSource",
   "cjkIRG_HSource", "kIRG_HSource", "cjkIRG_JSource", "kIRG_JSource", "cjkIRG_KPSource", "kIRG_KPSource",
   "cjkIRG_KSource", "kIRG_KSource", "cjkIRG_MSource", "kIRG_MSource", "cjkIRG_SSource", "kIRG_SSource",
   "cjkIRG_TSource", "kIRG_TSource", "cjkIRG_UKSource", "kIRG_UKSource", "cjkIRG_USource", "kIRG_USource",
   "cjkIRG_VSource", "kIRG_VSource", "cjkRSUnicode", "kRSUnicode", "Unicode_Radical_Stroke", "URS", "isc",
   "ISO_Comment", "JSN", "Jamo_Short_Name", "kEH_Cat", "kEH_Desc", "kEH_HG", "kEH_IFAO", "kEH_JSesh", "na", "Name",
   "na1", "Unicode_1_Name", "Name_Alias", "bc", "Bidi_Class", "blk", "Block", "bpt", "Bidi_Paired_Bracket_Type",
   "ccc", "Canonical_Combining_Class", "dt", "Decomposition_Type", "ea", "East_Asian_Width", "hst",
   "Hangul_Syllable_Type", "InCB", "Indic_Conjunct_Break", "InPC", "Indic_Positional_Category", "InSC",
   "Indic_Syllabic_Category", "jg", "Joining_Group", "jt", "Joining_Type", "lb", "Line_Break", "NFC_QC",
   "NFC_Quick_Check", "NFD_QC", "NFD_Quick_Check", "NFKC_QC", "NFKC_Quick_Check", "NFKD_QC", "NFKD_Quick_Check",
   "nt", "Numeric_Type", "vo", "Vertical_Orientation", "CE", "Composition_Exclusion", "Comp_Ex",
   "Full_Composition_Exclusion", "CWKCF", "Changes_When_NFKC_Casefolded", "kEH_NoMirror",
   "kEH_NoRotate", "XO_NFC", "Expands_On_NFC", "XO_NFD", "Expands_On_NFD", "XO_NFKC",
   "Expands_On_NFKC", "XO_NFKD", "Expands_On_NFKD"]

def find? (name : List Char) : Option Property :=
  match told.find? fun entry => namedBy entry.1 name with
  | some entry => some entry.2
  | none => if namedBy untoldNames name then some untold else none

end Property

/-- The names of the general categories and of their unions, with the categories meant. -/
def categoryNames : List (List String × List Category) :=
  [(["C", "Other"], Category.others.erase .surrogate),
   (["Cc", "Control", "cntrl"], [.control]),
   (["Cf", "Format"], [.format]),
   (["Cn", "Unassigned"], [.unassigned]),
   (["Co", "Private_Use"], [.privateUse]),
   (["L", "Letter"], Category.letters),
   (["LC", "Cased_Letter"], Category.casedLetters),
   (["Ll", "Lowercase_Letter"], [.lowercaseLetter]),
   (["Lm", "Modifier_Letter"], [.modifierLetter]),
   (["Lo", "Other_Letter"], [.otherLetter]),
   (["Lt", "Titlecase_Letter"], [.titlecaseLetter]),
   (["Lu", "Uppercase_Letter"], [.uppercaseLetter]),
   (["M", "Mark", "Combining_Mark"], Category.marks),
   (["Mc", "Spacing_Mark"], [.spacingMark]),
   (["Me", "Enclosing_Mark"], [.enclosingMark]),
   (["Mn", "Nonspacing_Mark"], [.nonspacingMark]),
   (["N", "Number"], Category.numbers),
   (["Nd", "Decimal_Number", "digit"], [.decimalNumber]),
   (["Nl", "Letter_Number"], [.letterNumber]),
   (["No", "Other_Number"], [.otherNumber]),
   (["P", "Punctuation", "punct"], Category.punctuation),
   (["Pc", "Connector_Punctuation"], [.connectorPunctuation]),
   (["Pd", "Dash_Punctuation"], [.dashPunctuation]),
   (["Pe", "Close_Punctuation"], [.closePunctuation]),
   (["Pf", "Final_Punctuation"], [.finalPunctuation]),
   (["Pi", "Initial_Punctuation"], [.initialPunctuation]),
   (["Po", "Other_Punctuation"], [.otherPunctuation]),
   (["Ps", "Open_Punctuation"], [.openPunctuation]),
   (["S", "Symbol"], Category.symbols),
   (["Sc", "Currency_Symbol"], [.currencySymbol]),
   (["Sk", "Modifier_Symbol"], [.modifierSymbol]),
   (["Sm", "Math_Symbol"], [.mathSymbol]),
   (["So", "Other_Symbol"], [.otherSymbol]),
   (["Z", "Separator"], Category.separators),
   (["Zl", "Line_Separator"], [.lineSeparator]),
   (["Zp", "Paragraph_Separator"], [.paragraphSeparator]),
   (["Zs", "Space_Separator"], [.spaceSeparator]),
   (["Assigned"], Category.all.filter fun c => c != .unassigned && c != .surrogate)]

/-- The surrogates have a name as a category but are no characters. -/
def surrogateNames : List String :=
  ["Cs", "Surrogate"]

/-- The class of a name for a category; `none` where there is no such name. -/
def categoryClass? (name : List Char) : Option (Except PropertyError CharSet) :=
  if name == "any".toList then some (.ok (.range 0 0x10FFFF))
  else if name == "ascii".toList then some (.ok (.range 0 0x7F))
  else if namedBy surrogateNames name then some (.error .valueNotFound)
  else (categoryNames.find? fun entry => namedBy entry.1 name).map fun entry => .ok (inCategories entry.2)

/-- The number of a named script in the table of scripts. -/
def scriptNumber? (name : List Char) : Option Nat :=
  (Data.scriptNames.findIdx? fun spellings => namedBy spellings name).map (· + 2)

/-- Scripts with a name and no characters of their own. -/
def emptyScriptNames : List String :=
  ["Zzzz", "Unknown", "Hrkt", "Katakana_Or_Hiragana"]

def scriptClass? (name : List Char) : Option (Except PropertyError CharSet) :=
  if namedBy emptyScriptNames name then some (.error .valueNotFound)
  else (scriptNumber? name).map fun n => .ok (charsWhere Data.scriptRows (· == n))

/-- The characters that are used with a script, be it their own or not. -/
def scriptExtensionClass? (name : List Char) : Option CharSet :=
  (scriptNumber? name).map fun n =>
    ((charsWhere Data.scriptRows (· == n)).union (charsOfScript Data.extensionRows n)).diff
      (charsOfScript Data.exclusionRows n)

/-- The characters that were assigned in a version or before. -/
def ageClass? (name : List Char) : Option CharSet :=
  let spellings (v : Nat × Nat) : List String :=
    [toString v.1 ++ "." ++ toString v.2, "V" ++ toString v.1 ++ "_" ++ toString v.2]
  (Data.versions.findIdx? fun v => namedBy (spellings v) name).map fun i =>
    charsWhere Data.ageRows fun n => decide (2 ≤ n) && decide (n ≤ i + 2)

def breakClass? (names : List (List String)) (rows : List Nat) (name : List Char) : Option CharSet :=
  (names.findIdx? fun spellings => namedBy spellings name).map fun i => charsWhere rows (· == i + 1)

/-- Loose names that mean a category or script although a property has them too. -/
def ambiguousNames : List (List Char) :=
  [['c', 'f'], ['s', 'c'], ['l', 'c']]

/-- The class of one name: of a binary property, a category or a script, in this order. -/
def classNamed (name : List Char) : Except PropertyError CharSet :=
  let loose := looseName name
  match if ambiguousNames.contains loose then none else Property.find? loose with
  | some (.binary chars) => .ok (chars ())
  | some _ => .error .propertyNotFound
  | none =>
    match categoryClass? loose with
    | some answer => answer
    | none =>
      match scriptClass? loose with
      | some answer => answer
      | none => .error .propertyNotFound

/-- The class of the characters for which a property has a value. -/
def classOfValue (property value : List Char) : Except PropertyError CharSet :=
  let loose := looseName value
  let found (answer : Option CharSet) : Except PropertyError CharSet :=
    match answer with
    | some s => .ok s
    | none => .error .valueNotFound
  match Property.find? (looseName property) with
  | none => .error .propertyNotFound
  | some .category => (categoryClass? loose).getD (.error .valueNotFound)
  | some .script => (scriptClass? loose).getD (.error .valueNotFound)
  | some .scriptExtensions => found (scriptExtensionClass? loose)
  | some .age => found (ageClass? loose)
  | some .graphemeBreak => found (breakClass? Data.graphemeBreakNames Data.graphemeBreakRows loose)
  | some .wordBreak => found (breakClass? Data.wordBreakNames Data.wordBreakRows loose)
  | some .sentenceBreak => found (breakClass? Data.sentenceBreakNames Data.sentenceBreakRows loose)
  | some (.binary _) => .error .valueNotFound
  | some .untold => .error .valueNotFound

end TypedPattern.Unicode
