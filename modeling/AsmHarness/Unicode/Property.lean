import AsmHarness.Unicode.Property.Letters
import AsmHarness.Unicode.Property.CaseChange
import AsmHarness.Unicode.Property.Identifiers
import AsmHarness.Unicode.Property.Marks
import AsmHarness.Unicode.Property.Emoji

/-!
# Binary properties by name

The properties of code points that a pattern can ask for, with the names they go by.
-/

namespace AsmHarness.Unicode.Property

/-- Every property with its full name and its short names. -/
def named : List (String × List String × CodePoints) :=
  [("Alphabetic", ["Alpha"], alphabetic),
   ("Lowercase", ["Lower"], lowercase),
   ("Uppercase", ["Upper"], uppercase),
   ("Cased", [], cased),
   ("Case_Ignorable", ["CI"], caseIgnorable),
   ("Soft_Dotted", ["SD"], softDotted),
   ("Ideographic", ["Ideo"], ideographic),
   ("Unified_Ideograph", ["UIdeo"], unifiedIdeograph),
   ("Radical", [], radical),
   ("IDS_Binary_Operator", ["IDSB"], idsBinaryOperator),
   ("IDS_Trinary_Operator", ["IDST"], idsTrinaryOperator),
   ("Math", [], math),
   ("Hex_Digit", ["Hex"], hexDigit),
   ("ASCII_Hex_Digit", ["AHex"], asciiHexDigit),
   ("Changes_When_Lowercased", ["CWL"], changesWhenLowercased),
   ("Changes_When_Uppercased", ["CWU"], changesWhenUppercased),
   ("Changes_When_Titlecased", ["CWT"], changesWhenTitlecased),
   ("Changes_When_Casefolded", ["CWCF"], changesWhenCasefolded),
   ("Changes_When_Casemapped", ["CWCM"], changesWhenCasemapped),
   ("ID_Start", ["IDS"], idStart),
   ("ID_Continue", ["IDC"], idContinue),
   ("XID_Start", ["XIDS"], xidStart),
   ("XID_Continue", ["XIDC"], xidContinue),
   ("Pattern_Syntax", ["Pat_Syn"], patternSyntax),
   ("Pattern_White_Space", ["Pat_WS"], patternWhiteSpace),
   ("White_Space", ["WSpace", "space"], whiteSpace),
   ("Grapheme_Extend", ["Gr_Ext"], graphemeExtend),
   ("Grapheme_Base", ["Gr_Base"], graphemeBase),
   ("Diacritic", ["Dia"], diacritic),
   ("Extender", ["Ext"], extender),
   ("Dash", [], dash),
   ("Quotation_Mark", ["QMark"], quotationMark),
   ("Terminal_Punctuation", ["Term"], terminalPunctuation),
   ("Sentence_Terminal", ["STerm"], sentenceTerminal),
   ("Bidi_Control", ["Bidi_C"], bidiControl),
   ("Bidi_Mirrored", ["Bidi_M"], bidiMirrored),
   ("Join_Control", ["Join_C"], joinControl),
   ("Variation_Selector", ["VS"], variationSelector),
   ("Default_Ignorable_Code_Point", ["DI"], defaultIgnorableCodePoint),
   ("Noncharacter_Code_Point", ["NChar"], noncharacterCodePoint),
   ("Deprecated", ["Dep"], deprecated),
   ("Logical_Order_Exception", ["LOE"], logicalOrderException),
   ("Emoji", [], emoji),
   ("Emoji_Presentation", ["EPres"], emojiPresentation),
   ("Emoji_Modifier_Base", ["EBase"], emojiModifierBase),
   ("Emoji_Modifier", ["EMod"], emojiModifier),
   ("Emoji_Component", ["EComp"], emojiComponent),
   ("Extended_Pictographic", ["ExtPict"], extendedPictographic),
   ("Regional_Indicator", ["RI"], regionalIndicator)]

end AsmHarness.Unicode.Property
