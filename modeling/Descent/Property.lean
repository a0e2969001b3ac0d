import Descent.Property.Age
import Descent.Property.Segment

/-!
# Properties of characters

A *property* is a named class of characters.  A name stands for a derived property or a trait, for
a general category or a union of some, or for a script, and these are tried in turn.  A name may
also be a value in a family, such as the script `Greek` in the family of scripts.

Names are compared loosely.  Case, spaces, hyphens and underscores do not matter, and neither does
`is` in front of the name.
-/

namespace Descent.Property

/-! ## Loose names -/

/-- The characters of a name that count, in lower case. -/
def looseChars (name : Text) : Text :=
  (name.filter fun c => c.toNat < 128 && c != ' ' && c != '_' && c != '-').map Char.toLower

/-- A name in the form in which names are compared.  The one name that is spelled `isc` is not
taken for a `c` with `is` in front. -/
def looseName (name : Text) : Text :=
  match name with
  | a :: b :: t =>
    if a.toLower = 'i' ∧ b.toLower = 's' then
      if looseChars t = ['c'] then ['i', 's', 'c'] else looseChars t
    else looseChars name
  | _ => looseChars name

/-- Whether one of the names is the wanted one, up to loose comparison. -/
def isNamed (wanted : Text) (names : List String) : Bool :=
  names.any fun name => looseName name.toList == looseName wanted

/-! ## Names of properties -/

/-- The derived properties and the traits that have a name, with their names. -/
def plainNames : List (List String × CharSet) :=
  [(["ASCII_Hex_Digit", "AHex"], Trait.hexDigit.inter .ascii),
   (["Alphabetic", "Alpha"], alphabetic),
   (["Bidi_Control", "Bidi_C"], Trait.bidiControl),
   (["Bidi_Mirrored", "Bidi_M"], Trait.bidiMirrored),
   (["Case_Ignorable", "CI"], caseIgnorable),
   (["Cased"], cased),
   (["Changes_When_Casefolded", "CWCF"], changesWhenCasefolded),
   (["Changes_When_Casemapped", "CWCM"], changesWhenCasemapped),
   (["Changes_When_Lowercased", "CWL"], changesWhenLowercased),
   (["Changes_When_Titlecased", "CWT"], changesWhenTitlecased),
   (["Changes_When_Uppercased", "CWU"], changesWhenUppercased),
   (["Dash"], Trait.dash),
   (["Default_Ignorable_Code_Point", "DI"], defaultIgnorable),
   (["Deprecated", "Dep"], Trait.deprecated),
   (["Diacritic", "Dia"], Trait.diacritic),
   (["Emoji"], Trait.emoji),
   (["Emoji_Component", "EComp"], Trait.emojiComponent),
   (["Emoji_Modifier", "EMod"], Trait.emojiModifier),
   (["Emoji_Modifier_Base", "EBase"], Trait.emojiModifierBase),
   (["Emoji_Presentation", "EPres"], Trait.emojiPresentation),
   (["Extended_Pictographic", "ExtPict"], Trait.pictographic),
   (["Extender", "Ext"], Trait.extender),
   (["Grapheme_Base", "Gr_Base"], graphemeBase),
   (["Grapheme_Extend", "Gr_Ext"], graphemeExtend),
   (["Grapheme_Link", "Gr_Link"], Trait.virama),
   (["Hex_Digit", "Hex"], Trait.hexDigit),
   (["Hyphen"], Trait.hyphen),
   (["IDS_Binary_Operator", "IDSB"], Trait.idsBinaryOperator),
   (["IDS_Trinary_Operator", "IDST"], Trait.idsTrinaryOperator),
   (["IDS_Unary_Operator", "IDSU"], Trait.idsUnaryOperator),
   (["ID_Compat_Math_Continue"], Trait.mathIdContinue),
   (["ID_Compat_Math_Start"], Trait.mathIdStart),
   (["ID_Continue", "IDC"], idContinue),
   (["ID_Start", "IDS"], idStart),
   (["Ideographic", "Ideo"], Trait.ideographic),
   (["Join_Control", "Join_C"], Trait.joinControl),
   (["Logical_Order_Exception", "LOE"], Trait.logicalOrderException),
   (["Lowercase", "Lower"], lowercase),
   (["Math"], math),
   (["Modifier_Combining_Mark", "MCM"], Trait.modifierCombiningMark),
   (["Noncharacter_Code_Point", "NChar"], Trait.noncharacter),
   (["Other_Alphabetic", "OAlpha"], Trait.otherAlphabetic),
   (["Other_Default_Ignorable_Code_Point", "ODI"], Trait.otherDefaultIgnorable),
   (["Other_Grapheme_Extend", "OGr_Ext"], Trait.otherGraphemeExtend),
   (["Other_ID_Continue", "OIDC"], Trait.otherIdContinue),
   (["Other_ID_Start", "OIDS"], Trait.otherIdStart),
   (["Other_Lowercase", "OLower"], Trait.otherLowercase),
   (["Other_Math", "OMath"], Trait.otherMath),
   (["Other_Uppercase", "OUpper"], Trait.otherUppercase),
   (["Pattern_Syntax", "Pat_Syn"], Trait.patternSyntax),
   (["Pattern_White_Space", "Pat_WS"], Trait.patternWhiteSpace),
   (["Prepended_Concatenation_Mark", "PCM"], Trait.prependedMark),
   (["Quotation_Mark", "QMark"], Trait.quotationMark),
   (["Radical"], Trait.radical),
   (["Regional_Indicator", "RI"], Trait.regionalIndicator),
   (["Sentence_Terminal", "STerm"], Trait.sentenceTerminal),
   (["Soft_Dotted", "SD"], Trait.softDotted),
   (["Terminal_Punctuation", "Term"], Trait.terminalPunctuation),
   (["Unified_Ideograph", "UIdeo"], Trait.unifiedIdeograph),
   (["Uppercase", "Upper"], uppercase),
   (["Variation_Selector", "VS"], Trait.variationSelector),
   (["White_Space", "WSpace", "Space"], blank),
   (["XID_Continue", "XIDC"], xidContinue),
   (["XID_Start", "XIDS"], xidStart)]

/-- The unions of categories that have a name, and the categories, with their names.  The category
of surrogates has no characters and no name. -/
def categoryNames : List (List Category × List String) :=
  [([.cc, .cf, .cn, .co, .cs], ["C", "Other"]),
   ([.lu, .ll, .lt], ["LC", "Cased_Letter"]),
   ([.lu, .ll, .lt, .lm, .lo], ["L", "Letter"]),
   ([.mn, .mc, .me], ["M", "Mark", "Combining_Mark"]),
   ([.nd, .nl, .no], ["N", "Number"]),
   ([.pc, .pd, .ps, .pe, .pi, .pf, .po], ["P", "Punctuation", "Punct"]),
   ([.sm, .sc, .sk, .so], ["S", "Symbol"]),
   ([.zs, .zl, .zp], ["Z", "Separator"]),
   ([.lu], ["Lu", "Uppercase_Letter"]),
   ([.ll], ["Ll", "Lowercase_Letter"]),
   ([.lt], ["Lt", "Titlecase_Letter"]),
   ([.lm], ["Lm", "Modifier_Letter"]),
   ([.lo], ["Lo", "Other_Letter"]),
   ([.mn], ["Mn", "Nonspacing_Mark"]),
   ([.mc], ["Mc", "Spacing_Mark"]),
   ([.me], ["Me", "Enclosing_Mark"]),
   ([.nd], ["Nd", "Decimal_Number", "Digit"]),
   ([.nl], ["Nl", "Letter_Number"]),
   ([.no], ["No", "Other_Number"]),
   ([.pc], ["Pc", "Connector_Punctuation"]),
   ([.pd], ["Pd", "Dash_Punctuation"]),
   ([.ps], ["Ps", "Open_Punctuation"]),
   ([.pe], ["Pe", "Close_Punctuation"]),
   ([.pi], ["Pi", "Initial_Punctuation"]),
   ([.pf], ["Pf", "Final_Punctuation"]),
   ([.po], ["Po", "Other_Punctuation"]),
   ([.sm], ["Sm", "Math_Symbol"]),
   ([.sc], ["Sc", "Currency_Symbol"]),
   ([.sk], ["Sk", "Modifier_Symbol"]),
   ([.so], ["So", "Other_Symbol"]),
   ([.zs], ["Zs", "Space_Separator"]),
   ([.zl], ["Zl", "Line_Separator"]),
   ([.zp], ["Zp", "Paragraph_Separator"]),
   ([.cc], ["Cc", "Control", "Cntrl"]),
   ([.cf], ["Cf", "Format"]),
   ([.co], ["Co", "Private_Use"]),
   ([.cn], ["Cn", "Unassigned"])]

/-- The class that a name names in a list of classes. -/
def classNamed? (classes : List (List String × CharSet)) (name : Text) : Option CharSet :=
  (classes.find? fun (names, _) => isNamed name names).map Prod.snd

/-- The union of categories that a name names.  All characters, those of ASCII and those that are
assigned go with the categories. -/
def categoryNamed? (name : Text) : Option CharSet :=
  if isNamed name ["Any"] then some .all
  else if isNamed name ["ASCII"] then some .ascii
  else if isNamed name ["Assigned"] then some unassigned.compl
  else (categoryNames.find? fun (_, names) => isNamed name names).map fun (ks, _) => ofCategories ks

/-- The script that a name names. -/
def scriptNamed? (name : Text) : Option Script :=
  (Script.names.find? fun (_, names) => isNamed name names).map Prod.fst

/-- The characters of the version that a name names, written as `3.0` or as `V3_0`. -/
def ageNamed? (name : Text) : Option CharSet :=
  let place? := Age.versions.findIdx? fun version =>
    isNamed name [version, String.ofList ('V' :: version.toList.filter (· != '.'))]
  place?.map Age.upTo

/-! ## Looking up names -/

/-- The class that a name names: a derived property or a trait, a union of categories, or a
script. -/
def named? (name : Text) : Option CharSet :=
  match classNamed? plainNames name with
  | some s => some s
  | none =>
    match categoryNamed? name with
    | some s => some s
    | none => (scriptNamed? name).map ofScript

/-- The class that a value names in a family of classes. -/
def valueNamed? (family value : Text) : Option CharSet :=
  if isNamed family ["General_Category", "gc"] then categoryNamed? value
  else if isNamed family ["Script", "sc"] then (scriptNamed? value).map ofScript
  else if isNamed family ["Script_Extensions", "scx"] then
    (scriptNamed? value).map ofExtendedScript
  else if isNamed family ["Age"] then ageNamed? value
  else if isNamed family ["Grapheme_Cluster_Break", "GCB"] then
    classNamed? Segment.graphemeClasses value
  else if isNamed family ["Word_Break", "WB"] then classNamed? Segment.wordClasses value
  else if isNamed family ["Sentence_Break", "SB"] then classNamed? Segment.sentenceClasses value
  else none

end Descent.Property
