import Descent.Property.Trait
import Descent.Text.Category
import Descent.Text.Script

/-!
# Derived properties

Most properties of characters are not listed but put together from categories, scripts and traits
by the rules that the standard gives.  Two rules serve the names in expressions and the texts shown
to a reader and follow version 17: `isAlphabetic` and what it needs.
-/

namespace Descent.Property

/-! ## Categories and scripts -/

/-- The characters of some categories. -/
def ofCategories (ks : List Category) : CharSet :=
  ⟨CharSet.joined (Category.table.spans fun k => ks.contains k)⟩

/-- The characters of a script. -/
def ofScript (s : Script) : CharSet := ⟨Script.table.spans fun t => t == s⟩

/-- The characters that have a script among their extensions. -/
def ofExtendedScript (s : Script) : CharSet :=
  let having := (Script.extensions.filter fun (_, ss) => ss.contains s).map Prod.fst
  let others := (Script.extensions.filter fun (_, ss) => !ss.contains s).map Prod.fst
  ((ofScript s).diff ⟨CharSet.joined others⟩).union ⟨CharSet.joined having⟩

/-- Letters. -/
def letters : CharSet := ofCategories [.lu, .ll, .lt, .lm, .lo]

/-- Marks. -/
def marks : CharSet := ofCategories [.mn, .mc, .me]

/-- Decimal digits. -/
def digits : CharSet := ofCategories [.nd]

/-- Title case letters. -/
def titlecase : CharSet := ofCategories [.lt]

/-- Code points that are not assigned. -/
def unassigned : CharSet := ofCategories [.cn]

/-! ## Letters and words -/

/-- Lower case letters and what is used like them. -/
def lowercase : CharSet := (ofCategories [.ll]).union Trait.otherLowercase

/-- Upper case letters and what is used like them. -/
def uppercase : CharSet := (ofCategories [.lu]).union Trait.otherUppercase

/-- Characters that have a case. -/
def cased : CharSet := .unions [lowercase, uppercase, titlecase]

/-- Letters, letter numbers and what is used like them. -/
def alphabetic : CharSet :=
  (ofCategories [.lu, .ll, .lt, .lm, .lo, .nl]).union Trait.otherAlphabetic

/-- Blanks. -/
def blank : CharSet := .ofRows ["9=D 20 85 A0 1680 2000=200A 2028=2029 202F 205F 3000"]

/-- The characters that words are made of: alphabetic characters, marks, decimal digits,
connectors, and the two characters that join or part their neighbours. -/
def word : CharSet :=
  .unions [alphabetic, marks, ofCategories [.nd, .pc], Trait.joinControl]

/-- Whether a character counts as alphabetic, in version 17. -/
def isAlphabetic (c : Char) : Bool :=
  (Category.of c).isLetter || Category.of c == .nl || Trait.otherAlphabetic.contains c ||
    Trait.newAlphabetic.contains c

/-! ## Change of case -/

/-- Characters that share an orbit with another one. -/
def twoCased : CharSet := ⟨CharSet.joined (CaseOrbit.entries.toList.map fun (n, _) => (n, n))⟩

/-- Characters that lower case changes. -/
def changesWhenLowercased : CharSet :=
  (twoCased.inter (uppercase.union titlecase)).union (.ofRows ["130"])

/-- Characters that upper case changes. -/
def changesWhenUppercased : CharSet :=
  (twoCased.inter (lowercase.union titlecase)).union Trait.expanding

/-- Characters that title case changes.  The letters of the Georgian script stay as they are. -/
def changesWhenTitlecased : CharSet :=
  ((twoCased.inter lowercase).union Trait.expandingTitle).diff (.ofRows ["10D0=10FA 10FD=10FF"])

/-- Characters that a change of case changes. -/
def changesWhenCasemapped : CharSet :=
  .unions [changesWhenLowercased, changesWhenUppercased, changesWhenTitlecased]

/-- Characters that folding changes.  The letters of the Cherokee script fold to upper case. -/
def changesWhenCasefolded : CharSet :=
  ((twoCased.inter (uppercase.union titlecase)).union Trait.foldedFurther).diff
    (.ofRows ["13A0=13F5"])

/-! ## Identifiers -/

/-- Characters that identifiers start with. -/
def idStart : CharSet :=
  ((ofCategories [.lu, .ll, .lt, .lm, .lo, .nl]).union Trait.otherIdStart).diff Trait.patternSyntax

/-- Characters that identifiers are made of. -/
def idContinue : CharSet :=
  .unions [idStart, ofCategories [.mn, .mc, .nd, .pc], Trait.otherIdContinue]

/-- Characters that do not stay in an identifier when it is normalized. -/
def unstable : CharSet := .ofRows
  ["37A 309B=309C FC5E=FC63 FDFA=FDFB FE70 FE72 FE74 FE76 FE78 FE7A FE7C FE7E"]

/-- Characters that normalized identifiers start with. -/
def xidStart : CharSet := (idStart.diff unstable).diff (.ofRows ["E33 EB3 FF9E=FF9F"])

/-- Characters that normalized identifiers are made of. -/
def xidContinue : CharSet := idContinue.diff unstable

/-! ## Form -/

/-- Characters that mathematics uses. -/
def math : CharSet := (ofCategories [.sm]).union Trait.otherMath

/-- Characters that extend the one before them. -/
def graphemeExtend : CharSet := (ofCategories [.mn, .me]).union Trait.otherGraphemeExtend

/-- Characters that stand on their own. -/
def graphemeBase : CharSet :=
  (ofCategories [.cc, .cf, .cs, .co, .cn, .zl, .zp]).compl.diff graphemeExtend

/-- Code points that are not shown where they are not known. -/
def defaultIgnorable : CharSet :=
  (CharSet.unions [ofCategories [.cf], Trait.variationSelector, Trait.otherDefaultIgnorable]).diff
    (.union (.ofRows ["FFF9=FFFB 13430=1343F"]) Trait.prependedMark)

/-- Punctuation that may stand within a word. -/
def midWord : CharSet := .ofRows
  ["27 2E 3A B7 387 55F 5F4 2018=2019 2024 2027 FE13 FE52 FE55 FF07 FF0E FF1A"]

/-- Characters that are passed over when the case of a word is looked for. -/
def caseIgnorable : CharSet := (ofCategories [.mn, .me, .cf, .lm, .sk]).union midWord

end Descent.Property
