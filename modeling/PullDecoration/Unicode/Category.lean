import PullDecoration.Unicode.Runs
import PullDecoration.Unicode.CategoryTable

/-! General categories. A category has two letters, a group of categories the first of them. -/
namespace PullDecoration
namespace Unicode

inductive Category
  | uppercaseLetter | lowercaseLetter | titlecaseLetter | modifierLetter | otherLetter
  | nonspacingMark | spacingMark | enclosingMark
  | decimalNumber | letterNumber | otherNumber
  | connectorPunctuation | dashPunctuation | openPunctuation | closePunctuation
  | initialPunctuation | finalPunctuation | otherPunctuation
  | mathSymbol | currencySymbol | modifierSymbol | otherSymbol
  | spaceSeparator | lineSeparator | paragraphSeparator
  | control | format | surrogate | privateUse | unassigned
  deriving DecidableEq, Repr

namespace Category

def all : List Category :=
  [uppercaseLetter, lowercaseLetter, titlecaseLetter, modifierLetter, otherLetter,
    nonspacingMark, spacingMark, enclosingMark, decimalNumber, letterNumber, otherNumber,
    connectorPunctuation, dashPunctuation, openPunctuation, closePunctuation,
    initialPunctuation, finalPunctuation, otherPunctuation,
    mathSymbol, currencySymbol, modifierSymbol, otherSymbol,
    spaceSeparator, lineSeparator, paragraphSeparator,
    control, format, surrogate, privateUse, unassigned]

def letters : Category → Char × Char
  | uppercaseLetter => ('L', 'u')
  | lowercaseLetter => ('L', 'l')
  | titlecaseLetter => ('L', 't')
  | modifierLetter => ('L', 'm')
  | otherLetter => ('L', 'o')
  | nonspacingMark => ('M', 'n')
  | spacingMark => ('M', 'c')
  | enclosingMark => ('M', 'e')
  | decimalNumber => ('N', 'd')
  | letterNumber => ('N', 'l')
  | otherNumber => ('N', 'o')
  | connectorPunctuation => ('P', 'c')
  | dashPunctuation => ('P', 'd')
  | openPunctuation => ('P', 's')
  | closePunctuation => ('P', 'e')
  | initialPunctuation => ('P', 'i')
  | finalPunctuation => ('P', 'f')
  | otherPunctuation => ('P', 'o')
  | mathSymbol => ('S', 'm')
  | currencySymbol => ('S', 'c')
  | modifierSymbol => ('S', 'k')
  | otherSymbol => ('S', 'o')
  | spaceSeparator => ('Z', 's')
  | lineSeparator => ('Z', 'l')
  | paragraphSeparator => ('Z', 'p')
  | control => ('C', 'c')
  | format => ('C', 'f')
  | surrogate => ('C', 's')
  | privateUse => ('C', 'o')
  | unassigned => ('C', 'n')

def ofLetters? (a b : Char) : Option Category := all.find? fun c => c.letters = (a, b)

end Category

/-- A run's length in hexadecimal, then the letters of its category. -/
def categoryRun (w : List Char) : Nat × Category :=
  match w.reverse with
  | b :: a :: digits => (hexOrZero digits.reverse, (Category.ofLetters? a b).getD .unassigned)
  | _ => (0, .unassigned)

def categoryTable : Runs Category :=
  .ofLengths ((entries categoryRuns).map categoryRun)

def category (c : Char) : Category := (categoryTable.get? c.toNat).getD .unassigned

/-- The categories of a name: its two letters, a group's first letter, or the words for either. -/
def categoriesNamed? (name : String) : Option (List Category) :=
  let group (a : Char) := Category.all.filter fun c => c.letters.1 = a
  match name with
  | "l" | "letter" => some (group 'L')
  | "lc" | "casedletter" => some [.uppercaseLetter, .lowercaseLetter, .titlecaseLetter]
  | "lu" | "uppercaseletter" => some [.uppercaseLetter]
  | "ll" | "lowercaseletter" => some [.lowercaseLetter]
  | "lt" | "titlecaseletter" => some [.titlecaseLetter]
  | "lm" | "modifierletter" => some [.modifierLetter]
  | "lo" | "otherletter" => some [.otherLetter]
  | "m" | "mark" | "combiningmark" => some (group 'M')
  | "mn" | "nonspacingmark" => some [.nonspacingMark]
  | "mc" | "spacingmark" => some [.spacingMark]
  | "me" | "enclosingmark" => some [.enclosingMark]
  | "n" | "number" => some (group 'N')
  | "nd" | "decimalnumber" | "digit" => some [.decimalNumber]
  | "nl" | "letternumber" => some [.letterNumber]
  | "no" | "othernumber" => some [.otherNumber]
  | "p" | "punctuation" | "punct" => some (group 'P')
  | "pc" | "connectorpunctuation" => some [.connectorPunctuation]
  | "pd" | "dashpunctuation" => some [.dashPunctuation]
  | "ps" | "openpunctuation" => some [.openPunctuation]
  | "pe" | "closepunctuation" => some [.closePunctuation]
  | "pi" | "initialpunctuation" => some [.initialPunctuation]
  | "pf" | "finalpunctuation" => some [.finalPunctuation]
  | "po" | "otherpunctuation" => some [.otherPunctuation]
  | "s" | "symbol" => some (group 'S')
  | "sm" | "mathsymbol" => some [.mathSymbol]
  | "sc" | "currencysymbol" => some [.currencySymbol]
  | "sk" | "modifiersymbol" => some [.modifierSymbol]
  | "so" | "othersymbol" => some [.otherSymbol]
  | "z" | "separator" => some (group 'Z')
  | "zs" | "spaceseparator" => some [.spaceSeparator]
  | "zl" | "lineseparator" => some [.lineSeparator]
  | "zp" | "paragraphseparator" => some [.paragraphSeparator]
  | "c" | "other" => some (group 'C')
  | "cc" | "control" | "cntrl" => some [.control]
  | "cf" | "format" => some [.format]
  | "cs" | "surrogate" => some [.surrogate]
  | "co" | "privateuse" => some [.privateUse]
  | "cn" | "unassigned" => some [.unassigned]
  | _ => none

end Unicode
end PullDecoration
