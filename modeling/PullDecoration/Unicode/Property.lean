import PullDecoration.Unicode.Category
import PullDecoration.Unicode.PropertyTable
import PullDecoration.Unicode.ScriptTable

/-! Binary properties and scripts of characters, by name. -/
namespace PullDecoration
namespace Unicode

def alphabeticEnds : Array Nat := boundaries alphabeticRuns

def graphemeExtendEnds : Array Nat := boundaries graphemeExtendRuns

def isAlphabetic (c : Char) : Bool := insideRuns alphabeticEnds c.toNat

/-- Marks and joiners that belong to the character before them. -/
def isGraphemeExtend (c : Char) : Bool := insideRuns graphemeExtendEnds c.toNat

def isMark (c : Char) : Bool := (category c).letters.1 = 'M'

def isDecimalDigit (c : Char) : Bool := category c = .decimalNumber

/-- Characters of words: letters, marks, decimal digits, connectors and the two joiners. -/
def isWordChar (c : Char) : Bool :=
  isAlphabetic c || isMark c || isDecimalDigit c || category c = .connectorPunctuation ||
    c = '\u200c' || c = '\u200d'

/-- Characters that show: all but controls, formats, separators other than the blank, and code points
without a character of their own. -/
def isPrintable (c : Char) : Bool :=
  c = ' ' || ((category c).letters.1 != 'C' && (category c).letters.1 != 'Z')

/-- The runs of a binary property, by its name in lower case without separators. -/
def propertyNamed? (name : String) : Option (Array Nat) :=
  (propertyRuns.find? fun p => name ∈ p.1).map fun p => boundaries p.2

/-- A run's length in hexadecimal, a point, and the letters of its script. -/
def scriptRun (w : List Char) : Nat × String :=
  match Text.cut? '.' w with
  | some (digits, code) => (hexOrZero digits, String.ofList code)
  | none => (0, "")

def scriptTable : Runs String :=
  .ofLengths ((entries scriptRuns).map scriptRun)

def script (c : Char) : String := (scriptTable.get? c.toNat).getD "Zzzz"

/-- The four letters of a script, by any of its names in lower case without separators. -/
def scriptNamed? (name : String) : Option String :=
  (entries scriptNames).findSome? fun entry =>
    match Text.parts '=' entry with
    | code :: names => if name.toList ∈ names then some (String.ofList code) else none
    | [] => none

end Unicode
end PullDecoration
