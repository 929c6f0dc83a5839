import PullDecoration.Text.Natural
import PullDecoration.Json.Double

/-! JSON text as a tree that may end early. Where the text stops being JSON the tree has a fault; a
reader walks the tree from left to right and complains of the first thing it does not accept, so a
fault behind it never shows. A value can be read or skipped over, and the two complain differently. -/
namespace PullDecoration
namespace Json

/-- What is wrong with a text that is not JSON. -/
inductive SyntaxError
  | endInValue | endInObject | endInList | endInString
  | valueExpected | identExpected | colonExpected | listCommaExpected | objectCommaExpected
  | keyNotString | trailingComma | trailingCharacters
  | invalidNumber | numberOutOfRange
  | invalidEscape | hexEscapeCut | loneSurrogate | controlCharacter
  | nestedTooDeep
  deriving DecidableEq, Repr

namespace SyntaxError

def message : SyntaxError → String
  | endInValue => "EOF while parsing a value"
  | endInObject => "EOF while parsing an object"
  | endInList => "EOF while parsing a list"
  | endInString => "EOF while parsing a string"
  | valueExpected => "expected value"
  | identExpected => "expected ident"
  | colonExpected => "expected `:`"
  | listCommaExpected => "expected `,` or `]`"
  | objectCommaExpected => "expected `,` or `\x7d`"
  | keyNotString => "key must be a string"
  | trailingComma => "trailing comma"
  | trailingCharacters => "trailing characters"
  | invalidNumber => "invalid number"
  | numberOutOfRange => "number out of range"
  | invalidEscape => "invalid escape"
  | hexEscapeCut => "unexpected end of hex escape"
  | loneSurrogate => "lone leading surrogate in hex escape"
  | controlCharacter => "control character (\\u0000-\\u001F) found while parsing a string"
  | nestedTooDeep => "recursion limit exceeded"

end SyntaxError

/-- A place where the text stops being JSON: what one who reads on and one who skips on report. -/
structure Fault where
  read : SyntaxError
  skip : SyntaxError
  deriving DecidableEq, Repr

def Fault.both (e : SyntaxError) : Fault := ⟨e, e⟩

/-- A string literal. Reading fails on an unpaired surrogate, skipping does not. -/
structure Literal where
  read : Except SyntaxError String
  skip : Option SyntaxError

def Literal.ofString (s : String) : Literal := ⟨.ok s, none⟩

/-- The parts of a number as written. -/
structure Numeral where
  negative : Bool
  whole : List Char
  fraction : Option (List Char)
  exponent : Option (Bool × List Char)
  deriving DecidableEq, Repr

def Numeral.ofNat (n : Nat) : Numeral := ⟨false, Text.decimal n, none, none⟩

mutual

/-- A value; `level` counts the arrays and objects around and including an array or object. -/
inductive Document
  | null
  | bool (b : Bool)
  | number (n : Numeral)
  | string (s : Literal)
  | array (level : Nat) (items : Items)
  | object (level : Nat) (members : Members)
  | broken (fault : Fault)
  | nothing

inductive Items
  | close
  | stop (fault : Fault)
  | item (head : Document) (rest : Items)

/-- `misfit` is what stands where a key should start. -/
inductive Members
  | close
  | stop (fault : Fault)
  | misfit (found : Document)
  | member (key : Literal) (value : Document) (rest : Members)

end

/-- The deepest nesting at which arrays and objects are read. -/
def readableLevels : Nat := 127

mutual

/-- Passes over a value whatever it is. -/
def Document.skip : Document → Except SyntaxError Unit
  | .null | .bool _ | .number _ => .ok ()
  | .string s => match s.skip with
    | none => .ok ()
    | some e => .error e
  | .array _ items => items.skip
  | .object _ members => members.skip
  | .broken fault => .error fault.skip
  | .nothing => .error .endInValue

def Items.skip : Items → Except SyntaxError Unit
  | .close => .ok ()
  | .stop fault => .error fault.skip
  | .item head rest => do head.skip; rest.skip

def Members.skip : Members → Except SyntaxError Unit
  | .close => .ok ()
  | .stop fault => .error fault.skip
  | .misfit _ => .error .keyNotString
  | .member key value rest => do
    match key.skip with
    | none => pure ()
    | some e => throw e
    value.skip
    rest.skip

end

end Json
end PullDecoration
