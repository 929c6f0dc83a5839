import PullDecoration.Text.Natural
import PullDecoration.Text.Utf8

/-! Percent-encoding: octets written as a percent sign and two hexadecimal digits. Which ASCII characters
are written so depends on the part of the URL; all others always are. -/
namespace PullDecoration
namespace Url

def percentOctet (b : UInt8) : List Char :=
  ['%', Text.upperHexDigit (b.toNat / 16), Text.upperHexDigit b.toNat]

def percentChar (c : Char) : List Char := (String.utf8EncodeChar c).flatMap percentOctet

/-- Encodes the characters that are in `set`, and all that are not ASCII. -/
def percentEncode (set : Char → Bool) (cs : List Char) : List Char :=
  cs.flatMap fun c => if set c || 0x7F ≤ c.toNat then percentChar c else [c]

def isControl (c : Char) : Bool := c < ' '

def inFragment (c : Char) : Bool :=
  isControl c || c = ' ' || c = '"' || c = '<' || c = '>' || c.toNat = 0x60

def inQuery (c : Char) : Bool :=
  isControl c || c = ' ' || c = '"' || c = '#' || c = '<' || c = '>'

def inSpecialQuery (c : Char) : Bool := inQuery c || c = '\''

def inPath (c : Char) : Bool :=
  inFragment c || c = '#' || c = '?' || c.toNat = 0x7B || c.toNat = 0x7D

def inUserinfo (c : Char) : Bool :=
  inPath c || c = '/' || c = ':' || c = ';' || c = '=' || c = '@' || c = '[' || c = '\\' ||
    c = ']' || c = '^' || c = '|'

/-- Octets of a text in which percent signs followed by two digits count as octets. -/
def percentDecode : List Char → List UInt8
  | '%' :: a :: b :: cs =>
    match Text.hexValue? a, Text.hexValue? b with
    | some m, some n => .ofNat (16 * m + n) :: percentDecode cs
    | _, _ => 0x25 :: percentDecode (a :: b :: cs)
  | c :: cs => String.utf8EncodeChar c ++ percentDecode cs
  | [] => []

def isFormPlain (c : Char) : Bool := c.isAlphanum || c = '*' || c = '-' || c = '.' || c = '_'

/-- Text as part of a form: blanks are written as plus signs. -/
def formEncode (cs : List Char) : List Char :=
  cs.flatMap fun c => if c = ' ' then ['+'] else if isFormPlain c then [c] else percentChar c

end Url
end PullDecoration
