import PullDecoration.Text.Slice
import PullDecoration.Unicode.Fold
import PullDecoration.Unicode.Property
import PullDecoration.Url.Percent
import PullDecoration.Url.Punycode

/-! Hosts of URLs: names in lower case, addresses of four octets in any of their spellings, and addresses
of eight words in brackets. -/
namespace PullDecoration
namespace Url

inductive UrlError
  | emptyHost | idna | invalidPort | invalidIpv4 | invalidIpv6 | invalidDomainChar | relative
  deriving DecidableEq, Repr

def UrlError.message : UrlError → String
  | emptyHost => "empty host"
  | idna => "invalid international domain name"
  | invalidPort => "invalid port number"
  | invalidIpv4 => "invalid IPv4 address"
  | invalidIpv6 => "invalid IPv6 address"
  | invalidDomainChar => "invalid domain character"
  | relative => "relative URL without a base"

inductive Host
  | name (s : List Char)
  | ipv4 (n : Nat)
  | ipv6 (words : List Nat)
  deriving DecidableEq

/-- A part of an address: decimal, octal behind a zero, hexadecimal behind `0x`. -/
def ipv4Number? (cs : List Char) : Option Nat :=
  let number (base : Nat) (ds : List Char) : Option Nat :=
    if ds.all fun d => (Text.hexValue? d).any (· < base) then
      some (ds.foldl (fun n d => base * n + (Text.hexValue? d).getD 0) 0)
    else none
  match cs with
  | [] => none
  | '0' :: 'x' :: ds | '0' :: 'X' :: ds => number 16 ds
  | '0' :: d :: ds => number 8 (d :: ds)
  | ds => number 10 ds

/-- The parts between points, without an empty one at the end. -/
def ipv4Parts (cs : List Char) : List (List Char) :=
  let parts := Text.parts '.' cs
  if 1 < parts.length ∧ parts.getLast? = some [] then parts.dropLast else parts

def endsInNumber (cs : List Char) : Bool :=
  match (ipv4Parts cs).getLast? with
  | some last => !last.isEmpty && (last.all Char.isDigit || (ipv4Number? last).isSome)
  | none => false

def parseIpv4 (cs : List Char) : Except UrlError Host :=
  match (ipv4Parts cs).mapM ipv4Number? with
  | none => .error .invalidIpv4
  | some numbers =>
    let last := numbers.getLastD 0
    let before := numbers.dropLast
    if 4 < numbers.length ∨ before.any (255 < ·) ∨ Nat.pow 256 (4 - before.length) ≤ last then
      .error .invalidIpv4
    else .ok (.ipv4 (before.foldl (fun n b => 256 * n + b) 0 * Nat.pow 256 (4 - before.length) + last))

/-- A decimal octet without leading zeros. -/
def octet? (cs : List Char) : Option Nat :=
  if cs.isEmpty ∨ !cs.all Char.isDigit ∨ (1 < cs.length ∧ cs.head? = some '0') then none
  else
    let n := Text.digitsValue cs
    if n < 256 then some n else none

/-- The words of a piece: four hexadecimal digits at most, or an address of four octets at the end. -/
def ipv6Words? (last : Bool) (cs : List Char) : Option (List Nat) :=
  if last ∧ '.' ∈ cs then
    match (Text.parts '.' cs).mapM octet? with
    | some [a, b, c, d] => some [256 * a + b, 256 * c + d]
    | _ => none
  else if cs.isEmpty ∨ 4 < cs.length then none
  else (Text.hexDigitsValue? cs).map fun n => [n]

def ipv6Side? (last : Bool) (cs : List Char) : Option (List Nat) :=
  if cs.isEmpty then some []
  else
    let parts := Text.parts ':' cs
    let words := parts.zipIdx.mapM fun (p : List Char × Nat) =>
      ipv6Words? (last && p.2 + 1 = parts.length) p.1
    words.map List.flatten

/-- The text before and after the first double colon. -/
def cutColons : List Char → Option (List Char × List Char)
  | ':' :: ':' :: cs => some ([], cs)
  | c :: cs => (cutColons cs).map fun p => (c :: p.1, p.2)
  | [] => none

def parseIpv6 (cs : List Char) : Except UrlError Host :=
  let words? : Option (List Nat) := match cutColons cs with
    | none => (ipv6Side? true cs).filter (·.length = 8)
    | some (left, right) => do
      let before ← ipv6Side? false left
      let behind ← ipv6Side? true right
      let zeros := 8 - (before.length + behind.length)
      if zeros = 0 then none else return before ++ List.replicate zeros 0 ++ behind
  match words? with
  | some words => .ok (.ipv6 words)
  | none => .error .invalidIpv6

/-- Characters that no host name holds. -/
def isForbidden (c : Char) : Bool :=
  c ≤ ' ' || c.toNat = 0x7F || c ∈ "%#/:<>?@[\\]^|".toList

/-- Characters that a host of an unknown scheme may not hold. -/
def isForbiddenOpaque (c : Char) : Bool :=
  c = '\x00' || c = '\t' || c = '\n' || c = '\r' || c = ' ' || c ∈ "#/:<>?@[\\]^|".toList

def lowercaseEnds : Array Nat := Unicode.boundaries Unicode.lowercaseRuns

/-- The small letter of a letter. -/
def small (c : Char) : Char :=
  if c.toNat < 128 then c.toLower
  else if Unicode.insideRuns lowercaseEnds c.toNat then c
  else ((Unicode.caseVariants c).find? fun d => Unicode.insideRuns lowercaseEnds d.toNat).getD c

def isDot (c : Char) : Bool := c = '.' || c = '\u3002' || c = '\uff0e' || c = '\uff61'

/-- A name in small letters, its labels in ASCII. Of the mapping of UTS 46 there are small letters,
the other full stops and the soft hyphen; characters that it maps to others, such as full-width
letters, are kept as they are, and labels are not checked for validity. -/
def domain (cs : List Char) : Except UrlError (List Char) :=
  let cs := (cs.map fun c => if isDot c then '.' else small c).filter (· ≠ '\u00ad')
  if cs.any fun c => isForbidden c then .error .idna
  else
    let labels := (Text.parts '.' cs).map fun label =>
      if label.all fun c => c.toNat < 128 then label else "xn--".toList ++ punycode label
    .ok (['.'].intercalate labels)

def Host.parse (cs : List Char) : Except UrlError Host :=
  match cs with
  | '[' :: rest =>
    if rest.getLast? = some ']' then parseIpv6 rest.dropLast else .error .invalidIpv6
  | _ =>
    match Utf8.decode? (percentDecode cs) with
    | none => .error .idna
    | some text => do
      let name ← domain text.toList
      if name.isEmpty then throw .emptyHost
      if endsInNumber name then parseIpv4 name else return .name name

/-- A host whose scheme gives it no further meaning. -/
def Host.parseOpaque (cs : List Char) : Except UrlError Host :=
  match cs with
  | '[' :: rest =>
    if rest.getLast? = some ']' then parseIpv6 rest.dropLast else .error .invalidIpv6
  | _ =>
    if cs.any isForbiddenOpaque then .error .invalidDomainChar
    else .ok (.name (percentEncode isControl cs))

/-- The first longest run of at least two zero words: where it starts and its length. -/
def zeroRun (words : List Nat) : Option (Nat × Nat) :=
  let runs := (List.range words.length).map fun i => (i, ((words.drop i).takeWhile (· = 0)).length)
  let best := runs.foldl (fun (b : Nat × Nat) r => if b.2 < r.2 then r else b) (0, 0)
  if 2 ≤ best.2 then some best else none

def wordChars (n : Nat) : List Char := Nat.toDigits 16 n

def Host.chars : Host → List Char
  | .name s => s
  | .ipv4 n =>
    ['.'].intercalate ([n / 16777216, n / 65536 % 256, n / 256 % 256, n % 256].map Text.decimal)
  | .ipv6 words =>
    let join (ws : List Nat) : List Char := [':'].intercalate (ws.map wordChars)
    let inside := match zeroRun words with
      | none => join words
      | some (i, n) => join (words.take i) ++ [':', ':'] ++ join (words.drop (i + n))
    '[' :: (inside ++ [']'])

end Url
end PullDecoration
