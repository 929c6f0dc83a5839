import PullDecoration.Json.Double
import PullDecoration.Text.Slice
import PullDecoration.Toml.Value

/-! Keys, strings, numbers and dates of TOML. Every reader hands back the text behind what it has read. -/
namespace PullDecoration
namespace Toml

abbrev Reader (α : Type) := List Char → Except TomlError (α × List Char)

def isBlankChar (c : Char) : Bool := c = ' ' || c = '\t'

def skipBlank (cs : List Char) : List Char := cs.dropWhile isBlankChar

/-- Characters that may stand on a line: no control characters but the tabulator. -/
def isLineChar (c : Char) : Bool := c = '\t' || (' ' ≤ c && c ≠ '\x7f')

/-- The text behind a line end. -/
def lineEnd? : List Char → Option (List Char)
  | '\n' :: cs => some cs
  | '\r' :: '\n' :: cs => some cs
  | _ => none

/-- Digits of which every two may have an underscore between them. -/
def digitRun (isDigit : Char → Bool) : List Char → List Char × List Char
  | [] => ([], [])
  | c :: '_' :: d :: rest =>
    if !isDigit c then ([], c :: '_' :: d :: rest)
    else if !isDigit d then ([c], '_' :: d :: rest)
    else
      let (ds, rest) := digitRun isDigit (d :: rest)
      (c :: ds, rest)
  | c :: cs =>
    if !isDigit c then ([], c :: cs)
    else
      let (ds, rest) := digitRun isDigit cs
      (c :: ds, rest)

def charOfHex (ds : List Char) : Except TomlError Char :=
  match Text.hexDigitsValue? ds with
  | some n => if n.isValidChar then .ok (Char.ofNat n) else .error .invalidEscape
  | none => .error .invalidEscape

/-- The character of an escape, behind its backslash. -/
def escape : Reader Char
  | 'b' :: cs => .ok ('\x08', cs)
  | 'f' :: cs => .ok ('\x0c', cs)
  | 'n' :: cs => .ok ('\n', cs)
  | 'r' :: cs => .ok ('\r', cs)
  | 't' :: cs => .ok ('\t', cs)
  | '"' :: cs => .ok ('"', cs)
  | '\\' :: cs => .ok ('\\', cs)
  | 'u' :: cs => numbered 4 cs
  | 'U' :: cs => numbered 8 cs
  | _ => .error .invalidEscape
where
  /-- A character by number. -/
  numbered (n : Nat) (cs : List Char) : Except TomlError (Char × List Char) := do
    if cs.length < n then throw .invalidEscape
    return (← charOfHex (cs.take n), cs.drop n)

/-- The inside of a string between double quotes. -/
def basicInside (acc : List Char) : Nat → Reader String
  | 0, _ => .error .unexpected
  | fuel + 1, cs => match cs with
    | '"' :: cs => .ok (String.ofList acc.reverse, cs)
    | '\\' :: cs => do
      let (c, cs) ← escape cs
      basicInside (c :: acc) fuel cs
    | c :: cs => if isLineChar c then basicInside (c :: acc) fuel cs else .error .unexpected
    | [] => .error .unexpected

/-- The inside of a string between single quotes. -/
def literalInside (acc : List Char) : Reader String
  | '\'' :: cs => .ok (String.ofList acc.reverse, cs)
  | c :: cs => if isLineChar c then literalInside (c :: acc) cs else .error .unexpected
  | [] => .error .unexpected

/-- The text behind a backslash at the end of a line, and behind all blanks and line ends after it. -/
def joinLines? (cs : List Char) : Option (List Char) := do
  let cs ← lineEnd? (skipBlank cs)
  return go cs.length cs
where
  /-- Drops blanks and line ends. -/
  go : Nat → List Char → List Char
    | 0, cs => cs
    | n + 1, cs => match lineEnd? (skipBlank cs) with
      | some cs => go n cs
      | none => skipBlank cs

/-- The end of a string of several lines: three quotes, before which up to two belong to the string. -/
def closing? (q : Char) (cs : List Char) : Option (List Char × List Char) :=
  let quotes := cs.takeWhile (· = q)
  if quotes.length < 3 then none
  else
    let inside := min (quotes.length - 3) 2
    some (quotes.take inside, cs.drop (inside + 3))

/-- The inside of a string of several lines; escapes count between double quotes only. -/
def longInside (q : Char) (acc : List Char) : Nat → Reader String
  | 0, _ => .error .unexpected
  | fuel + 1, cs =>
    match closing? q cs, lineEnd? cs, cs with
    | some (quotes, cs), _, _ => .ok (String.ofList (acc.reverse ++ quotes), cs)
    | none, some cs, _ => longInside q ('\n' :: acc) fuel cs
    | none, none, '\\' :: cs =>
      if q = '\'' then longInside q ('\\' :: acc) fuel cs
      else match joinLines? cs with
        | some cs => longInside q acc fuel cs
        | none => do
          let (c, cs) ← escape cs
          longInside q (c :: acc) fuel cs
    | none, none, c :: cs =>
      if isLineChar c then longInside q (c :: acc) fuel cs else .error .unexpected
    | none, none, [] => .error .unexpected

def dropLineEnd (cs : List Char) : List Char := (lineEnd? cs).getD cs

/-- A string from its first quote on. -/
def string : Reader String
  | '"' :: '"' :: '"' :: cs => longInside '"' [] (cs.length + 1) (dropLineEnd cs)
  | '\'' :: '\'' :: '\'' :: cs => longInside '\'' [] (cs.length + 1) (dropLineEnd cs)
  | '"' :: cs => basicInside [] (cs.length + 1) cs
  | '\'' :: cs => literalInside [] cs
  | _ => .error .unexpected

def isBareChar (c : Char) : Bool := c.isAlphanum || c = '_' || c = '-'

/-- One part of a key. -/
def simpleKey : Reader String
  | '"' :: cs => basicInside [] (cs.length + 1) cs
  | '\'' :: cs => literalInside [] cs
  | cs =>
    let name := cs.takeWhile isBareChar
    if name.isEmpty then .error .unexpected
    else .ok (String.ofList name, cs.drop name.length)

/-- Parts of a key between points, with blanks around each. -/
def keyParts : Nat → Reader (List String)
  | 0, _ => .error .nestedTooDeep
  | fuel + 1, cs => do
    let (part, cs) ← simpleKey (skipBlank cs)
    match skipBlank cs with
    | '.' :: cs =>
      let (parts, cs) ← keyParts fuel cs
      return (part :: parts, cs)
    | cs => return ([part], cs)

/-- How deep keys and values are nested at most. -/
def depthLimit : Nat := 80

/-- A key, as the path before its last part and that part. -/
def key (cs : List Char) : Except TomlError ((List String × String) × List Char) := do
  let (parts, cs) ← keyParts (depthLimit - 1) cs
  match parts.getLast? with
  | some last => return ((parts.dropLast, last), cs)
  | none => throw .unexpected

/-- Exactly `n` digits, as a number. -/
def digits? (n : Nat) (cs : List Char) : Option (Nat × List Char) :=
  let ds := cs.take n
  if ds.length = n ∧ ds.all Char.isDigit then some (Text.digitsValue ds, cs.drop n) else none

def isLeapYear (y : Nat) : Bool := y % 4 = 0 && (y % 100 ≠ 0 || y % 400 = 0)

def daysInMonth (year month : Nat) : Nat :=
  if month = 2 then if isLeapYear year then 29 else 28
  else if month = 4 ∨ month = 6 ∨ month = 9 ∨ month = 11 then 30 else 31

def within (n least greatest : Nat) : Except TomlError Unit :=
  if least ≤ n ∧ n ≤ greatest then .ok () else .error .dateOutOfRange

/-- The text behind a time of day; none if there is no hour with a colon. -/
def time? (cs : List Char) : Option (Except TomlError (List Char)) :=
  match digits? 2 cs with
  | some (hour, ':' :: cs) => some do
    within hour 0 23
    let some (minute, ':' :: cs) := digits? 2 cs | throw .unexpected
    within minute 0 59
    let some (second, cs) := digits? 2 cs | throw .unexpected
    within second 0 60
    match cs with
    | '.' :: d :: rest =>
      return if d.isDigit then rest.dropWhile Char.isDigit else cs
    | _ => return cs
  | _ => none

/-- The text behind a distance from UTC, or the text itself. -/
def offset (cs : List Char) : Except TomlError (List Char) := do
  match cs with
  | 'Z' :: cs | 'z' :: cs => return cs
  | '+' :: rest | '-' :: rest =>
    match digits? 2 rest with
    | some (hour, ':' :: rest) =>
      within hour 0 23
      let some (minute, rest) := digits? 2 rest | throw .unexpected
      within minute 0 59
      return rest
    | _ => return cs
  | _ => return cs

/-- The text behind a date, with a time or without, or behind a time. -/
def moment? (cs : List Char) : Option (Except TomlError (List Char)) :=
  match digits? 4 cs with
  | some (year, '-' :: rest) => some do
    let some (month, '-' :: rest) := digits? 2 rest | throw .unexpected
    within month 1 12
    let some (day, rest) := digits? 2 rest | throw .unexpected
    within day 1 (daysInMonth year month)
    match rest with
    | c :: more =>
      if c = 'T' ∨ c = 't' ∨ c = ' ' then
        match time? more with
        | some r => offset (← r)
        | none => return rest
      else return rest
    | [] => return rest
  | _ => time? cs

/-- Whether the number is finite as one of double precision. -/
def isFinite (mantissa : Nat) (tens : Int) : Bool :=
  let size : Int := (Text.decimal mantissa).length + tens
  if mantissa = 0 ∨ size < 300 then true
  else if 310 < size then false
  else
    let (num, den) := if 0 ≤ tens then (mantissa * Nat.pow 10 tens.toNat, 1)
      else (mantissa, Nat.pow 10 (-tens).toNat)
    (Json.Double.ofQuotient? false num den).isSome

/-- The exponent of a number, if one stands here. -/
def exponent? (cs : List Char) : Option (Int × List Char) :=
  match cs with
  | c :: cs =>
    if c = 'e' ∨ c = 'E' then
      let (minus, cs) := match cs with
        | '+' :: cs => (false, cs)
        | '-' :: cs => (true, cs)
        | _ => (false, cs)
      let (ds, rest) := digitRun Char.isDigit cs
      if ds.isEmpty then none
      else
        let e : Int := Text.digitsValue ds
        some (if minus then -e else e, rest)
    else none
  | [] => none

/-- The decimals of a number, if there are any. -/
def fraction? (cs : List Char) : Option (List Char × List Char) :=
  match cs with
  | '.' :: cs =>
    let (ds, rest) := digitRun Char.isDigit cs
    if ds.isEmpty then none else some (ds, rest)
  | _ => none

def integerOf (minus : Bool) (n : Nat) : Except TomlError Value :=
  let i : Int := if minus then -n else n
  if -9223372036854775808 ≤ i ∧ i < 9223372036854775808 then .ok (.integer i) else .error .numberOutOfRange

/-- A number in another base, behind its mark. -/
def basedInteger (base : Nat) (cs : List Char) : Except TomlError (Value × List Char) := do
  let isDigit (c : Char) : Bool := (Text.hexValue? c).any (· < base)
  let (ds, rest) := digitRun isDigit cs
  if ds.isEmpty then throw .unexpected
  let n := ds.foldl (fun n c => base * n + (Text.hexValue? c).getD 0) 0
  return (← integerOf false n, rest)

/-- A decimal number behind its sign. -/
def decimalNumber (minus : Bool) (cs : List Char) : Except TomlError (Value × List Char) := do
  let (ds, rest) := match cs with
    | '0' :: rest => (['0'], rest)
    | _ => digitRun Char.isDigit cs
  if ds.isEmpty then throw .unexpected
  let (decimals, isFloat, rest) := match fraction? rest with
    | some (fs, rest) => (fs, true, rest)
    | none => ([], false, rest)
  let real (tens : Int) (rest : List Char) : Except TomlError (Value × List Char) :=
    if minus ∨ isFinite (Text.digitsValue (ds ++ decimals)) (tens - decimals.length) then
      .ok (.float, rest)
    else .error .numberOutOfRange
  match exponent? rest with
  | some (e, rest) => real e rest
  | none =>
    if isFloat then real 0 rest
    else return (← integerOf minus (Text.digitsValue ds), rest)

/-- A number, a date or a time. -/
def number (cs : List Char) : Except TomlError (Value × List Char) := do
  match moment? cs with
  | some r => return (.moment, ← r)
  | none => match cs with
    | '0' :: 'x' :: cs => basedInteger 16 cs
    | '0' :: 'o' :: cs => basedInteger 8 cs
    | '0' :: 'b' :: cs => basedInteger 2 cs
    | '+' :: 'i' :: 'n' :: 'f' :: cs | '-' :: 'i' :: 'n' :: 'f' :: cs => return (.float, cs)
    | '+' :: 'n' :: 'a' :: 'n' :: cs | '-' :: 'n' :: 'a' :: 'n' :: cs => return (.float, cs)
    | '+' :: cs => decimalNumber false cs
    | '-' :: cs => decimalNumber true cs
    | cs => decimalNumber false cs

end Toml
end PullDecoration
