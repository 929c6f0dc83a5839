import PullDecoration.Json.Document

/-! Reading JSON text into a tree. The reader never fails: where the text stops being JSON it leaves a
fault in the tree, and nothing behind a fault that readers and skippers share. -/
namespace PullDecoration
namespace Json

def isJsonBlank (c : Char) : Bool := c == ' ' || c == '\n' || c == '\t' || c == '\r'

def skipBlank (cs : List Char) : List Char := cs.dropWhile isJsonBlank

/-- A piece of a string literal: a character, or a code unit of a `\u` escape. -/
inductive Piece
  | char (c : Char)
  | unit (n : Nat)
  deriving DecidableEq

/-- How a string literal ends. -/
inductive LiteralEnd
  | closed
  | endOfText
  | badEscape
  | badHexEscape
  | control
  deriving DecidableEq

def simpleEscape? : Char → Option Char
  | '"' => some '"'
  | '\\' => some '\\'
  | '/' => some '/'
  | 'b' => some '\x08'
  | 'f' => some '\x0c'
  | 'n' => some '\n'
  | 'r' => some '\r'
  | 't' => some '\t'
  | _ => none

/-- The pieces up to the closing quote and the text after it. A `\u` escape needs four octets. -/
def pieces (acc : List Piece) : List Char → List Piece × LiteralEnd × List Char
  | [] => (acc.reverse, .endOfText, [])
  | '"' :: rest => (acc.reverse, .closed, rest)
  | ['\\'] => (acc.reverse, .endOfText, [])
  | '\\' :: 'u' :: a :: b :: c :: d :: rest =>
    match Text.hexDigitsValue? [a, b, c, d] with
    | some n => pieces (.unit n :: acc) rest
    | none => (acc.reverse, .badHexEscape, [])
  | '\\' :: 'u' :: rest =>
    (acc.reverse, if Text.octetCount rest < 4 then .endOfText else .badHexEscape, [])
  | '\\' :: c :: rest =>
    match simpleEscape? c with
    | some e => pieces (.char e :: acc) rest
    | none => (acc.reverse, .badEscape, [])
  | c :: rest =>
    if c < ' ' then (acc.reverse, .control, []) else pieces (.char c :: acc) rest

def LiteralEnd.skip : LiteralEnd → Option SyntaxError
  | .closed => none
  | .endOfText => some .endInString
  | .badEscape | .badHexEscape => some .invalidEscape
  | .control => some .controlCharacter

/-- What is reported when the literal ends where a second surrogate is due. -/
def LiteralEnd.afterSurrogate : LiteralEnd → SyntaxError
  | .endOfText => .endInString
  | .badHexEscape => .invalidEscape
  | .closed | .badEscape | .control => .hexEscapeCut

def isLeadingSurrogate (n : Nat) : Bool := 0xD800 ≤ n && n ≤ 0xDBFF

def isTrailingSurrogate (n : Nat) : Bool := 0xDC00 ≤ n && n ≤ 0xDFFF

/-- The text of a literal, its surrogates paired. -/
def assemble (fin : LiteralEnd) (acc : List Char) : List Piece → Except SyntaxError (List Char)
  | [] => match fin.skip with
    | none => .ok acc.reverse
    | some e => .error e
  | .char c :: ps => assemble fin (c :: acc) ps
  | .unit n :: ps =>
    if isTrailingSurrogate n then .error .loneSurrogate
    else if isLeadingSurrogate n then
      match ps with
      | .unit m :: ps =>
        if isTrailingSurrogate m then
          assemble fin (Char.ofNat (0x10000 + (n - 0xD800) * 0x400 + (m - 0xDC00)) :: acc) ps
        else .error .loneSurrogate
      | .char _ :: _ => .error .hexEscapeCut
      | [] => .error fin.afterSurrogate
    else assemble fin (Char.ofNat n :: acc) ps

/-- A string literal after its opening quote. -/
def literal (cs : List Char) : Literal × List Char :=
  let (ps, fin, rest) := pieces [] cs
  (⟨(assemble fin [] ps).map String.ofList, fin.skip⟩, rest)

/-- The rest of a word such as `null`; all that is read of a broken one is its fault. -/
def word (value : Document) : List Char → List Char → Document × List Char
  | [], cs => (value, cs)
  | _ :: _, [] => (.broken (.both .endInValue), [])
  | p :: ps, c :: cs => if p = c then word value ps cs else (.broken (.both .identExpected), [])

/-- A number that breaks off: only a reader tells the end of the text from a wrong character. -/
def brokenNumber (rest : List Char) : Document × List Char :=
  (.broken (if rest.isEmpty then ⟨.endInValue, .invalidNumber⟩ else .both .invalidNumber), [])

def exponentPart (negative : Bool) (whole : List Char) (fraction : Option (List Char)) :
    List Char → Document × List Char
  | [] => (.number ⟨negative, whole, fraction, none⟩, [])
  | c :: cs =>
    if c = 'e' ∨ c = 'E' then
      let (minus, cs) := match cs with
        | '+' :: cs => (false, cs)
        | '-' :: cs => (true, cs)
        | _ => (false, cs)
      let ds := cs.takeWhile Char.isDigit
      let rest := cs.dropWhile Char.isDigit
      if ds.isEmpty then brokenNumber rest
      else (.number ⟨negative, whole, fraction, some (minus, ds)⟩, rest)
    else (.number ⟨negative, whole, fraction, none⟩, c :: cs)

def fractionPart (negative : Bool) (whole : List Char) : List Char → Document × List Char
  | '.' :: cs =>
    let ds := cs.takeWhile Char.isDigit
    let rest := cs.dropWhile Char.isDigit
    if ds.isEmpty then brokenNumber rest else exponentPart negative whole (some ds) rest
  | cs => exponentPart negative whole none cs

/-- A number after its sign. No digit follows a leading zero. -/
def numeral (negative : Bool) : List Char → Document × List Char
  | [] => brokenNumber []
  | c :: cs =>
    if c = '0' then
      if (cs.head?.map Char.isDigit).getD false then brokenNumber cs
      else fractionPart negative [c] cs
    else if c.isDigit then
      fractionPart negative (c :: cs.takeWhile Char.isDigit) (cs.dropWhile Char.isDigit)
    else brokenNumber (c :: cs)

mutual

/-- A value, the arrays and objects around it counted by `level`. -/
def value : Nat → Nat → List Char → Document × List Char
  | 0, _, cs => (.nothing, cs)
  | fuel + 1, level, cs =>
    match skipBlank cs with
    | [] => (.nothing, [])
    | 'n' :: rest => word .null ['u', 'l', 'l'] rest
    | 't' :: rest => word (.bool true) ['r', 'u', 'e'] rest
    | 'f' :: rest => word (.bool false) ['a', 'l', 's', 'e'] rest
    | '-' :: rest => numeral true rest
    | '"' :: rest =>
      let (s, rest) := literal rest
      (.string s, rest)
    | '[' :: rest =>
      let (items, rest) := items fuel (level + 1) true rest
      (.array (level + 1) items, rest)
    | '{' :: rest =>
      let (members, rest) := members fuel (level + 1) true rest
      (.object (level + 1) members, rest)
    | c :: rest =>
      if c.isDigit then numeral false (c :: rest) else (.broken (.both .valueExpected), [])

/-- The items of an array from the first one or from behind an item. -/
def items : Nat → Nat → Bool → List Char → Items × List Char
  | 0, _, _, cs => (.close, cs)
  | fuel + 1, level, first, cs =>
    match first, skipBlank cs with
    | _, [] => (.stop (.both .endInList), [])
    | _, ']' :: rest => (.close, rest)
    | true, rest => item fuel level rest
    | false, ',' :: rest =>
      match skipBlank rest with
      | [] => (.stop (.both .endInValue), [])
      | ']' :: _ => (.stop ⟨.trailingComma, .valueExpected⟩, [])
      | rest => item fuel level rest
    | false, _ => (.stop (.both .listCommaExpected), [])

def item : Nat → Nat → List Char → Items × List Char
  | 0, _, cs => (.close, cs)
  | fuel + 1, level, cs =>
    let (head, rest) := value fuel level cs
    let (tail, rest) := items fuel level false rest
    (.item head tail, rest)

/-- The members of an object from the first one or from behind a member. -/
def members : Nat → Nat → Bool → List Char → Members × List Char
  | 0, _, _, cs => (.close, cs)
  | fuel + 1, level, first, cs =>
    match first, skipBlank cs with
    | _, [] => (.stop (.both .endInObject), [])
    | _, '}' :: rest => (.close, rest)
    | true, '"' :: rest => member fuel level rest
    | true, rest => (.misfit (value fuel level rest).1, [])
    | false, ',' :: rest =>
      match skipBlank rest with
      | [] => (.stop ⟨.endInValue, .endInObject⟩, [])
      | '}' :: _ => (.stop ⟨.trailingComma, .keyNotString⟩, [])
      | '"' :: rest => member fuel level rest
      | rest => (.misfit (value fuel level rest).1, [])
    | false, _ => (.stop (.both .objectCommaExpected), [])

/-- A member after the opening quote of its key, and those behind it. -/
def member : Nat → Nat → List Char → Members × List Char
  | 0, _, cs => (.close, cs)
  | fuel + 1, level, cs =>
    let (key, rest) := literal cs
    match skipBlank rest with
    | ':' :: rest =>
      let (head, rest) := value fuel level rest
      let (tail, rest) := members fuel level false rest
      (.member key head tail, rest)
    | [] => (.member key (.broken (.both .endInObject)) .close, [])
    | _ => (.member key (.broken (.both .colonExpected)) .close, [])

end

/-- The tree of a text, and whether only blanks follow the value. -/
def parse (s : String) : Document × Bool :=
  let cs := s.toList
  let (d, rest) := value (3 * cs.length + 3) 0 cs
  (d, (skipBlank rest).isEmpty)

end Json
end PullDecoration
