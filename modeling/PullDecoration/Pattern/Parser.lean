import PullDecoration.Pattern.Error
import PullDecoration.Pattern.Tree
import PullDecoration.Text.Blank
import PullDecoration.Text.Natural
import PullDecoration.Text.Slice
import PullDecoration.Unicode.Property

/-! Reading patterns. In spaced patterns blanks and comments between the parts count for nothing. -/
namespace PullDecoration
namespace Pattern

/-- Where the reader stands: the text to come, whether blanks are passed over, and the group names so
far. -/
structure Cursor where
  rest : List Char
  spaced : Bool
  names : List String

abbrev Reader := StateT Cursor (Except PatternError)

/-- Without blanks and comments at the start. A comment ends with its line. -/
def skipSpace : Bool → List Char → List Char
  | _, [] => []
  | false, c :: cs =>
    if Text.isBlankChar c then skipSpace false cs
    else if c = '#' then skipSpace true cs
    else c :: cs
  | true, c :: cs => skipSpace (c ≠ '\n') cs

namespace Reader

def peek : Reader (Option Char) := do return (← get).rest.head?

def space : Reader Unit := modify fun c =>
  if c.spaced then { c with rest := skipSpace false c.rest } else c

/-- Passes over a character. -/
def bump : Reader Unit := modify fun c => { c with rest := c.rest.drop 1 }

def bumpSpace : Reader Unit := do bump; space

/-- Passes over a character and what may be skipped behind it; something must follow. -/
def bumpTo (e : PatternError) : Reader Char := do
  bumpSpace
  match ← peek with
  | some c => return c
  | none => throw e

/-- Passes over characters that satisfy `p` and what may be skipped behind each. -/
def takeWhile (p : Char → Bool) : Reader (List Char) := do
  go (← get).rest.length []
where
  /-- The characters so far in reverse. -/
  go : Nat → List Char → Reader (List Char)
    | 0, acc => return acc.reverse
    | n + 1, acc => do
      match ← peek with
      | some c => if p c then bumpSpace; go n (c :: acc) else return acc.reverse
      | none => return acc.reverse

/-- A number of 32 bits, with blanks around it. -/
def decimal : Reader (Option Nat) := do
  modify fun c => { c with rest := c.rest.dropWhile Text.isBlankChar }
  let ds ← takeWhile Char.isDigit
  let _ ← takeWhile Text.isBlankChar
  if ds.isEmpty then return none
  let n := Text.digitsValue ds
  if n < UInt32.size then return some n else throw .decimalInvalid

def charOfHex (ds : List Char) : Reader Char :=
  match Text.hexDigitsValue? ds with
  | some n =>
    if n.isValidChar then return Char.ofNat n else throw .escapeHexInvalid
  | none => throw .escapeHexInvalidDigit

/-- Hexadecimal digits, `count` of them from the one at the cursor on. -/
def hexDigits : Nat → Reader (List Char)
  | 0 => return []
  | n + 1 => do
    let some c ← peek | throw .escapeUnfinished
    if (Text.hexValue? c).isNone then throw .escapeHexInvalidDigit
    bumpSpace
    return c :: (← hexDigits n)

/-- A character by number, behind `x`, `u` or `U`. -/
def hexEscape (count : Nat) : Reader Sign := do
  if (← bumpTo .escapeUnfinished) = '{' then
    bumpSpace
    let ds ← takeWhile (· ≠ '}')
    if ds.any fun d => (Text.hexValue? d).isNone then throw .escapeHexInvalidDigit
    if (← peek).isNone then throw .escapeUnfinished
    bumpSpace
    if ds.isEmpty then throw .escapeHexEmpty
    return ⟨← charOfHex ds, false⟩
  else
    return ⟨← charOfHex (← hexDigits count), count = 2⟩

def propertyOf (name : List Char) : PropertyQuery :=
  match cutNotEqual name with
  | some (p, v) => .value (String.ofList p) (String.ofList v)
  | none => match (Text.cut? ':' name).or (Text.cut? '=' name) with
    | some (p, v) => .value (String.ofList p) (String.ofList v)
    | none => .name (String.ofList name)
where
  /-- The text around the first `!=`. -/
  cutNotEqual : List Char → Option (List Char × List Char)
    | '!' :: '=' :: rest => some ([], rest)
    | c :: rest => (cutNotEqual rest).map fun p => (c :: p.1, p.2)
    | [] => none

/-- A Unicode class, behind `p`. -/
def propertyEscape : Reader PropertyQuery := do
  let c ← bumpTo .escapeUnfinished
  if c = '{' then
    bumpSpace
    let name ← takeWhile (· ≠ '}')
    if (← peek).isNone then throw .escapeUnfinished
    bump
    return propertyOf name
  else if c = '\\' then throw .propertyInvalid
  else
    bumpSpace
    return .letter c

def isWordEdgeChar (c : Char) : Bool := c.isAlpha || c = '-'

/-- The kind of word edge in braces behind `\b`; in its place may stand a count. -/
def wordEdgeKind : Reader Anchor := do
  if (← peek) ≠ some '{' then return .wordEdge
  let start ← get
  let c ← bumpTo .wordEdgeUnfinished
  if !isWordEdgeChar c then
    set start
    return .wordEdge
  let name ← takeWhile isWordEdgeChar
  if (← peek) ≠ some '}' then throw .wordEdgeUnclosed
  bump
  match String.ofList name with
  | "start" => return .wordStart
  | "end" => return .wordEnd
  | "start-half" => return .wordStartHalf
  | "end-half" => return .wordEndHalf
  | _ => throw .wordEdgeUnrecognized

end Reader

/-- What a backslash and the text behind it stand for. -/
inductive Escape
  | sign (s : Sign)
  | anchor (a : Anchor)
  | shorthand (kind : Shorthand) (negated : Bool)
  | property (query : PropertyQuery) (negated : Bool)

/-- Characters that stand for themselves behind a backslash. -/
def isEscapable (c : Char) : Bool :=
  c.toNat < 128 && !c.isAlphanum && c ≠ '<' && c ≠ '>'

open Reader

/-- An escape, from its backslash on. -/
def escape : Reader Escape := do
  bump
  let some c ← peek | throw .escapeUnfinished
  let sign (d : Char) : Reader Escape := do bump; return .sign ⟨d, false⟩
  let anchor (a : Anchor) : Reader Escape := do bump; return .anchor a
  let shorthand (k : Shorthand) (negated : Bool) : Reader Escape := do
    bump; return .shorthand k negated
  match c with
  | 'x' => return .sign (← hexEscape 2)
  | 'u' => return .sign (← hexEscape 4)
  | 'U' => return .sign (← hexEscape 8)
  | 'p' => return .property (← propertyEscape) false
  | 'P' => return .property (← propertyEscape) true
  | 'd' => shorthand .digit false
  | 'D' => shorthand .digit true
  | 's' => shorthand .space false
  | 'S' => shorthand .space true
  | 'w' => shorthand .word false
  | 'W' => shorthand .word true
  | 'a' => sign '\x07'
  | 'f' => sign '\x0c'
  | 't' => sign '\t'
  | 'n' => sign '\n'
  | 'r' => sign '\r'
  | 'v' => sign '\x0b'
  | 'A' => anchor .textStart
  | 'z' => anchor .textEnd
  | 'B' => anchor .noWordEdge
  | '<' => anchor .wordStart
  | '>' => anchor .wordEnd
  | 'b' => do bump; return .anchor (← wordEdgeKind)
  | c =>
    if c.isDigit then throw .backreference
    else if isEscapable c then sign c
    else throw .escapeUnrecognized

/-- A character or a class inside brackets. -/
def classItem : Reader ClassTree := do
  match ← peek with
  | some '\\' => match ← escape with
    | .sign s => return .sign s
    | .shorthand k negated => return .shorthand k negated
    | .property q negated => return .property q negated
    | .anchor _ => throw .classEscapeInvalid
  | some c => do bump; return .sign ⟨c, false⟩
  | none => throw .classUnclosed

/-- The character behind the one at the cursor and behind blanks, if those are passed over. -/
def peekPast (c : Cursor) : Option Char :=
  let next := c.rest.drop 1
  if !c.spaced then next.head?
  else
    match next.dropWhile Text.isBlankChar with
    | '#' :: comment => match comment.dropWhile Text.isBlankChar with
      | d :: _ => some d
      | [] => next.head?
    | d :: _ => some d
    | [] => next.head?

/-- An item of a class, or a range of characters. -/
def classRange : Reader ClassTree := do
  let low ← classItem
  space
  let some c ← peek | throw .classUnclosed
  let past := peekPast (← get)
  if c ≠ '-' ∨ past = some ']' ∨ past = some '-' then return low
  let _ ← bumpTo .classUnclosed
  match low, ← classItem with
  | .sign l, .sign h => if l.char ≤ h.char then return .range l h else throw .classRangeInvalid
  | _, _ => throw .classRangeLiteral

/-- The names of ASCII classes. -/
def posixNames : List String :=
  ["alnum", "alpha", "ascii", "blank", "cntrl", "digit", "graph", "lower", "print", "punct", "space",
    "upper", "word", "xdigit"]

/-- An ASCII class such as `[:alpha:]`, and the text behind it. -/
def posixClass? (cs : List Char) : Option (ClassTree × List Char) :=
  match cs with
  | '[' :: ':' :: cs =>
    let (negated, cs) := match cs with
      | '^' :: cs => (true, cs)
      | _ => (false, cs)
    let name := String.ofList (cs.takeWhile (· ≠ ':'))
    match cs.dropWhile (· ≠ ':') with
    | ':' :: ']' :: rest => if name ∈ posixNames then some (.posix name negated, rest) else none
    | _ => none
  | _ => none

/-- The start of a class from its bracket on: whether it is negated, and the items that may only stand
there. -/
def classStart : Reader (Bool × List ClassTree) := do
  let c ← bumpTo .classUnclosed
  let negated := c = '^'
  if negated then let _ ← bumpTo .classUnclosed
  let dashes ← takeWhile (· = '-')
  if (← peek).isNone then throw .classUnclosed
  let items := dashes.map fun d => ClassTree.sign ⟨d, false⟩
  if items.isEmpty ∧ (← peek) = some ']' then
    let _ ← bumpTo .classUnclosed
    return (negated, [.sign ⟨']', false⟩])
  return (negated, items)

/-- The operation that two characters stand for. -/
def setOp? : List Char → Option SetOp
  | '&' :: '&' :: _ => some .intersection
  | '-' :: '-' :: _ => some .difference
  | '~' :: '~' :: _ => some .symmetricDifference
  | _ => none

/-- Joins the items read last with the operation before them. -/
def joined (before : Option (ClassTree × SetOp)) (items : List ClassTree) : ClassTree :=
  match before with
  | none => .ofUnion items
  | some (left, op) => .op op left (.ofUnion items)

mutual

/-- A class in brackets. -/
def classTree : Nat → Reader ClassTree
  | 0 => throw .nestedTooDeep
  | fuel + 1 => do
    let (negated, items) ← classStart
    let inside ← classInside fuel none items
    return .bracket negated inside

/-- The inside of a class up to its closing bracket; `items` were read since the last operation. -/
def classInside : Nat → Option (ClassTree × SetOp) → List ClassTree → Reader ClassTree
  | 0, _, _ => throw .nestedTooDeep
  | fuel + 1, before, items => do
    space
    let cursor ← get
    match cursor.rest with
    | [] => throw .classUnclosed
    | '[' :: _ =>
      match posixClass? cursor.rest with
      | some (c, rest) =>
        set { cursor with rest }
        classInside fuel before (items ++ [c])
      | none =>
        let c ← classTree fuel
        classInside fuel before (items ++ [c])
    | ']' :: _ =>
      bump
      return joined before items
    | _ =>
      match setOp? cursor.rest with
      | some op =>
        set { cursor with rest := cursor.rest.drop 2 }
        classInside fuel (some (joined before items, op)) []
      | none =>
        let c ← classRange
        classInside fuel before (items ++ [c])

end

def flag? : Char → Option Flag
  | 'i' => some .caseless
  | 'm' => some .multiline
  | 's' => some .dotAll
  | 'U' => some .swapGreed
  | 'u' => some .unicode
  | 'R' => some .crlf
  | 'x' => some .spaced
  | _ => none

/-- Flags up to a colon or a closing parenthesis. -/
def flags (change : FlagChange) (negated dangling : Bool) : List Char →
    Except PatternError (FlagChange × List Char)
  | [] => .error .flagUnfinished
  | c :: cs =>
    if c = ':' ∨ c = ')' then
      if dangling then .error .flagDanglingNegation else .ok (change, c :: cs)
    else if c = '-' then
      if negated then .error .flagRepeatedNegation else flags change true true cs
    else match flag? c with
      | none => .error .flagUnrecognized
      | some f =>
        if (change.get? f).isSome then .error .flagDuplicate
        else flags (change ++ [(f, !negated)]) negated false cs

def isNameStart (c : Char) : Bool := c = '_' || Unicode.isAlphabetic c

def isNumeric (c : Char) : Bool := (Unicode.category c).letters.1 = 'N'

def isNameChar (c : Char) : Bool :=
  isNameStart c || isNumeric c || c = '.' || c = '[' || c = ']'

/-- The name of a group up to its closing mark. -/
def groupName : Reader Unit := do
  let cursor ← get
  let name := cursor.rest.takeWhile (· ≠ '>')
  match name with
  | [] => throw (if cursor.rest.isEmpty then .groupNameUnfinished else .groupNameEmpty)
  | c :: cs => if !isNameStart c ∨ !cs.all isNameChar then throw .groupNameInvalid
  match cursor.rest.drop name.length with
  | [] => throw .groupNameUnfinished
  | _ :: rest =>
    let text := String.ofList name
    if text ∈ cursor.names then throw .groupNameDuplicate
    set { cursor with rest, names := text :: cursor.names }

/-- What opens a group: flags alone, up to the closing parenthesis, or flags of what follows. -/
inductive Opening
  | alone (change : FlagChange)
  | group (change : FlagChange)

def opening : Reader Opening := do
  bump
  space
  let cursor ← get
  match cursor.rest with
  | '?' :: '=' :: _ | '?' :: '!' :: _ | '?' :: '<' :: '=' :: _ | '?' :: '<' :: '!' :: _ =>
    throw .lookaround
  | '?' :: 'P' :: '<' :: rest | '?' :: '<' :: rest =>
    set { cursor with rest }
    groupName
    return .group []
  | ['?'] => throw .groupUnclosed
  | '?' :: rest =>
    let (change, rest) ← flags [] false false rest
    match rest with
    | ')' :: rest =>
      if change.isEmpty then throw .nothingToRepeat
      set { cursor with rest }
      return .alone change
    | _ =>
      set { cursor with rest := rest.drop 1 }
      return .group change
  | _ => return .group []

/-- What a repetition applies to, and the items before it; `acc` is in reverse. -/
def repeatable (acc : List Tree) : Reader (Tree × List Tree) :=
  match acc with
  | [] | .empty :: _ | .flags _ :: _ => throw .nothingToRepeat
  | t :: acc => return (t, acc)

/-- A question mark behind a repetition asks for short matches; whether there is a match is the same. -/
def skipLazy : Reader Unit := do
  if (← peek) = some '?' then bump

/-- A count in braces, from the opening one on. -/
def count : Reader (Nat × Option Nat) := do
  let _ ← bumpTo .countUnclosed
  let least ← decimal
  let bounds ← match ← peek with
    | none => throw .countUnclosed
    | some ',' =>
      if (← bumpTo .countUnclosed) = '}' then
        let some least := least | throw .countEmpty
        pure (least, none)
      else
        let some least := least | throw .countEmpty
        let some most ← decimal | throw .countEmpty
        pure (least, some most)
    | some _ =>
      let some n := least | throw .countEmpty
      pure (n, some n)
  if (← peek) ≠ some '}' then throw .countUnclosed
  bumpSpace
  skipLazy
  if bounds.2.any (· < bounds.1) then throw .countInvalid
  return bounds

def primitive (c : Char) : Reader Tree := do
  match c with
  | '\\' => match ← escape with
    | .sign s => return .sign s
    | .anchor a => return .anchor a
    | .shorthand k negated => return .cls (.shorthand k negated)
    | .property q negated => return .cls (.property q negated)
  | '.' => do bump; return .dot
  | '^' => do bump; return .anchor .lineStart
  | '$' => do bump; return .anchor .lineEnd
  | c => do bump; return .sign ⟨c, false⟩

mutual

/-- Alternatives up to a closing parenthesis or the end. -/
def alternatives : Nat → List Tree → Reader Tree
  | 0, _ => throw .nestedTooDeep
  | fuel + 1, acc => do
    let t ← concatenation fuel []
    if (← peek) = some '|' then
      bump
      alternatives fuel (t :: acc)
    else return .ofAlternatives (t :: acc).reverse

/-- Items one behind the other; `acc` are those so far in reverse. -/
def concatenation : Nat → List Tree → Reader Tree
  | 0, _ => throw .nestedTooDeep
  | fuel + 1, acc => do
    space
    match ← peek with
    | none | some ')' | some '|' => return .ofConcat acc.reverse
    | some '(' =>
      match ← opening with
      | .alone change =>
        modify fun c => { c with spaced := (change.get? .spaced).getD c.spaced }
        concatenation fuel (.flags change :: acc)
      | .group change =>
        let outside := (← get).spaced
        modify fun c => { c with spaced := (change.get? .spaced).getD c.spaced }
        let body ← alternatives fuel []
        if (← peek).isNone then throw .groupUnclosed
        bump
        modify ({ · with spaced := outside })
        concatenation fuel (.group change body :: acc)
    | some '[' =>
      let c ← classTree fuel
      concatenation fuel (.cls c :: acc)
    | some '?' => again 0 (some 1) fuel acc
    | some '*' => again 0 none fuel acc
    | some '+' => again 1 none fuel acc
    | some '{' =>
      let (t, acc) ← repeatable acc
      let (least, most) ← count
      concatenation fuel (.repeated t least most :: acc)
    | some c =>
      let t ← primitive c
      concatenation fuel (t :: acc)

/-- A repetition by a single mark. -/
def again (least : Nat) (most : Option Nat) : Nat → List Tree → Reader Tree
  | 0, _ => throw .nestedTooDeep
  | fuel + 1, acc => do
    let (t, acc) ← repeatable acc
    bump
    skipLazy
    concatenation fuel (.repeated t least most :: acc)

end

/-- The greatest depth at which groups, classes and repetitions are nested. -/
def depthLimit : Nat := 250

def parse (s : String) : Except PatternError Tree := do
  let cs := s.toList
  let (t, cursor) ← (alternatives (4 * cs.length + 8) []).run ⟨cs, false, []⟩
  if !cursor.rest.isEmpty then throw .groupUnopened
  if depthLimit < t.depth then throw .nestedTooDeep
  return t

end Pattern
end PullDecoration
