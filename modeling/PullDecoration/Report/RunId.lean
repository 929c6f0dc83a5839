import PullDecoration.Json.Codec
import PullDecoration.Text.Slice

/-! Identifiers of decoration passes: 32 hexadecimal digits. They are written in five groups between
hyphens and in lower case, and also read without hyphens, in braces, or behind `urn:uuid:`. -/
namespace PullDecoration

structure RunId where
  digits : List (Fin 16)
  length_digits : digits.length = 32
  deriving DecidableEq

namespace RunId

/-- Why a text is no run identifier; characters and groups are told by their place. -/
inductive ParseError
  | character (c : Char) (place : Nat)
  | plainLength (length : Nat)
  | groupCount (count : Nat)
  | groupLength (group length : Nat)
  deriving DecidableEq

def groupLengths : List Nat := [8, 4, 4, 4, 12]

def number (n : Nat) : String := String.ofList (Text.decimal n)

def ParseError.message : ParseError → String
  | .character c place =>
    "invalid character: expected an optional prefix of `urn:uuid:` followed by [0-9a-fA-F-], found `" ++
      String.singleton c ++ "` at " ++ number place
  | .plainLength n => "invalid length: expected length 32 for simple format, found " ++ number n
  | .groupCount n => "invalid group count: expected 5, found " ++ number n
  | .groupLength group n =>
    "invalid group length in group " ++ number group ++ ": expected " ++
      number (groupLengths.getD group 12) ++ ", found " ++ number n

/-- An identifier of drawn numbers, but for the two digits that mark it as drawn. -/
def ofDrawn (draw : Nat → Nat) : RunId :=
  let digit (i : Nat) : Nat := if i = 12 then 4 else if i = 16 then 8 + draw i % 4 else draw i
  ⟨(List.range 32).map fun i => Fin.ofNat 16 (digit i), by simp⟩

def digit? (c : Char) : Option (Fin 16) := (Text.hexValue? c).map (Fin.ofNat 16)

/-- The digits without hyphens. -/
def plain? (cs : List Char) : Option RunId :=
  match cs.mapM digit? with
  | none => none
  | some ds => if h : ds.length = 32 then some ⟨ds, h⟩ else none

def hyphenated? (cs : List Char) : Option RunId :=
  let groups := Text.parts '-' cs
  if groups.map List.length = groupLengths then plain? groups.flatten else none

/-- The text inside braces or behind `urn:uuid:`, and how many characters stand before it. -/
def unwrap (cs : List Char) : List Char × Nat :=
  match cs with
  | '{' :: rest => if rest.getLast? = some '}' then (rest.dropLast, 1) else (cs, 0)
  | _ => match Text.dropLead? "urn:uuid:".toList cs with
    | some rest => (rest, 9)
    | none => (cs, 0)

/-- The first character that is neither a digit nor a hyphen, with the number of octets before it. -/
def stranger? (octets : Nat) : List Char → Option (Char × Nat)
  | [] => none
  | c :: cs =>
    if c = '-' ∨ (Text.hexValue? c).isSome then stranger? (octets + 1) cs else some (c, octets)

/-- The first of the groups that is too long or too short. -/
def wrongGroup (number : Nat) : List Nat → List (List Char) → Nat × Nat
  | n :: ns, g :: gs => if g.length = n then wrongGroup (number + 1) ns gs else (number, g.length)
  | _, _ => (number - 1, 0)

/-- What is wrong with a text that holds no identifier. -/
def diagnose (cs : List Char) : ParseError :=
  let (body, offset) := unwrap cs
  match stranger? 0 body with
  | some (c, octets) => .character c (octets + offset + 1)
  | none =>
    let groups := Text.parts '-' body
    if groups.length = 1 ∧ offset = 0 then .plainLength cs.length
    else if groups.length ≠ 5 then .groupCount groups.length
    else
      let (group, length) := wrongGroup 0 groupLengths groups
      .groupLength group (if group = 4 then length + (cs.length - body.length) else length)

def ofChars (cs : List Char) : Except ParseError RunId :=
  let read (inner : List Char) (id? : Option RunId) : Except ParseError RunId :=
    match id? with
    | some id => .ok id
    | none => .error (diagnose inner)
  let octets := Text.octetCount cs
  let (inner, offset) := unwrap cs
  if octets = 32 then read cs (plain? cs)
  else if octets = 36 then read cs (hyphenated? cs)
  else if (octets = 38 ∧ offset = 1) ∨ (octets = 45 ∧ offset = 9) then read inner (hyphenated? inner)
  else .error (diagnose cs)

def ofString (s : String) : Except ParseError RunId := ofChars s.toList

def chars (ds : List (Fin 16)) : List Char := ds.map fun d => Text.lowerHexDigit d.val

def textChars (id : RunId) : List Char :=
  let ds := chars id.digits
  ds.take 8 ++ '-' :: (ds.drop 8).take 4 ++ '-' :: (ds.drop 12).take 4 ++
    '-' :: (ds.drop 16).take 4 ++ '-' :: ds.drop 20

def text (id : RunId) : String := String.ofList id.textChars

def codec : Json.Codec RunId where
  write id := .string id.text
  read d := do
    let s ← Json.readString "a formatted UUID string" d
    (ofString s).mapError fun e => .refused ("UUID parsing failed: " ++ e.message)

end RunId
end PullDecoration
