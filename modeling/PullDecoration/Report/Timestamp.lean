import PullDecoration.Json.Codec
import PullDecoration.Text.Blank
import PullDecoration.Text.Slice

/-! Points in time to the nanosecond, as date and time of day in UTC. A minute may have a sixtieth second.
Texts follow RFC 3339 with some liberty: blanks may stand between the parts, years may have a sign and
any number of digits, and `T` may be a blank. -/
namespace PullDecoration

structure Date where
  year : Int
  month : Nat
  day : Nat
  deriving DecidableEq, Repr

namespace Date

def isLeapYear (year : Int) : Bool := year % 4 = 0 && (year % 100 ≠ 0 || year % 400 = 0)

def daysInMonth (year : Int) (month : Nat) : Nat :=
  if month = 2 then if isLeapYear year then 29 else 28
  else if month = 4 ∨ month = 6 ∨ month = 9 ∨ month = 11 then 30 else 31

def firstYear : Int := -262143

def lastYear : Int := 262142

def isValid (d : Date) : Bool :=
  firstYear ≤ d.year && d.year ≤ lastYear && 1 ≤ d.month && d.month ≤ 12 && 1 ≤ d.day &&
    d.day ≤ daysInMonth d.year d.month

def next (d : Date) : Date :=
  if d.day < daysInMonth d.year d.month then { d with day := d.day + 1 }
  else if d.month < 12 then { d with month := d.month + 1, day := 1 }
  else ⟨d.year + 1, 1, 1⟩

def previous (d : Date) : Date :=
  if 1 < d.day then { d with day := d.day - 1 }
  else if 1 < d.month then ⟨d.year, d.month - 1, daysInMonth d.year (d.month - 1)⟩
  else ⟨d.year - 1, 12, 31⟩

/-- The date so many days later. -/
def later : Nat → Date → Date
  | 0, d => d
  | n + 1, d => later n d.next

/-- The day from which clocks count. -/
def clockStart : Date := ⟨1970, 1, 1⟩

end Date

/-- The minute counts from midnight; second 60 is one that was put in. -/
structure Timestamp where
  date : Date
  minute : Nat
  second : Nat
  nano : Nat
  valid : date.isValid ∧ minute < 1440 ∧ second ≤ 60 ∧ nano < 1000000000
  deriving DecidableEq

namespace Timestamp

inductive ParseError
  | outOfRange | impossible | invalid | tooShort | tooLong
  deriving DecidableEq, Repr

def ParseError.message : ParseError → String
  | .outOfRange => "input is out of range"
  | .impossible => "no possible date and time matching input"
  | .invalid => "input contains invalid characters"
  | .tooShort => "premature end of input"
  | .tooLong => "trailing input"

def key (t : Timestamp) : List Int :=
  [t.date.year, t.date.month, t.date.day, t.minute, t.second, t.nano]

instance : Ord Timestamp := ⟨fun a b => compare a.key b.key⟩

abbrev Parsed := Except ParseError

/-- At least one digit and at most `most`, as a number of 63 bits. -/
def number (most : Nat) (cs : List Char) : Parsed (Nat × List Char) :=
  let cs := Text.trimStartChars cs
  let ds := (cs.takeWhile Char.isDigit).take most
  match ds, cs with
  | [], [] => .error .tooShort
  | [], _ :: _ => .error .invalid
  | _, _ =>
    let n := Text.digitsValue ds
    if 9223372036854775808 ≤ n then .error .outOfRange else .ok (n, cs.drop ds.length)

/-- A number of at most two digits inside the bounds. -/
def twoDigits (least greatest : Nat) (cs : List Char) : Parsed (Nat × List Char) := do
  let (n, rest) ← number 2 cs
  if n < least ∨ greatest < n then throw .outOfRange
  return (n, rest)

/-- The sign, where it is a minus. -/
def yearNumber (cs : List Char) : Parsed (Int × List Char) := do
  let (y, rest) ← match Text.trimStartChars cs with
    | '-' :: cs => do
      let (n, rest) ← signed cs
      pure (-(n : Int), rest)
    | '+' :: cs => do
      let (n, rest) ← signed cs
      pure ((n : Int), rest)
    | cs => do
      let (n, rest) ← number 4 cs
      pure ((n : Int), rest)
  if y < -2147483648 ∨ 2147483648 ≤ y then throw .outOfRange
  return (y, rest)
where
  /-- Digits right behind a sign. -/
  signed (cs : List Char) : Parsed (Nat × List Char) :=
    match cs with
    | [] => .error .tooShort
    | c :: _ => if c.isDigit then number cs.length cs else .error .invalid

/-- A mark, with blanks before it. -/
def mark (c : Char) (cs : List Char) : Parsed (List Char) :=
  match Text.trimStartChars cs with
  | [] => .error .tooShort
  | d :: rest => if d = c then .ok rest else .error .invalid

/-- Decimals of a second: nine digits count. -/
def decimals (cs : List Char) : Parsed (Nat × List Char) :=
  match cs with
  | '.' :: rest =>
    let ds := rest.takeWhile Char.isDigit
    match ds, rest with
    | [], [] => .error .tooShort
    | [], _ :: _ => .error .invalid
    | _, _ =>
      let nine := ds.take 9
      .ok (Text.digitsValue nine * Nat.pow 10 (9 - nine.length), rest.drop ds.length)
  | _ => .ok (0, cs)

/-- Two digits; the text must go on for two octets. -/
def pair (cs : List Char) : Parsed (Nat × List Char) :=
  match cs with
  | a :: b :: rest =>
    if a.isDigit ∧ b.isDigit then .ok (Text.digitsValue [a, b], rest) else .error .invalid
  | [a] => if a.utf8Size < 2 then .error .tooShort else .error .invalid
  | [] => .error .tooShort

/-- The distance from UTC in minutes, and whether the place lies behind UTC. -/
def offset (cs : List Char) : Parsed (Bool × Nat × List Char) :=
  let cs := Text.trimStartChars cs
  let isUtc := (cs.take 3).map Char.toUpper = ['U', 'T', 'C']
  if isUtc then .ok (false, 0, cs.drop 3)
  else match cs with
    | [] => .error .tooShort
    | 'Z' :: rest | 'z' :: rest => .ok (false, 0, rest)
    | '+' :: rest => distance false rest
    | '-' :: rest | '\u2212' :: rest => distance true rest
    | _ => .error .invalid
where
  distance (behind : Bool) (cs : List Char) : Parsed (Bool × Nat × List Char) := do
    let (hours, rest) ← pair cs
    let (minutes, rest) ← pair (rest.dropWhile fun c => c = ':' || Text.isBlankChar c)
    if 59 < minutes then throw .outOfRange
    return (behind, 60 * hours + minutes, rest)

/-- The point in UTC at which a clock that far from UTC shows this date and time. -/
def ofLocal (date : Date) (minute second nano : Nat) (behind : Bool) (distance : Nat) :
    Parsed Timestamp :=
  let shifted : Int := if behind then minute + distance else minute - distance
  let (date, minute) :=
    if shifted < 0 then (date.previous, (shifted + 1440).toNat)
    else if 1440 ≤ shifted then (date.next, (shifted - 1440).toNat)
    else (date, shifted.toNat)
  if h : date.isValid ∧ minute < 1440 ∧ second ≤ 60 ∧ nano < 1000000000 then
    .ok ⟨date, minute, second, nano, h⟩
  else .error .impossible

def ofString (s : String) : Parsed Timestamp := do
  let (year, cs) ← yearNumber s.toList
  let (month, cs) ← twoDigits 1 12 (← mark '-' cs)
  let (day, cs) ← twoDigits 1 31 (← mark '-' cs)
  let cs ← match cs with
    | [] => throw .tooShort
    | c :: cs => if c = 'T' ∨ c = 't' ∨ c = ' ' then pure cs else throw .invalid
  let (hour, cs) ← twoDigits 0 23 cs
  let (minute, cs) ← twoDigits 0 59 (← mark ':' cs)
  let (second, cs) ← twoDigits 0 60 (← mark ':' cs)
  let (nano, cs) ← decimals cs
  let (behind, distance, cs) ← offset cs
  if !(Text.trimStartChars cs).isEmpty then throw .tooLong
  let date : Date := ⟨year, month, day⟩
  if !date.isValid ∨ 1440 ≤ distance then throw .outOfRange
  ofLocal date (60 * hour + minute) second nano behind distance

/-- What a clock shows that counts seconds from the start of 1970. -/
def ofClock? (seconds nano : Nat) : Option Timestamp :=
  let date := Date.later (seconds / 86400) Date.clockStart
  let minute := seconds % 86400 / 60
  if h : date.isValid ∧ minute < 1440 ∧ seconds % 60 ≤ 60 ∧ nano < 1000000000 then
    some ⟨date, minute, seconds % 60, nano, h⟩
  else none

/-- The numeral with zeros in front of it up to the width. -/
def padded (width n : Nat) : List Char :=
  let ds := Text.decimal n
  List.replicate (width - ds.length) '0' ++ ds

/-- Years of four digits have no sign, all others have one. -/
def yearChars (year : Int) : List Char :=
  if year < 0 then '-' :: padded 4 year.natAbs
  else if 9999 < year then '+' :: padded 4 year.natAbs
  else padded 4 year.natAbs

/-- No decimals, or as many groups of three as are needed. -/
def decimalChars (nano : Nat) : List Char :=
  if nano = 0 then []
  else if nano % 1000000 = 0 then '.' :: padded 3 (nano / 1000000)
  else if nano % 1000 = 0 then '.' :: padded 6 (nano / 1000)
  else '.' :: padded 9 nano

def localChars (t : Timestamp) : List Char :=
  yearChars t.date.year ++ '-' :: padded 2 t.date.month ++ '-' :: padded 2 t.date.day ++
    'T' :: padded 2 (t.minute / 60) ++ ':' :: padded 2 (t.minute % 60) ++
    ':' :: padded 2 t.second ++ decimalChars t.nano

/-- With the offset of UTC in digits. -/
def text (t : Timestamp) : String := String.ofList (t.localChars ++ "+00:00".toList)

def codec : Json.Codec Timestamp where
  write t := .string (String.ofList (t.localChars ++ ['Z']))
  read d := do
    let s ← Json.readString "an RFC 3339 formatted date and time string" d
    (ofString s).mapError fun e => .refused e.message

end Timestamp
end PullDecoration
