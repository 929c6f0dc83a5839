import PullDecoration.Json.Document

/-! The number that a numeral stands for. Integers of 64 bits are exact. All others are doubles,
made from the leading digits that fit into 64 bits and one multiplication or division by a power of
ten; so the last place may differ from that of the nearest double. -/
namespace PullDecoration
namespace Json

inductive Number
  | natural (n : Nat)
  | negative (n : Nat)
  | real (x : Double)
  deriving DecidableEq, Repr

def maxUInt64 : Nat := UInt64.size - 1

/-- Digits gathered below `2 ^ 64`, and how many were left. -/
def gatherDigits (value : Nat) : List Char → Nat × Nat
  | [] => (value, 0)
  | c :: cs =>
    let next := 10 * value + (c.toNat - '0'.toNat)
    if maxUInt64 < next then (value, cs.length + 1) else gatherDigits next cs

/-- The greatest exponent that is read as a number. -/
def exponentBound : Nat := 2147483647

/-- The double `± value * 10 ^ exponent`, one power of at most 308 at a time. -/
def scaleByTen (fuel : Nat) (x : Double) (exponent : Int) : Except SyntaxError Double :=
  if exponent.natAbs ≤ 308 then
    match Double.powerOfTen? exponent.natAbs with
    | none => .error .numberOutOfRange
    | some power =>
      match if 0 ≤ exponent then x.times? power else x.over? power with
      | some y => .ok y
      | none => .error .numberOutOfRange
  else if x.mantissa = 0 then .ok x
  else if 0 ≤ exponent then .error .numberOutOfRange
  else match fuel, Double.powerOfTen? 308 with
    | fuel + 1, some power =>
      match x.over? power with
      | some y => scaleByTen fuel y (exponent + 308)
      | none => .error .numberOutOfRange
    | _, _ => .ok (Double.zero x.negative)

def realOf (negative : Bool) (value : Nat) (exponent : Int) : Except SyntaxError Double :=
  match Double.ofQuotient? negative value 1 with
  | some x => scaleByTen 4 x exponent
  | none => .error .numberOutOfRange

/-- An exponent past 31 bits makes zero or is out of range. -/
def withExponent (negative : Bool) (value : Nat) (start : Int) :
    Option (Bool × List Char) → Except SyntaxError Double
  | none => realOf negative value start
  | some (minus, ds) =>
    let e := Text.digitsValue ds
    if exponentBound < e then
      if value ≠ 0 ∧ !minus then .error .numberOutOfRange else .ok (Double.zero negative)
    else realOf negative value (if minus then start - e else start + e)

def Numeral.number (n : Numeral) : Except SyntaxError Number :=
  let (value, left) := gatherDigits 0 n.whole
  match n.fraction, n.exponent with
  | none, none =>
    if left = 0 ∧ !n.negative then .ok (.natural value)
    else if left = 0 ∧ 0 < value ∧ value ≤ 9223372036854775808 then .ok (.negative value)
    else (realOf n.negative value left).map .real
  | none, exponent => (withExponent n.negative value left exponent).map .real
  | some ds, exponent =>
    let (all, unread) := gatherDigits value ds
    (withExponent n.negative all (left - (ds.length - unread : Nat)) exponent).map .real

end Json
end PullDecoration
