import PullDecoration.Text.Natural

/-! Numbers of double precision: a sign and `mantissa * 2 ^ exponent` with a mantissa below `2 ^ 53`.
Rounding goes to the nearest such number and from a tie to the even mantissa. The shortest decimal of
a number is the one with the fewest digits that still rounds to it, the nearer of two of one length. -/
namespace PullDecoration
namespace Json

structure Double where
  negative : Bool
  mantissa : Nat
  exponent : Int
  deriving DecidableEq, Repr

namespace Double

/-- The smallest exponent, that of the subnormal numbers. -/
def leastExponent : Int := -1074

/-- The smallest mantissa with all binary places. -/
def smallestFull : Nat := 4503599627370496

/-- `a * 2 ^ e` as a quotient of naturals. -/
def scale (a : Nat) (e : Int) : Nat × Nat :=
  if e < 0 then (a, Nat.pow 2 e.natAbs) else (a * Nat.pow 2 e.natAbs, 1)

/-- The quotient rounded to the nearest natural, from a tie to the even one. -/
def roundQuotient (num den : Nat) : Nat :=
  let q := num / den
  let r := num % den
  if 2 * r < den then q else if den < 2 * r then q + 1 else q + q % 2

/-- The exponent that leaves 53 binary places to the integral part of `num / den`. -/
def exponentFor (num den : Nat) : Int :=
  let guess : Int := (num.log2 : Int) - den.log2 - 52
  let small := if guess < 0 then num * Nat.pow 2 guess.natAbs < den * smallestFull
    else num < den * Nat.pow 2 guess.natAbs * smallestFull
  max leastExponent (if small then guess - 1 else guess)

/-- The double nearest to `num / den`; none from `2 ^ 1024` on. -/
def ofQuotient? (negative : Bool) (num den : Nat) : Option Double :=
  if num = 0 then some ⟨negative, 0, leastExponent⟩
  else
    let e := exponentFor num den
    let m := if e < 0 then roundQuotient (num * Nat.pow 2 e.natAbs) den
      else roundQuotient num (den * Nat.pow 2 e.natAbs)
    let (m, e) := if m = 2 * smallestFull then (smallestFull, e + 1) else (m, e)
    if 971 < e then none else some ⟨negative, m, e⟩

def zero (negative : Bool) : Double := ⟨negative, 0, leastExponent⟩

def times? (x y : Double) : Option Double :=
  let (num, den) := scale (x.mantissa * y.mantissa) (x.exponent + y.exponent)
  ofQuotient? (x.negative != y.negative) num den

def over? (x y : Double) : Option Double :=
  let (num, den) := scale x.mantissa (x.exponent - y.exponent)
  ofQuotient? (x.negative != y.negative) num (den * y.mantissa)

/-- The double nearest to `10 ^ k`. -/
def powerOfTen? (k : Nat) : Option Double := ofQuotient? false (Nat.pow 10 k) 1

/-- The decimal exponent of the leading digit of `num / den`. -/
def decimalExponent (num den : Nat) : Int :=
  let guess : Int := ((num.log2 : Int) - den.log2 - 1) * 30103 / 100000
  let reaches (k : Int) : Bool :=
    if k < 0 then den ≤ num * Nat.pow 10 k.natAbs else den * Nat.pow 10 k.natAbs ≤ num
  if reaches (guess + 2) then guess + 2 else if reaches (guess + 1) then guess + 1
  else if reaches guess then guess else guess - 1

/-- The numbers that round to `x`, as four times a multiple of its last place: both bounds, and
whether they belong to it. -/
def interval (x : Double) : Nat × Nat × Bool :=
  let low := if x.mantissa = smallestFull ∧ x.exponent ≠ leastExponent then 4 * x.mantissa - 1
    else 4 * x.mantissa - 2
  (low, 4 * x.mantissa + 2, x.mantissa % 2 = 0)

/-- The nearest number with the given last decimal place that rounds to `x`. -/
def decimalAt? (x : Double) (place : Int) : Option Nat :=
  let (low, high, closed) := interval x
  let (num, den) := scale 1 (x.exponent - 2)
  let (num, den) := if place < 0 then (num * Nat.pow 10 place.natAbs, den)
    else (num, den * Nat.pow 10 place.natAbs)
  let exact := 4 * x.mantissa * num
  let fits (d : Nat) : Bool :=
    if closed then low * num ≤ d * den && d * den ≤ high * num
    else low * num < d * den && d * den < high * num
  let below := exact / den
  let above := below + 1
  match fits below, fits above with
  | true, true => some (if exact - below * den < above * den - exact then below else above)
  | true, false => some below
  | false, true => some above
  | false, false => none

/-- The digits and the last decimal place of the shortest decimal. -/
def shortest (x : Double) : Nat × Int :=
  let (num, den) := scale x.mantissa x.exponent
  let k := decimalExponent num den
  let found := (List.range 17).findSome? fun (n : Nat) =>
    (decimalAt? x (k - n)).map fun d => (d, k - (n : Int))
  found.getD (0, 0)

/-- Positional decimal text of the digits `ds` with the last place `place`. -/
def positional (ds : List Char) (place : Int) : List Char :=
  if 0 ≤ place then ds ++ List.replicate place.natAbs '0'
  else
    let whole := ds.length - place.natAbs
    if 0 < whole then ds.take whole ++ '.' :: ds.drop whole
    else '0' :: '.' :: (List.replicate (place.natAbs - ds.length) '0' ++ ds)

/-- Positional text with at least one decimal, as in `1.0`. -/
def text (x : Double) : String :=
  let sign := if x.negative then ['-'] else []
  let body :=
    if x.mantissa = 0 then ['0']
    else
      let (d, place) := shortest x
      let ds := Text.decimal d
      let kept := (ds.reverse.dropWhile (· == '0')).reverse
      positional kept (place + (ds.length - kept.length : Nat))
  String.ofList (sign ++ body ++ if '.' ∈ body then [] else ['.', '0'])

end Double
end Json
end PullDecoration
