import PullDecoration.Text.Natural

/-! Punycode: labels of host names in ASCII letters, digits and hyphens. The ASCII characters come first,
then, in ascending order of the other characters, the distances between the places they are put in. -/
namespace PullDecoration
namespace Url

/-- The digits of Punycode: letters, then decimal digits. -/
def punyDigit (n : Nat) : Char :=
  if n < 26 then Char.ofNat (n + 'a'.toNat) else Char.ofNat (n - 26 + '0'.toNat)

def punyThreshold (bias k : Nat) : Nat := if k ≤ bias then 1 else min 26 (k - bias)

/-- A number in digits whose base grows with their place, as the bias says. -/
def punyNumber (bias : Nat) : Nat → Nat → Nat → List Char
  | 0, _, _ => []
  | fuel + 1, k, q =>
    let t := punyThreshold bias k
    if q < t then [punyDigit q]
    else punyDigit (t + (q - t) % (36 - t)) :: punyNumber bias fuel (k + 36) ((q - t) / (36 - t))

/-- How often `delta` is divided before the bias is set. -/
def punySteps : Nat → Nat → Nat → Nat × Nat
  | 0, k, delta => (k, delta)
  | fuel + 1, k, delta => if 455 < delta then punySteps fuel (k + 36) (delta / 35) else (k, delta)

def punyBias (delta count : Nat) (first : Bool) : Nat :=
  let delta := if first then delta / 700 else delta / 2
  let (k, delta) := punySteps 16 0 (delta + delta / count)
  k + 36 * delta / (delta + 38)

structure PunyState where
  next : Nat
  delta : Nat
  bias : Nat
  done : Nat
  out : List Char

/-- Writes all places of the code point `m`. -/
def punyPlaces (basic m : Nat) (input : List Nat) (s : PunyState) : PunyState :=
  let start := { s with delta := s.delta + (m - s.next) * (s.done + 1), next := m }
  let s := input.foldl (fun s c =>
    if c < m then { s with delta := s.delta + 1 }
    else if c = m then
      { s with
        out := s.out ++ punyNumber s.bias 16 36 s.delta
        bias := punyBias s.delta (s.done + 1) (s.done = basic)
        delta := 0
        done := s.done + 1 }
    else s) start
  { s with delta := s.delta + 1, next := m + 1 }

def punycode (label : List Char) : List Char :=
  let input := label.map Char.toNat
  let basic := label.filter fun c => c.toNat < 128
  let others := ((input.filter (128 ≤ ·)).mergeSort (· ≤ ·)).eraseDups
  let start : PunyState :=
    ⟨128, 0, 72, basic.length, if basic.isEmpty then [] else basic ++ ['-']⟩
  (others.foldl (fun s m => punyPlaces basic.length m input s) start).out

end Url
end PullDecoration
