/-! Decimal numerals of natural numbers. -/
namespace PullDecoration
namespace Text

/-- The value of a run of decimal digits, the first one leading. -/
def digitsValue (cs : List Char) : Nat := Nat.ofDigitChars 10 cs 0

/-- A numeral below `bound`: an optional plus sign, then at least one ASCII digit. -/
def boundedNumeral? (bound : Nat) (cs : List Char) : Option Nat :=
  let ds := match cs with
    | '+' :: ds => ds
    | _ => cs
  if ds.isEmpty || !ds.all Char.isDigit then none
  else
    let n := digitsValue ds
    if n < bound then some n else none

/-- The decimal numeral without sign or leading zeros. -/
def decimal (n : Nat) : List Char := Nat.toDigits 10 n

/-- The value of an ASCII hexadecimal digit, in either case. -/
def hexValue? (c : Char) : Option Nat :=
  if c.isDigit then some (c.toNat - '0'.toNat)
  else if 'a' ≤ c ∧ c ≤ 'f' then some (c.toNat - 'a'.toNat + 10)
  else if 'A' ≤ c ∧ c ≤ 'F' then some (c.toNat - 'A'.toNat + 10)
  else none

/-- The value of a run of hexadecimal digits; none if one of them is not a digit. -/
def hexDigitsValue? (cs : List Char) : Option Nat :=
  cs.foldl (fun n? c => n?.bind fun n => (hexValue? c).map (16 * n + ·)) (some 0)

def lowerHexDigit (n : Nat) : Char := (Nat.toDigits 16 (n % 16)).headD '0'

def upperHexDigit (n : Nat) : Char := (lowerHexDigit n).toUpper

/-- The number of octets of a text in UTF-8. -/
def octetCount (cs : List Char) : Nat := cs.foldl (fun n c => n + c.utf8Size) 0

@[simp] theorem digitsValue_decimal (n : Nat) : digitsValue (decimal n) = n := by
  simp [digitsValue, decimal, Nat.ofDigitChars_toDigits]

theorem decimal_inj {m n : Nat} : decimal m = decimal n ↔ m = n := by
  constructor
  · intro h
    rw [← digitsValue_decimal m, h, digitsValue_decimal]
  · rintro rfl
    rfl

theorem decimal_ne_nil (n : Nat) : decimal n ≠ [] := Nat.toDigits_ne_nil

theorem isDigit_of_mem_decimal {n : Nat} {c : Char} (h : c ∈ decimal n) : c.isDigit = true :=
  Nat.isDigit_of_mem_toDigits (by decide) (by decide) h

end Text
end PullDecoration
