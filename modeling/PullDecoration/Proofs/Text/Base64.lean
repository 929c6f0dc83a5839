import PullDecoration.Text.Base64

/-! Octets are read back from their text in Base64. Three octets are four numbers below 64, whose
characters are no equals signs; so a group that is filled up is never taken for a whole one. -/
namespace PullDecoration
namespace Base64

theorem value?_char : ∀ n < 64, value? (char n) = some n ∧ char n ≠ '=' := by decide

section Group

variable {a b c : Nat} (ha : a < 64) (hb : b < 64)
include ha hb

theorem decode?_single (hfilled : b % 16 = 0) :
    decode? [char a, char b, '=', '='] = some [.ofNat (a * 4 + b / 16)] := by
  simp only [decode?, value?_char a ha, value?_char b hb, Option.bind_eq_bind,
    Option.bind_some, hfilled, if_true, Option.pure_def]

theorem decode?_pair (hc : c < 64) (hfilled : c % 4 = 0) :
    decode? [char a, char b, char c, '='] =
      some [.ofNat (a * 4 + b / 16), .ofNat (b % 16 * 16 + c / 4)] := by
  rw [decode?]
  · simp only [value?_char a ha, value?_char b hb, value?_char c hc, Option.bind_eq_bind,
      Option.bind_some, hfilled, if_true, Option.pure_def]
  · exact (value?_char c hc).2

theorem decode?_whole {d : Nat} (hc : c < 64) (hd : d < 64) (rest : List Char) :
    decode? (char a :: char b :: char c :: char d :: rest) = (decode? rest).map fun more =>
      .ofNat (a * 4 + b / 16) :: .ofNat (b % 16 * 16 + c / 4) :: .ofNat
        (c % 4 * 64 + d) :: more := by
  have hlast := (value?_char d hd).2
  rw [decode?]
  · simp only [value?_char a ha, value?_char b hb, value?_char c hc, value?_char d hd,
      Option.bind_eq_bind, Option.bind_some, Option.pure_def, Option.map_eq_bind, Function.comp_def]
  · exact fun _ h => absurd h hlast
  · exact fun h => absurd h hlast

end Group

theorem ofNat_eq {n : Nat} {b : UInt8} (h : n = b.toNat) : UInt8.ofNat n = b := by
  rw [h, UInt8.ofNat_toNat]

theorem decode?_encode (bs : List UInt8) : decode? (encode bs) = some bs := by
  induction bs using encode.induct with
  | case1 a b c rest ih =>
    have ha := a.toNat_lt
    have hb := b.toNat_lt
    have hc := c.toNat_lt
    rw [encode, decode?_whole (by omega) (by omega) (by omega) (by omega), ih, Option.map_some]
    rw [ofNat_eq (b := a) (by omega), ofNat_eq (b := b) (by omega), ofNat_eq (b := c) (by omega)]
  | case2 a b =>
    have ha := a.toNat_lt
    have hb := b.toNat_lt
    rw [encode, decode?_pair (by omega) (by omega) (by omega) (by omega)]
    rw [ofNat_eq (b := a) (by omega), ofNat_eq (b := b) (by omega)]
  | case3 a =>
    have ha := a.toNat_lt
    rw [encode, decode?_single (by omega) (by omega) (by omega), ofNat_eq (b := a) (by omega)]
  | case4 => rfl

end Base64
end PullDecoration
