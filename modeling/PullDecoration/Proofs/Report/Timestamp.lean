import PullDecoration.Report.Timestamp
import PullDecoration.Proofs.Except
import PullDecoration.Proofs.Text.Trim
import Mathlib.Data.Nat.Digits.Defs
import Mathlib.Tactic.SplitIfs

/-! The written form of a point in time is read as that point. It is a row of numerals, filled up
with zeros, and each is followed by a character that is no digit; so every part of the reader takes
exactly what the same part of the writer put there. -/
namespace PullDecoration

namespace Text

theorem digitsValue_zeros (k : Nat) (cs : List Char) :
    digitsValue (List.replicate k '0' ++ cs) = digitsValue cs := by
  induction k with
  | zero => rfl
  | succ k ih =>
    rw [List.replicate_succ, List.cons_append, digitsValue, Nat.ofDigitChars_cons]
    exact ih

end Text

namespace Timestamp

variable {width most n : Nat} {rest : List Char}

theorem digitsValue_padded (width n : Nat) : Text.digitsValue (padded width n) = n := by
  rw [padded, Text.digitsValue_zeros, Text.digitsValue_decimal]

theorem isDigit_of_mem_padded {c : Char} (h : c ∈ padded width n) : c.isDigit = true := by
  rcases List.mem_append.mp h with hzero | hdigit
  · rw [List.eq_of_mem_replicate hzero]
    decide
  · exact Text.isDigit_of_mem_decimal hdigit

theorem padded_ne_nil (width n : Nat) : padded width n ≠ [] :=
  List.append_ne_nil_of_right_ne_nil _ (Text.decimal_ne_nil n)

theorem padded_eq_cons (width n : Nat) : ∃ d ds, padded width n = d :: ds ∧ d.isDigit = true := by
  obtain ⟨d, ds, hpadded⟩ := List.exists_cons_of_ne_nil (padded_ne_nil width n)
  exact ⟨d, ds, hpadded, isDigit_of_mem_padded (hpadded ▸ List.mem_cons_self)⟩

theorem length_padded (hwidth : 0 < width) (h : n < 10 ^ width) :
    (padded width n).length = width := by
  have hdigits : (Text.decimal n).length ≤ width := Nat.toDigits_length 10 n width hwidth h
  simp [padded, hdigits]

def StopsDigits (cs : List Char) : Prop := ∀ c ∈ cs.head?, c.isDigit = false

theorem stopsDigits_cons {c : Char} (h : c.isDigit = false) (cs : List Char) :
    StopsDigits (c :: cs) := by
  simpa [StopsDigits] using h

theorem takeWhile_padded (width n : Nat) (hrest : StopsDigits rest) :
    (padded width n ++ rest).takeWhile Char.isDigit = padded width n := by
  rw [List.takeWhile_append_of_pos fun c hc => isDigit_of_mem_padded hc]
  cases rest with
  | nil => simp
  | cons c rest => simp [hrest c rfl]

theorem trimStartChars_padded (width n : Nat) (rest : List Char) :
    Text.trimStartChars (padded width n ++ rest) = padded width n ++ rest := by
  obtain ⟨d, ds, hpadded, hd⟩ := padded_eq_cons width n
  rw [hpadded]
  simp [Text.trimStartChars, Text.isBlankChar_of_isDigit hd]

theorem number_padded (hlength : (padded width n).length ≤ most) (hsize : n < 9223372036854775808)
    (hrest : StopsDigits rest) : number most (padded width n ++ rest) = .ok (n, rest) := by
  have hdigits : (padded width n).take most = padded width n := List.take_of_length_le hlength
  simp only [number, trimStartChars_padded, takeWhile_padded width n hrest, hdigits]
  split
  · rename_i hnil _
    exact absurd hnil (padded_ne_nil width n)
  · rename_i hnil _
    exact absurd hnil (padded_ne_nil width n)
  · rw [digitsValue_padded, if_neg (Nat.not_le.mpr hsize), List.drop_left]

theorem twoDigits_padded {least greatest : Nat} (hleast : least ≤ n) (hgreatest : n ≤ greatest)
    (hn : n < 100) (hrest : StopsDigits rest) :
    twoDigits least greatest (padded 2 n ++ rest) = .ok (n, rest) := by
  have hlength : (padded 2 n).length ≤ 2 := Nat.le_of_eq (length_padded (by decide) hn)
  have hnumber := number_padded hlength (by omega) hrest
  have hbounds : ¬ (n < least ∨ greatest < n) := by omega
  simp [twoDigits, hnumber, hbounds, bind, Except.bind, pure, Except.pure]

theorem signed_padded (width : Nat) (hsize : n < 9223372036854775808) (hrest : StopsDigits rest) :
    yearNumber.signed (padded width n ++ rest) = .ok (n, rest) := by
  have hlength : (padded width n).length ≤ (padded width n ++ rest).length := by simp
  have hnumber := number_padded hlength hsize hrest
  obtain ⟨d, ds, hpadded, hd⟩ := padded_eq_cons width n
  rw [hpadded] at hnumber ⊢
  simp only [yearNumber.signed, List.cons_append, hd, if_true]
  exact hnumber

theorem yearNumber_yearChars {year : Int} (hfirst : Date.firstYear ≤ year)
    (hlast : year ≤ Date.lastYear) (hrest : StopsDigits rest) :
    yearNumber (yearChars year ++ rest) = .ok (year, rest) := by
  rw [Date.firstYear] at hfirst
  rw [Date.lastYear] at hlast
  have hbounds : ¬ (year < -2147483648 ∨ 2147483648 ≤ year) := by omega
  unfold yearChars
  split_ifs with hnegative hlarge
  · have hsigned := signed_padded 4 (show year.natAbs < 9223372036854775808 by omega) hrest
    have htrim : Text.trimStartChars ('-' :: (padded 4 year.natAbs ++ rest)) =
        '-' :: (padded 4 year.natAbs ++ rest) := rfl
    have hyear : -(year.natAbs : Int) = year := by omega
    simp only [yearNumber, List.cons_append, htrim, hsigned, hyear, hbounds,
      bind, Except.bind, pure, Except.pure, if_false]
  · have hsigned := signed_padded 4 (show year.natAbs < 9223372036854775808 by omega) hrest
    have htrim : Text.trimStartChars ('+' :: (padded 4 year.natAbs ++ rest)) =
        '+' :: (padded 4 year.natAbs ++ rest) := rfl
    have hyear : (year.natAbs : Int) = year := by omega
    simp only [yearNumber, List.cons_append, htrim, hsigned, hyear, hbounds,
      bind, Except.bind, pure, Except.pure, if_false]
  · have hlength : (padded 4 year.natAbs).length ≤ 4 :=
      Nat.le_of_eq (length_padded (by decide) (by omega))
    have hnumber := number_padded hlength (by omega) hrest
    have hyear : (year.natAbs : Int) = year := by omega
    rw [yearNumber, trimStartChars_padded]
    obtain ⟨d, ds, hpadded, hd⟩ := padded_eq_cons 4 year.natAbs
    have hminus : d ≠ '-' := by rintro rfl; exact absurd hd (by decide)
    have hplus : d ≠ '+' := by rintro rfl; exact absurd hd (by decide)
    rw [hpadded, List.cons_append] at hnumber ⊢
    simp [hnumber, hminus, hplus, hyear, hbounds, bind, Except.bind, pure, Except.pure]

theorem mark_cons {c : Char} (hc : Text.isBlankChar c = false) (rest : List Char) :
    mark c (c :: rest) = .ok rest := by
  simp [mark, Text.trimStartChars, hc]

theorem decimals_padded (hwidth : 0 < width) (hnine : width ≤ 9) (h : n < 10 ^ width)
    (hrest : StopsDigits rest) :
    decimals ('.' :: (padded width n ++ rest)) = .ok (n * 10 ^ (9 - width), rest) := by
  have hlength : (padded width n).length = width := length_padded hwidth h
  have htake : (padded width n).take 9 = padded width n :=
    List.take_of_length_le (Nat.le_trans (Nat.le_of_eq hlength) hnine)
  simp only [decimals, takeWhile_padded width n hrest, htake, digitsValue_padded, hlength]
  split
  · rename_i hnil _
    exact absurd hnil (padded_ne_nil width n)
  · rename_i hnil _
    exact absurd hnil (padded_ne_nil width n)
  · rw [List.drop_left' hlength]
    rfl

theorem decimals_decimalChars {nano : Nat} (h : nano < 1000000000) :
    decimals (decimalChars nano ++ ['Z']) = .ok (nano, ['Z']) := by
  have hrest : StopsDigits ['Z'] := stopsDigits_cons (by decide) _
  unfold decimalChars
  split_ifs with hzero hthree hsix
  · rw [hzero]
    rfl
  · have hvalue : nano / 1000000 * 10 ^ (9 - 3) = nano := by omega
    rw [List.cons_append, decimals_padded (by decide) (by decide) (by omega) hrest, hvalue]
  · have hvalue : nano / 1000 * 10 ^ (9 - 6) = nano := by omega
    rw [List.cons_append, decimals_padded (by decide) (by decide) (by omega) hrest, hvalue]
  · rw [List.cons_append, decimals_padded (by decide) (by decide) (by omega) hrest]
    simp

theorem ofLocal_utc (t : Timestamp) :
    ofLocal t.date (60 * (t.minute / 60) + t.minute % 60) t.second t.nano false 0 = .ok t := by
  have hminute : 60 * (t.minute / 60) + t.minute % 60 = t.minute := Nat.div_add_mod t.minute 60
  have hday : t.minute < 1440 := t.valid.2.1
  have hsame : ¬ ((t.minute : Int) - (0 : Nat) < 0) := by omega
  have hbefore : ¬ ((1440 : Int) ≤ t.minute - (0 : Nat)) := by omega
  rw [hminute]
  simp only [ofLocal, Bool.false_eq_true, if_false, hsame, hbefore]
  have htoNat : ((t.minute : Int) - (0 : Nat)).toNat = t.minute := by omega
  rw [dif_pos (by simpa [htoNat] using t.valid)]
  simp

/-- Every point in time is read back from its text with the letter of UTC. -/
theorem ofString_text (t : Timestamp) :
    ofString (String.ofList (t.localChars ++ ['Z'])) = .ok t := by
  obtain ⟨hdate, hminute, hsecond, hnano⟩ := t.valid
  simp only [Date.isValid, Bool.and_eq_true, decide_eq_true_eq] at hdate
  obtain ⟨⟨⟨⟨⟨hfirst, hlast⟩, hmonth⟩, hmonth'⟩, hday⟩, hday'⟩ := hdate
  have hday31 : t.date.day ≤ 31 := by
    refine hday'.trans ?_
    unfold Date.daysInMonth
    split_ifs <;> decide
  have hhyphen (cs : List Char) : StopsDigits ('-' :: cs) := stopsDigits_cons (by decide) cs
  have hT (cs : List Char) : StopsDigits ('T' :: cs) := stopsDigits_cons (by decide) cs
  have hcolon (cs : List Char) : StopsDigits (':' :: cs) := stopsDigits_cons (by decide) cs
  have hend : StopsDigits (decimalChars t.nano ++ ['Z']) := by
    unfold decimalChars
    split_ifs <;> exact stopsDigits_cons (by decide) _
  have hoffset : offset ['Z'] = .ok (false, 0, []) := by decide
  simp only [ofString, localChars, String.toList_ofList, List.append_assoc, List.cons_append,
    bind, Except.bind, pure, Except.pure, true_or, if_true,
    yearNumber_yearChars hfirst hlast (hhyphen _),
    mark_cons (show Text.isBlankChar '-' = false by decide),
    mark_cons (show Text.isBlankChar ':' = false by decide),
    twoDigits_padded hmonth hmonth' (by omega) (hhyphen _),
    twoDigits_padded hday hday31 (by omega) (hT _),
    twoDigits_padded (Nat.zero_le _) (show t.minute / 60 ≤ 23 by omega) (by omega) (hcolon _),
    twoDigits_padded (Nat.zero_le _) (show t.minute % 60 ≤ 59 by omega) (by omega) (hcolon _),
    twoDigits_padded (Nat.zero_le _) hsecond (by omega) hend,
    decimals_decimalChars hnano, hoffset]
  have hvalid : (⟨t.date.year, t.date.month, t.date.day⟩ : Date).isValid = true := t.valid.1
  simp only [hvalid, Text.trimStartChars, List.dropWhile_nil, List.isEmpty_nil, Bool.not_true,
    Bool.false_eq_true, if_false, false_or, show ¬ 1440 ≤ 0 by decide]
  exact ofLocal_utc t

end Timestamp
end PullDecoration
