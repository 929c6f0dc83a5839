import PullDecoration.Text.Utf8
import Mathlib.Tactic.IntervalCases
import Mathlib.Tactic.SplitIfs

/-! Texts and their octets. The first octet of a character says how many follow and bounds the next
one; the octets of a character always lie within these bounds, and together they give the character
back. -/
namespace PullDecoration
namespace Utf8

theorem start_one {n : Nat} (h : n < 128) : start (.ofNat n) = ([Char.ofNat n], none) := by
  have hsmall : UInt8.ofNat n < 0x80 := by
    rw [UInt8.lt_iff_toNat_lt, UInt8.toNat_ofNat']
    simp
    omega
  have htoNat : (UInt8.ofNat n).toNat = n := by
    rw [UInt8.toNat_ofNat']
    omega
  simp only [start, hsmall, if_true, htoNat]

theorem start_two {n : Nat} (hlow : 2 ≤ n) (hhigh : n < 32) :
    start (.ofNat (n + 192)) = ([], some ⟨n, 1, 0x80, 0xBF⟩) := by
  interval_cases n <;> rfl

theorem start_three {n : Nat} (h : n < 16) :
    start (.ofNat (n + 224)) =
      ([], some ⟨n, 2, if n = 0 then 0xA0 else 0x80, if n = 13 then 0x9F else 0xBF⟩) := by
  interval_cases n <;> rfl

theorem start_four {n : Nat} (h : n < 5) :
    start (.ofNat (n + 240)) =
      ([], some ⟨n, 3, if n = 0 then 0x90 else 0x80, if n = 4 then 0x8F else 0xBF⟩) := by
  interval_cases n <;> rfl

theorem step_inside {value needed k : Nat} {low high : UInt8} (hk : k < 64)
    (hlow : low.toNat ≤ k + 128) (hhigh : k + 128 ≤ high.toNat) :
    step (some ⟨value, needed, low, high⟩) (.ofNat (k + 128)) =
      if needed = 1 then ([Char.ofNat (64 * value + k)], none)
      else ([], some ⟨64 * value + k, needed - 1, 0x80, 0xBF⟩) := by
  have htoNat : (UInt8.ofNat (k + 128)).toNat = k + 128 := by
    rw [UInt8.toNat_ofNat']
    omega
  have hbounds : low ≤ UInt8.ofNat (k + 128) ∧ UInt8.ofNat (k + 128) ≤ high := by
    rw [UInt8.le_iff_toNat_le, UInt8.le_iff_toNat_le, htoNat]
    exact ⟨hlow, hhigh⟩
  simp only [step, if_pos hbounds, htoNat, Nat.add_sub_cancel]

theorem step_last {value k : Nat} (hk : k < 64) :
    step (some ⟨value, 1, 0x80, 0xBF⟩) (.ofNat (k + 128)) =
      ([Char.ofNat (64 * value + k)], none) := by
  rw [step_inside hk (by simp) (by simp; omega), if_pos rfl]

theorem step_third {value k : Nat} (hk : k < 64) :
    step (some ⟨value, 2, 0x80, 0xBF⟩) (.ofNat (k + 128)) =
      ([], some ⟨64 * value + k, 1, 0x80, 0xBF⟩) := by
  rw [step_inside hk (by simp) (by simp; omega), if_neg (by decide)]

theorem decodeFrom_cons (p : Option Pending) (b : UInt8) (bs : List UInt8) :
    decodeFrom p (b :: bs) = (step p b).1 ++ decodeFrom (step p b).2 bs := by
  cases p <;> rfl

theorem step_none (b : UInt8) : step none b = start b := rfl

theorem decodeFrom_encodeChar (c : Char) (bs : List UInt8) :
    decodeFrom none (String.utf8EncodeChar c ++ bs) = c :: decodeFrom none bs := by
  have hvalid : c.val.toNat < 0xD800 ∨ 0xDFFF < c.val.toNat ∧ c.val.toNat < 0x110000 := c.valid
  have hback : Char.ofNat c.val.toNat = c := Char.ofNat_toNat c
  simp only [String.utf8EncodeChar]
  generalize c.val.toNat = n at hvalid hback ⊢
  have hbits (m : Nat) : m % 64 < 64 := Nat.mod_lt m (by decide)
  split_ifs with hone htwo hthree
  · simp only [List.cons_append, List.nil_append, decodeFrom_cons, step_none,
      start_one (Nat.lt_succ_of_le hone), hback]
  · have hstart := start_two (n := n / 64 % 32) (by omega) (by omega)
    have hvalue : 64 * (n / 64 % 32) + n % 64 = n := by omega
    simp only [List.cons_append, List.nil_append, decodeFrom_cons, step_none, hstart,
      step_last (hbits n), hvalue, hback]
  · have hstart := start_three (n := n / 4096 % 16) (by omega)
    have hsecond : step (some ⟨n / 4096 % 16, 2, if n / 4096 % 16 = 0 then 0xA0 else 0x80,
        if n / 4096 % 16 = 13 then 0x9F else 0xBF⟩) (.ofNat (n / 64 % 64 + 128)) =
        ([], some ⟨64 * (n / 4096 % 16) + n / 64 % 64, 1, 0x80, 0xBF⟩) := by
      rw [step_inside (hbits _) (by split <;> simp; omega) (by split <;> simp <;> omega),
        if_neg (by decide)]
    have hvalue : 64 * (64 * (n / 4096 % 16) + n / 64 % 64) + n % 64 = n := by omega
    simp only [List.cons_append, List.nil_append, decodeFrom_cons, step_none, hstart, hsecond,
      step_last (hbits n), hvalue, hback]
  · have hstart := start_four (n := n / 262144 % 8) (by omega)
    have hsecond : step (some ⟨n / 262144 % 8, 3, if n / 262144 % 8 = 0 then 0x90 else 0x80,
        if n / 262144 % 8 = 4 then 0x8F else 0xBF⟩) (.ofNat (n / 4096 % 64 + 128)) =
        ([], some ⟨64 * (n / 262144 % 8) + n / 4096 % 64, 2, 0x80, 0xBF⟩) := by
      rw [step_inside (hbits _) (by split <;> simp; omega) (by split <;> simp <;> omega),
        if_neg (by decide)]
    have hvalue : 64 * (64 * (64 * (n / 262144 % 8) + n / 4096 % 64) + n / 64 % 64) + n % 64 =
        n := by
      omega
    simp only [List.cons_append, List.nil_append, decodeFrom_cons, step_none, hstart, hsecond,
      step_third (hbits (n / 64)), step_last (hbits n), hvalue, hback]

theorem encode_cons (c : Char) (cs : List Char) :
    encode (c :: cs) = String.utf8EncodeChar c ++ encode cs :=
  List.flatMap_cons

theorem encode_append (cs ds : List Char) : encode (cs ++ ds) = encode cs ++ encode ds :=
  List.flatMap_append

theorem length_encodeChar_pos (c : Char) : 0 < (String.utf8EncodeChar c).length := by
  rw [String.length_utf8EncodeChar]
  exact c.utf8Size_pos

theorem decode_encode (cs : List Char) : decode (encode cs) = String.ofList cs := by
  have hfrom : decodeFrom none (encode cs) = cs := by
    induction cs with
    | nil => rfl
    | cons c cs ih => rw [encode_cons, decodeFrom_encodeChar, ih]
  rw [decode, hfrom]

theorem encode_injective {cs ds : List Char} (h : encode cs = encode ds) : cs = ds := by
  have hdecode := congrArg decode h
  rwa [decode_encode, decode_encode, String.ofList_inj] at hdecode

theorem length_encode_le {cs ds : List Char} (h : cs.Sublist ds) :
    (encode cs).length ≤ (encode ds).length := by
  induction h with
  | slnil => exact Nat.le_refl _
  | cons c _ ih =>
    rw [encode_cons, List.length_append]
    omega
  | cons_cons c _ ih =>
    rw [encode_cons, encode_cons, List.length_append, List.length_append]
    omega

theorem eq_of_length_encode {cs ds : List Char} (h : cs.Sublist ds)
    (hlength : (encode ds).length ≤ (encode cs).length) : cs = ds := by
  induction h with
  | slnil => rfl
  | cons c hsub _ =>
    have hc := length_encodeChar_pos c
    have hle := length_encode_le hsub
    rw [encode_cons, List.length_append] at hlength
    omega
  | cons_cons c _ ih =>
    rw [encode_cons, encode_cons, List.length_append, List.length_append] at hlength
    rw [ih (Nat.le_of_add_le_add_left hlength)]

/-- The octets of a text that is read without loss are those it was read from. -/
theorem encode_of_decode? {bs : List UInt8} {text : String} (h : decode? bs = some text) :
    encode text.toList = bs := by
  unfold decode? String.fromUTF8? at h
  split at h
  · have hbytes : text.toByteArray = ⟨bs.toArray⟩ := by
      rw [← Option.some.inj h]
      rfl
    rw [← String.utf8Encode_toList] at hbytes
    have hlist := congrArg (fun b => b.data.toList) hbytes
    simpa [encode, List.utf8Encode] using hlist
  · cases h

theorem decode?_encode (cs : List Char) : decode? (encode cs) = some (String.ofList cs) := by
  have hbytes : (⟨(encode cs).toArray⟩ : ByteArray) = (String.ofList cs).toByteArray := by
    rw [String.toByteArray_ofList]
    apply ByteArray.ext
    simp [encode, List.utf8Encode]
  rw [decode?, hbytes, String.fromUTF8?, dif_pos (String.ofList cs).isValidUTF8]
  rfl

/-- An octet below 128 is a character of its own and no part of another one. -/
theorem toNat_of_mem_encodeChar {b : UInt8} {c : Char} (h : b ∈ String.utf8EncodeChar c)
    (hb : b.toNat < 128) : c.toNat = b.toNat := by
  have hhigh {n k : Nat} (hk : 128 ≤ k) (hsum : n + k < 256) :
      ¬ (UInt8.ofNat (n + k)).toNat < 128 := by
    rw [UInt8.toNat_ofNat']
    omega
  have hvalue : c.val.toNat = c.toNat := rfl
  simp only [String.utf8EncodeChar, hvalue] at h
  split_ifs at h <;> simp only [List.mem_cons, List.not_mem_nil, or_false] at h
  · rw [h, UInt8.toNat_ofNat']
    omega
  · rcases h with rfl | rfl <;> exact absurd hb (hhigh (by omega) (by omega))
  · rcases h with rfl | rfl | rfl <;> exact absurd hb (hhigh (by omega) (by omega))
  · rcases h with rfl | rfl | rfl | rfl <;> exact absurd hb (hhigh (by omega) (by omega))

end Utf8
end PullDecoration
