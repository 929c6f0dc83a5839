import PullDecoration.Proofs.Text.Utf8
import PullDecoration.Proofs.Url.Segments

/-! What the segments of a path denote: the texts whose octets they are once they are decoded.
Encoding a text for a path changes nothing in the octets it denotes, so a text without octets of its
own in percent-encoding is denoted by its encoding. Between a text and a path only octets can get
lost. -/
namespace PullDecoration
namespace Url

/-- The segment is decoded to the octets of the text. -/
def Denotes (segment text : List Char) : Prop := percentDecode segment = Utf8.encode text

instance (segment text : List Char) : Decidable (Denotes segment text) :=
  inferInstanceAs (Decidable (percentDecode segment = Utf8.encode text))

theorem hexValue?_upperHexDigit (n : Nat) :
    Text.hexValue? (Text.upperHexDigit n) = some (n % 16) := by
  have hdigits : ∀ k < 16, Text.hexValue? ((Nat.toDigits 16 k).headD '0').toUpper =
    some k := by decide
  exact hdigits (n % 16) (Nat.mod_lt n (by decide))

theorem percentDecode_octet (b : UInt8) (cs : List Char) :
    percentDecode (percentOctet b ++ cs) = b :: percentDecode cs := by
  have hb : b.toNat < 256 := b.toNat_lt_size
  have hvalue : 16 * (b.toNat / 16 % 16) + b.toNat % 16 = b.toNat := by omega
  simp [percentOctet, percentDecode, hexValue?_upperHexDigit, hvalue]

theorem percentDecode_octets (bs : List UInt8) (cs : List Char) :
    percentDecode (bs.flatMap percentOctet ++ cs) = bs ++ percentDecode cs := by
  induction bs with
  | nil => rfl
  | cons b bs ih => rw [List.flatMap_cons, List.append_assoc, percentDecode_octet,
    ih, List.cons_append]

def StartsOctet (cs : List Char) : Prop :=
  ∃ a b rest, cs = a :: b :: rest ∧ (Text.hexValue? a).isSome ∧ (Text.hexValue? b).isSome

/-- Texts as they are decoded: an octet that is written with a percent sign, or a character that
stands for itself, as a percent sign does without two digits behind it. -/
@[elab_as_elim]
theorem octets_induction {motive : List Char → Prop} (nil : motive [])
    (octet : ∀ a b cs, (Text.hexValue? a).isSome → (Text.hexValue? b).isSome → motive cs →
      motive ('%' :: a :: b :: cs))
    (other : ∀ c cs, (c = '%' → ¬ StartsOctet cs) → motive cs → motive (c :: cs)) (cs : List Char) :
    motive cs := by
  induction cs using percentDecode.induct with
  | case1 a b cs m n hb ha ih => exact octet a b cs (by simp [ha]) (by simp [hb]) ih
  | case2 a b cs hno ih =>
    refine other '%' (a :: b :: cs) (fun _ => ?_) ih
    rintro ⟨a', b', rest, hcs, ha, hb⟩
    cases hcs
    obtain ⟨m, hm⟩ := Option.isSome_iff_exists.mp ha
    obtain ⟨n, hn⟩ := Option.isSome_iff_exists.mp hb
    exact hno m n hm hn
  | case3 c cs hno ih =>
    refine other c cs ?_ ih
    rintro rfl ⟨a, b, rest, rfl, -, -⟩
    exact hno a b rest rfl rfl
  | case4 => exact nil

theorem percentDecode_written {a b : Char} (ha : (Text.hexValue? a).isSome)
    (hb : (Text.hexValue? b).isSome) :
    ∃ octet, ∀ cs, percentDecode ('%' :: a :: b :: cs) = octet :: percentDecode cs := by
  obtain ⟨m, hm⟩ := Option.isSome_iff_exists.mp ha
  obtain ⟨n, hn⟩ := Option.isSome_iff_exists.mp hb
  exact ⟨.ofNat (16 * m + n), fun cs => by simp only [percentDecode, hm, hn]⟩

theorem percentDecode_cons {c : Char} {cs : List Char} (hc : c = '%' → ¬ StartsOctet cs) :
    percentDecode (c :: cs) = String.utf8EncodeChar c ++ percentDecode cs := by
  by_cases hpercent : c = '%'
  · subst hpercent
    match cs with
    | [] | [a] => rfl
    | a :: b :: rest =>
      rw [percentDecode]
      split
      · rename_i ha hb
        exact absurd ⟨a, b, rest, rfl, by simp [ha], by simp [hb]⟩ (hc rfl)
      · rfl
  · rw [percentDecode]
    exact fun _ _ _ h => absurd h hpercent

theorem percentEncode_cons (set : Char → Bool) (c : Char) (cs : List Char) :
    percentEncode set (c :: cs) =
      (if set c || 0x7F ≤ c.toNat then percentChar c else [c]) ++ percentEncode set cs :=
        List.flatMap_cons

theorem percentChar_head (c : Char) : ∃ rest, percentChar c = '%' :: rest := by
  have hpos := Utf8.length_encodeChar_pos c
  unfold percentChar
  cases h : String.utf8EncodeChar c with
  | nil => simp [h] at hpos
  | cons b bs => exact ⟨_, rfl⟩

theorem isUnreserved_of_hexValue? {c : Char} (h : (Text.hexValue? c).isSome) :
    isUnreserved c = true := by
  have halnum : c.isAlphanum = true := by
    have hlower : 'f' ≤ 'z' := by decide
    have hupper : 'F' ≤ 'Z' := by decide
    delta Char.isAlphanum Char.isAlpha Char.isUpper Char.isLower
    simp only [Bool.or_eq_true, Bool.and_eq_true, decide_eq_true_eq]
    unfold Text.hexValue? at h
    split at h
    · rename_i hdigit
      exact .inr hdigit
    · split at h
      · rename_i hsmall
        exact .inl (.inr ⟨hsmall.1, Nat.le_trans hsmall.2 hlower⟩)
      · split at h
        · rename_i hlarge
          exact .inl (.inl ⟨hlarge.1, Nat.le_trans hlarge.2 hupper⟩)
        · cases h
  simp [isUnreserved, halnum]

theorem percentEncode_kept {c : Char} (h : (inPath c || 0x7F ≤ c.toNat) = false) (cs : List Char) :
    percentEncode inPath (c :: cs) = c :: percentEncode inPath cs := by
  rw [percentEncode_cons, h]
  rfl

theorem percentEncode_percent (cs : List Char) :
    percentEncode inPath ('%' :: cs) = '%' :: percentEncode inPath cs :=
  percentEncode_kept (by decide) cs

theorem percentEncode_digit {c : Char} (h : (Text.hexValue? c).isSome) (cs : List Char) :
    percentEncode inPath (c :: cs) = c :: percentEncode inPath cs :=
  percentEncode_kept (unreserved_kept (isUnreserved_of_hexValue? h)).2.2.2.2.2 cs

theorem digit_of_percentEncode {a : Char} {cs rest : List Char} (ha : (Text.hexValue? a).isSome)
    (h : percentEncode inPath cs = a :: rest) :
    ∃ tail, cs = a :: tail ∧ rest = percentEncode inPath tail := by
  cases cs with
  | nil => cases h
  | cons c cs =>
    cases hkept : inPath c || 0x7F ≤ c.toNat with
    | true =>
      obtain ⟨octets, hoctets⟩ := percentChar_head c
      rw [percentEncode_cons, hkept, if_pos rfl, hoctets] at h
      cases h
      cases ha
    | false =>
      rw [percentEncode_kept hkept] at h
      cases h
      exact ⟨cs, rfl, rfl⟩

theorem startsOctet_of_percentEncode {cs : List Char} (h : StartsOctet (percentEncode inPath cs)) :
    StartsOctet cs := by
  obtain ⟨a, b, rest, hcs, ha, hb⟩ := h
  obtain ⟨tail, rfl, htail⟩ := digit_of_percentEncode ha hcs
  obtain ⟨tail, rfl, -⟩ := digit_of_percentEncode hb htail.symm
  exact ⟨a, b, tail, rfl, ha, hb⟩

theorem percentDecode_percentEncode (cs : List Char) :
    percentDecode (percentEncode inPath cs) = percentDecode cs := by
  induction cs using octets_induction with
  | nil => rfl
  | octet a b cs ha hb ih =>
    obtain ⟨octet, hdecode⟩ := percentDecode_written ha hb
    rw [percentEncode_percent, percentEncode_digit ha, percentEncode_digit hb, hdecode, hdecode, ih]
  | other c cs hc ih =>
    rw [percentDecode_cons hc]
    cases hkept : inPath c || 0x7F ≤ c.toNat with
    | true => rw [percentEncode_cons, hkept, if_pos rfl, percentChar, percentDecode_octets, ih]
    | false =>
      rw [percentEncode_kept hkept,
        percentDecode_cons fun h => mt startsOctet_of_percentEncode (hc h), ih]

def LacksOctets (cs : List Char) : Prop := ∀ tail, '%' :: tail <:+ cs → ¬ StartsOctet tail

theorem lacksOctets_cons {c : Char} {cs : List Char} :
    LacksOctets (c :: cs) ↔ (c = '%' → ¬ StartsOctet cs) ∧ LacksOctets cs := by
  constructor
  · intro h
    refine ⟨?_, fun tail htail => h tail (htail.trans (List.suffix_cons c cs))⟩
    rintro rfl
    exact h cs List.suffix_rfl
  · rintro ⟨hc, hcs⟩ tail htail
    rcases List.suffix_cons_iff.mp htail with heq | hsuffix
    · cases heq
      exact hc rfl
    · exact hcs tail hsuffix

/-- A text denotes itself, or it has octets that are written with a percent sign and denotes
fewer. -/
theorem denotes_or_shorter (cs : List Char) :
    LacksOctets cs ∧ Denotes cs cs ∨ ¬ LacksOctets cs ∧
    (percentDecode cs).length < (Utf8.encode cs).length := by
  induction cs using octets_induction with
  | nil =>
    exact .inl ⟨fun tail htail => absurd (List.eq_nil_of_suffix_nil htail)
      (List.cons_ne_nil _ _), rfl⟩
  | octet a b cs ha hb ih =>
    have hstarts : StartsOctet (a :: b :: cs) := ⟨a, b, cs, rfl, ha, hb⟩
    have hle : (percentDecode cs).length ≤ (Utf8.encode cs).length :=
      ih.elim (fun h => (congrArg List.length h.2).le) fun h => h.2.le
    obtain ⟨octet, hdecode⟩ := percentDecode_written ha hb
    have hpercent := Utf8.length_encodeChar_pos '%'
    have hfirst := Utf8.length_encodeChar_pos a
    refine .inr ⟨fun h => (lacksOctets_cons.mp h).1 rfl hstarts, ?_⟩
    rw [hdecode, Utf8.encode_cons, Utf8.encode_cons, Utf8.encode_cons]
    simp only [List.length_append, List.length_cons]
    omega
  | other c cs hc ih =>
    rw [lacksOctets_cons, Denotes, percentDecode_cons hc, Utf8.encode_cons,
      List.length_append, List.length_append]
    rcases ih with ⟨hlacks, hself⟩ | ⟨hwritten, hshorter⟩
    · exact .inl ⟨⟨hc, hlacks⟩, congrArg _ hself⟩
    · exact .inr ⟨fun h => hwritten h.2, Nat.add_lt_add_left hshorter _⟩

theorem denotes_self_iff {cs : List Char} : Denotes cs cs ↔ LacksOctets cs := by
  rcases denotes_or_shorter cs with h | h
  · exact iff_of_true h.2 h.1
  · exact iff_of_false (fun hsame => h.2.ne (congrArg List.length hsame)) h.1

theorem length_percentDecode_le (cs : List Char) :
    (percentDecode cs).length ≤ (Utf8.encode cs).length :=
  (denotes_or_shorter cs).elim (fun h => (congrArg List.length h.2).le) fun h => h.2.le

end Url
end PullDecoration
