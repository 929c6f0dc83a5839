import PullDecoration.Json.Parser
import PullDecoration.Json.Value
import Mathlib.Tactic.SplitIfs
import Mathlib.Data.List.TakeWhile

/-! The texts of a JSON value. A value may be laid out with blanks between its parts and with any
escapes in its strings; however it is, the reader finds the tree of the value and what follows the
text. -/
namespace PullDecoration

namespace Text

theorem decimal_of_lt {n : Nat} (h : n < 10) : decimal n = [n.digitChar] :=
  Nat.toDigits_of_lt_base h

theorem decimal_of_ge {n : Nat} (h : 10 ≤ n) :
    decimal n = decimal (n / 10) ++ [(n % 10).digitChar] :=
  Nat.toDigits_of_base_le (by decide) h

theorem decimal_head?_ne_zero {n : Nat} (hn : n ≠ 0) : (decimal n).head? ≠ some '0' := by
  induction n using Nat.strongRecOn with
  | ind n ih =>
    by_cases hsmall : n < 10
    · have hdigits : ∀ d < 10, d ≠ 0 → d.digitChar ≠ '0' := by decide
      simpa [decimal_of_lt hsmall] using hdigits n hsmall hn
    · have hlarge : 10 ≤ n := Nat.le_of_not_lt hsmall
      have hleading := ih (n / 10) (Nat.div_lt_self (by omega) (by decide)) (by omega)
      rw [decimal_of_ge hlarge]
      cases hhead : (decimal (n / 10)).head? with
      | none => simp [decimal_ne_nil] at hhead
      | some c =>
        rw [hhead] at hleading
        simpa [List.head?_append, hhead] using hleading

end Text

namespace Json

/-- A string literal behind its opening quote: the characters that it stands for, its text with what
follows, and what follows the closing quote. -/
inductive SpellsLiteral : List Char → List Char → List Char → Prop
  | close {rest : List Char} : SpellsLiteral [] ('"' :: rest) rest
  | plain {c : Char} {s cs rest : List Char} (hcontrol : ¬ c < ' ') (hquote : c ≠ '"')
      (hslash : c ≠ '\\') (h : SpellsLiteral s cs rest) : SpellsLiteral (c :: s) (c :: cs) rest
  | escape {e c : Char} {s cs rest : List Char} (he : simpleEscape? e = some c)
      (h : SpellsLiteral s cs rest) : SpellsLiteral (c :: s) ('\\' :: e :: cs) rest
  | unit {a b c d : Char} {n : Nat} {s cs rest : List Char}
      (hn : Text.hexDigitsValue? [a, b, c, d] = some n) (hleading : isLeadingSurrogate n = false)
      (htrailing : isTrailingSurrogate n = false) (h : SpellsLiteral s cs rest) :
      SpellsLiteral (Char.ofNat n :: s) ('\\' :: 'u' :: a :: b :: c :: d :: cs) rest
  | pair {a b c d a' b' c' d' : Char} {n m : Nat} {s cs rest : List Char}
      (hn : Text.hexDigitsValue? [a, b, c, d] = some n) (hleading : isLeadingSurrogate n = true)
      (hm : Text.hexDigitsValue? [a', b', c', d'] = some m)
      (htrailing : isTrailingSurrogate m = true) (h : SpellsLiteral s cs rest) :
      SpellsLiteral (Char.ofNat (0x10000 + (n - 0xD800) * 0x400 + (m - 0xDC00)) :: s)
        ('\\' :: 'u' :: a :: b :: c :: d :: '\\' :: 'u' :: a' :: b' :: c' :: d' :: cs) rest

def EndsNumber (cs : List Char) : Prop :=
  ∀ c ∈ cs.head?, c.isDigit = false ∧ c ≠ '.' ∧ c ≠ 'e' ∧ c ≠ 'E'

/-- What a stretch of text stands for: a value; the items or members that are left before the
closing bracket, from the first one or from behind another; or these from the next item or key on,
or a value from the colon on. -/
inductive Phrase
  | value (v : Value)
  | items (first : Bool) (vs : List Value)
  | item (v : Value) (vs : List Value)
  | members (first : Bool) (ms : List (String × Value))
  | member (key : String) (v : Value) (ms : List (String × Value))
  | colon (v : Value)

/-- A text that starts with the phrase and goes on with `rest`. -/
inductive Spells : Phrase → List Char → List Char → Prop
  | blank {p : Phrase} {c : Char} {cs rest : List Char} (hc : isJsonBlank c = true)
      (h : Spells p cs rest) : Spells p (c :: cs) rest
  | null {rest : List Char} : Spells (.value .null) ('n' :: 'u' :: 'l' :: 'l' :: rest) rest
  | boolTrue {rest : List Char} :
      Spells (.value (.bool true)) ('t' :: 'r' :: 'u' :: 'e' :: rest) rest
  | boolFalse {rest : List Char} :
      Spells (.value (.bool false)) ('f' :: 'a' :: 'l' :: 's' :: 'e' :: rest) rest
  | number {n : Nat} {rest : List Char} (hrest : EndsNumber rest) :
      Spells (.value (.number n)) (Text.decimal n ++ rest) rest
  | string {s : String} {cs rest : List Char} (h : SpellsLiteral s.toList cs rest) :
      Spells (.value (.string s)) ('"' :: cs) rest
  | array {vs : List Value} {cs rest : List Char} (h : Spells (.items true vs) cs rest) :
      Spells (.value (.array vs)) ('[' :: cs) rest
  | object {ms : List (String × Value)} {cs rest : List Char}
      (h : Spells (.members true ms) cs rest) :
      Spells (.value (.object ms)) ('{' :: cs) rest
  | closeItems {first : Bool} {rest : List Char} : Spells (.items first []) (']' :: rest) rest
  | firstItem {v : Value} {vs : List Value} {cs rest : List Char}
      (h : Spells (.item v vs) cs rest) :
      Spells (.items true (v :: vs)) cs rest
  | nextItem {v : Value} {vs : List Value} {cs rest : List Char} (h : Spells (.item v vs) cs rest) :
      Spells (.items false (v :: vs)) (',' :: cs) rest
  | item {v : Value} {vs : List Value} {cs mid rest : List Char} (hv : Spells (.value v) cs mid)
      (hvs : Spells (.items false vs) mid rest) : Spells (.item v vs) cs rest
  | closeMembers {first : Bool} {rest : List Char} : Spells (.members first []) ('}' :: rest) rest
  | firstMember {key : String} {v : Value} {ms : List (String × Value)} {cs rest : List Char}
      (h : Spells (.member key v ms) cs rest) : Spells (.members true ((key, v) :: ms)) cs rest
  | nextMember {key : String} {v : Value} {ms : List (String × Value)} {cs rest : List Char}
      (h : Spells (.member key v ms) cs rest) :
      Spells (.members false ((key, v) :: ms)) (',' :: cs) rest
  | member {key : String} {v : Value} {ms : List (String × Value)} {cs mid mid' rest : List Char}
      (hkey : SpellsLiteral key.toList cs mid) (hv : Spells (.colon v) mid mid')
      (hms : Spells (.members false ms) mid' rest) : Spells (.member key v ms) ('"' :: cs) rest
  | colon {v : Value} {cs rest : List Char} (h : Spells (.value v) cs rest) :
      Spells (.colon v) (':' :: cs) rest

/-- A text of the value, with nothing but blanks around it. -/
def IsTextOf (s : String) (v : Value) : Prop :=
  ∃ rest, Spells (.value v) s.toList rest ∧ rest.all isJsonBlank = true

theorem pieces_plain {c : Char} {cs : List Char} (acc : List Piece) (hcontrol : ¬ c < ' ')
    (hquote : c ≠ '"') (hslash : c ≠ '\\') : pieces acc (c :: cs) = pieces (.char c :: acc) cs := by
  simp [pieces, hcontrol, hslash]

theorem pieces_escape {e c : Char} {cs : List Char} (acc : List Piece)
    (he : simpleEscape? e = some c) :
    pieces acc ('\\' :: e :: cs) = pieces (.char c :: acc) cs := by
  have hu : e ≠ 'u' := by
    rintro rfl
    cases he
  simp [pieces, he, hu]

theorem pieces_unit {a b c d : Char} {n : Nat} {cs : List Char} (acc : List Piece)
    (hn : Text.hexDigitsValue? [a, b, c, d] = some n) :
    pieces acc ('\\' :: 'u' :: a :: b :: c :: d :: cs) = pieces (.unit n :: acc) cs := by
  simp [pieces, hn]

namespace SpellsLiteral

variable {s cs rest : List Char}

theorem pieces (h : SpellsLiteral s cs rest) :
    ∃ ps, (∀ acc, Json.pieces acc cs = (acc.reverse ++ ps, .closed, rest)) ∧
      ∀ acc, assemble .closed acc ps = .ok (acc.reverse ++ s) := by
  induction h with
  | close => exact ⟨[], by simp [Json.pieces], by simp [assemble, LiteralEnd.skip]⟩
  | @plain c s cs rest hcontrol hquote hslash h ih =>
    obtain ⟨ps, hps, hs⟩ := ih
    refine ⟨.char c :: ps, fun acc => ?_, fun acc => ?_⟩
    · rw [pieces_plain acc hcontrol hquote hslash, hps]
      simp
    · rw [assemble, hs]
      simp
  | @escape e c s cs rest he h ih =>
    obtain ⟨ps, hps, hs⟩ := ih
    refine ⟨.char c :: ps, fun acc => ?_, fun acc => ?_⟩
    · rw [pieces_escape acc he, hps]
      simp
    · rw [assemble, hs]
      simp
  | @unit a b c d n s cs rest hn hleading htrailing h ih =>
    obtain ⟨ps, hps, hs⟩ := ih
    refine ⟨.unit n :: ps, fun acc => ?_, fun acc => ?_⟩
    · rw [pieces_unit acc hn, hps]
      simp
    · rw [assemble.eq_def]
      simp [hleading, htrailing, hs]
  | @pair a b c d a' b' c' d' n m s cs rest hn hleading hm htrailing h ih =>
    obtain ⟨ps, hps, hs⟩ := ih
    have hfirst : isTrailingSurrogate n = false := by
      simp only [isLeadingSurrogate, isTrailingSurrogate, Bool.and_eq_true, decide_eq_true_eq,
        Bool.and_eq_false_iff, decide_eq_false_iff_not] at hleading ⊢
      omega
    refine ⟨.unit n :: .unit m :: ps, fun acc => ?_, fun acc => ?_⟩
    · rw [pieces_unit acc hn, pieces_unit _ hm, hps]
      simp
    · rw [assemble.eq_def]
      simp [hleading, hfirst, htrailing, hs]

theorem literal_eq (h : SpellsLiteral s cs rest) :
    literal cs = (.ofString (String.ofList s), rest) := by
  obtain ⟨ps, hps, hs⟩ := h.pieces
  have hpieces := hps []
  have htext := hs []
  rw [List.reverse_nil, List.nil_append] at hpieces htext
  simp [literal, hpieces, htext, Except.map, LiteralEnd.skip, Literal.ofString]

theorem length_lt (h : SpellsLiteral s cs rest) : rest.length < cs.length := by
  induction h <;> simp only [List.length_cons] <;> omega

end SpellsLiteral

theorem fractionPart_of_ends {negative : Bool} {whole cs : List Char} (h : EndsNumber cs) :
    fractionPart negative whole cs = (.number ⟨negative, whole, none, none⟩, cs) := by
  cases cs with
  | nil => rfl
  | cons c cs =>
    obtain ⟨-, hpoint, hsmall, hlarge⟩ := h c rfl
    simp [fractionPart, exponentPart, hpoint, hsmall, hlarge]

theorem numeral_decimal (n : Nat) {rest : List Char} (h : EndsNumber rest) :
    numeral false (Text.decimal n ++ rest) = (.number (.ofNat n), rest) := by
  by_cases hzero : n = 0
  · subst hzero
    have hhead : (rest.head?.map Char.isDigit).getD false = false := by
      cases rest with
      | nil => rfl
      | cons c rest => simpa using (h c rfl).1
    have hdecimal : Text.decimal 0 = ['0'] := by decide
    simp only [hdecimal, List.cons_append, List.nil_append, numeral, if_true, hhead,
      Bool.false_eq_true, if_false, Numeral.ofNat]
    exact fractionPart_of_ends h
  · cases hdigits : Text.decimal n with
    | nil => exact absurd hdigits (Text.decimal_ne_nil n)
    | cons d ds =>
      have hall : ∀ c ∈ d :: ds, c.isDigit = true := fun c hc =>
        Text.isDigit_of_mem_decimal (hdigits ▸ hc)
      have hne : d ≠ '0' := by simpa [hdigits] using Text.decimal_head?_ne_zero hzero
      have hds : ∀ c ∈ ds, c.isDigit = true := fun c hc => hall c (List.mem_cons_of_mem _ hc)
      have hstop : rest.takeWhile Char.isDigit = [] ∧ rest.dropWhile Char.isDigit = rest := by
        cases rest with
        | nil => exact ⟨rfl, rfl⟩
        | cons c rest => simp [(h c rfl).1]
      simp only [List.cons_append, numeral, hne, hall d List.mem_cons_self, if_false, if_true,
        List.takeWhile_append_of_pos hds, List.dropWhile_append_of_pos hds, hstop, List.append_nil]
      rw [fractionPart_of_ends h, Numeral.ofNat, hdigits]

theorem skipBlank_cons_blank {c : Char} (hc : isJsonBlank c = true) (cs : List Char) :
    skipBlank (c :: cs) = skipBlank cs := by
  simp [skipBlank, hc]

theorem skipBlank_skipBlank (cs : List Char) : skipBlank (skipBlank cs) = skipBlank cs := by
  induction cs with
  | nil => rfl
  | cons c cs ih =>
    cases hc : isJsonBlank c with
    | true => rw [skipBlank_cons_blank hc, ih]
    | false => simp [skipBlank, hc]

theorem value_skipBlank (fuel level : Nat) (cs : List Char) :
    value (fuel + 1) level (skipBlank cs) = value (fuel + 1) level cs := by
  rw [value.eq_def, value.eq_def _ _ cs]
  simp only [skipBlank_skipBlank]

theorem items_skipBlank (fuel level : Nat) (first : Bool) (cs : List Char) :
    items (fuel + 1) level first (skipBlank cs) = items (fuel + 1) level first cs := by
  rw [items.eq_def, items.eq_def _ _ _ cs]
  simp only [skipBlank_skipBlank]

theorem members_skipBlank (fuel level : Nat) (first : Bool) (cs : List Char) :
    members (fuel + 1) level first (skipBlank cs) = members (fuel + 1) level first cs := by
  rw [members.eq_def, members.eq_def _ _ _ cs]
  simp only [skipBlank_skipBlank]

section Steps

variable {fuel level : Nat} {first : Bool} {c : Char} {cs cs' rest : List Char}

theorem items_close (h : skipBlank cs = ']' :: rest) :
    items (fuel + 1) level first cs = (.close, rest) := by
  rw [items.eq_def]
  simp [h]

theorem items_first (h : skipBlank cs = c :: cs') (hc : c ≠ ']') :
    items (fuel + 1) level true cs = item fuel level (c :: cs') := by
  rw [items.eq_def]
  simp [h, hc]

theorem items_next (h : skipBlank cs = ',' :: rest) (hrest : skipBlank rest = c :: cs')
    (hc : c ≠ ']') : items (fuel + 1) level false cs = item fuel level (c :: cs') := by
  rw [items.eq_def]
  simp [h, hrest, hc]

theorem members_close (h : skipBlank cs = '}' :: rest) :
    members (fuel + 1) level first cs = (.close, rest) := by
  rw [members.eq_def]
  simp [h]

theorem members_first (h : skipBlank cs = '"' :: cs') :
    members (fuel + 1) level true cs = member fuel level cs' := by
  rw [members.eq_def]
  simp [h]

theorem members_next (h : skipBlank cs = ',' :: rest) (hrest : skipBlank rest = '"' :: cs') :
    members (fuel + 1) level false cs = member fuel level cs' := by
  rw [members.eq_def]
  simp [h, hrest]

theorem value_digit (h : skipBlank cs = c :: cs') (hc : c.isDigit = true) :
    value (fuel + 1) level cs = numeral false (c :: cs') := by
  have hother : ∀ d : Char, d.isDigit = false → c ≠ d := by
    rintro d hd rfl
    exact absurd hc (by simp [hd])
  rw [value.eq_def]
  simp [h, hc, hother 'n' (by decide), hother 't' (by decide), hother 'f' (by decide),
    hother '-' (by decide), hother '\"' (by decide), hother '[' (by decide), hother '{' (by decide)]

end Steps

theorem skipBlank_of_not_blank {c : Char} (hc : isJsonBlank c = false) (cs : List Char) :
    skipBlank (c :: cs) = c :: cs := by
  simp [skipBlank, hc]

/-- What the reader makes of a text that starts with the phrase. It takes at most three steps of its
count for each character. -/
def Phrase.IsRead (cs rest : List Char) : Phrase → Prop
  | .value v => ∀ fuel, 3 * cs.length + 1 ≤ fuel → ∀ level,
      Json.value fuel level cs = (v.document level, rest)
  | .items first vs => ∀ fuel, 3 * cs.length + 3 ≤ fuel → ∀ level,
      Json.items fuel level first cs = (Value.documentItems level vs, rest)
  | .item v vs => (∃ c cs', skipBlank cs = c :: cs' ∧ c ≠ ']') ∧
      ∀ fuel, 3 * cs.length + 2 ≤ fuel → ∀ level, Json.item fuel level (skipBlank cs) =
        (.item (v.document level) (Value.documentItems level vs), rest)
  | .members first ms => ∀ fuel, 3 * cs.length + 3 ≤ fuel → ∀ level,
      Json.members fuel level first cs = (Value.documentMembers level ms, rest)
  | .member key v ms => ∃ cs', skipBlank cs = '"' :: cs' ∧
      ∀ fuel, 3 * cs.length + 1 ≤ fuel → ∀ level, Json.member fuel level cs' =
        (.member (.ofString key) (v.document level) (Value.documentMembers level ms), rest)
  | .colon v => ∃ cs', skipBlank cs = ':' :: cs' ∧ cs'.length < cs.length ∧
      ∀ fuel, 3 * cs'.length + 1 ≤ fuel → ∀ level,
        Json.value fuel level cs' = (v.document level, rest)

theorem forall_steps {n : Nat} {P : Nat → Prop} (h : ∀ fuel, n ≤ fuel → P (fuel + 1)) :
    ∀ fuel, n + 1 ≤ fuel → P fuel
  | 0, hfuel => absurd hfuel (Nat.not_succ_le_zero n)
  | fuel + 1, hfuel => h fuel (Nat.le_of_succ_le_succ hfuel)

theorem isJsonBlank_of_isDigit {c : Char} (h : c.isDigit = true) : isJsonBlank c = false := by
  cases hblank : isJsonBlank c with
  | false => rfl
  | true =>
    simp only [isJsonBlank, Bool.or_eq_true, beq_iff_eq] at hblank
    rcases hblank with ((rfl | rfl) | rfl) | rfl <;> revert h <;> decide

namespace Spells

variable {cs rest : List Char}

theorem length_lt {p : Phrase} (h : Spells p cs rest) : rest.length < cs.length := by
  induction h with
  | blank hc h ih => exact Nat.lt_succ_of_lt ih
  | @number n rest hrest =>
    have hpos : 0 < (Text.decimal n).length := List.length_pos_iff.mpr (Text.decimal_ne_nil n)
    rw [List.length_append]
    omega
  | string h => exact Nat.lt_succ_of_lt h.length_lt
  | item hv hvs ihv ihvs => exact Nat.lt_trans ihvs ihv
  | member hkey hv hms ihv ihms =>
    exact Nat.lt_succ_of_lt (Nat.lt_trans (Nat.lt_trans ihms ihv) hkey.length_lt)
  | firstItem h ih | firstMember h ih => exact ih
  | array h ih | object h ih | nextItem h ih | nextMember h ih | colon h ih =>
    exact Nat.lt_succ_of_lt ih
  | null | boolTrue | boolFalse | closeItems | closeMembers =>
    simp only [List.length_cons]
    omega

theorem skipBlank_value {v : Value} (h : Spells (.value v) cs rest) :
    ∃ c cs', skipBlank cs = c :: cs' ∧ c ≠ ']' := by
  generalize hp : Phrase.value v = p at h
  induction h with
  | blank hc h ih =>
    rw [skipBlank_cons_blank hc]
    exact ih hp
  | @number n rest hrest =>
    cases hdigits : Text.decimal n with
    | nil => exact absurd hdigits (Text.decimal_ne_nil n)
    | cons d ds =>
      have hd : d.isDigit = true :=
        Text.isDigit_of_mem_decimal (n := n) (hdigits ▸ List.mem_cons_self)
      refine ⟨d, ds ++ rest, skipBlank_of_not_blank (isJsonBlank_of_isDigit hd) _, ?_⟩
      rintro rfl
      revert hd
      decide
  | null | boolTrue | boolFalse | string | array | object =>
    exact ⟨_, _, skipBlank_of_not_blank (by decide) _, by decide⟩
  | _ => cases hp

theorem isRead_blank {p : Phrase} {c : Char} (hc : isJsonBlank c = true) (h : p.IsRead cs rest) :
    p.IsRead (c :: cs) rest := by
  have hskip : skipBlank (c :: cs) = skipBlank cs := skipBlank_cons_blank hc cs
  cases p with
  | value v =>
    refine forall_steps fun fuel hfuel level => ?_
    rw [← value_skipBlank, hskip, value_skipBlank]
    exact h (fuel + 1) (by simp only [List.length_cons] at hfuel; omega) level
  | items first vs =>
    refine forall_steps fun fuel hfuel level => ?_
    rw [← items_skipBlank, hskip, items_skipBlank]
    exact h (fuel + 1) (by simp only [List.length_cons] at hfuel; omega) level
  | members first ms =>
    refine forall_steps fun fuel hfuel level => ?_
    rw [← members_skipBlank, hskip, members_skipBlank]
    exact h (fuel + 1) (by simp only [List.length_cons] at hfuel; omega) level
  | item v vs =>
    obtain ⟨hhead, hitem⟩ := h
    refine ⟨hskip ▸ hhead, fun fuel hfuel level => ?_⟩
    rw [hskip]
    exact hitem fuel (by simp only [List.length_cons] at hfuel; omega) level
  | member key v ms =>
    obtain ⟨cs', hcs, hmember⟩ := h
    refine ⟨cs', hskip ▸ hcs, fun fuel hfuel level => hmember fuel ?_ level⟩
    simp only [List.length_cons] at hfuel
    omega
  | colon v =>
    obtain ⟨cs', hcs, hlength, hvalue⟩ := h
    exact ⟨cs', hskip ▸ hcs, Nat.lt_succ_of_lt hlength, hvalue⟩

theorem isRead {p : Phrase} (h : Spells p cs rest) : p.IsRead cs rest := by
  induction h with
  | blank hc h ih => exact isRead_blank hc ih
  | null | boolTrue | boolFalse =>
    refine forall_steps fun fuel hfuel level => ?_
    rw [Json.value, skipBlank_of_not_blank (by decide)]
    rfl
  | @number n rest hrest =>
    refine forall_steps fun fuel hfuel level => ?_
    have hread := numeral_decimal n hrest
    cases hdigits : Text.decimal n with
    | nil => exact absurd hdigits (Text.decimal_ne_nil n)
    | cons d ds =>
      have hd : d.isDigit = true :=
        Text.isDigit_of_mem_decimal (n := n) (hdigits ▸ List.mem_cons_self)
      rw [hdigits, List.cons_append] at hread
      rw [List.cons_append,
        value_digit (skipBlank_of_not_blank (isJsonBlank_of_isDigit hd) _) hd, hread,
        Value.document]
  | string h =>
    refine forall_steps fun fuel hfuel level => ?_
    rw [Json.value, skipBlank_of_not_blank (by decide)]
    simp [h.literal_eq, Value.document, String.ofList_toList]
  | array h ih =>
    refine forall_steps fun fuel hfuel level => ?_
    rw [Json.value, skipBlank_of_not_blank (by decide)]
    simp only [ih fuel (by simp only [List.length_cons] at hfuel; omega) (level + 1),
      Value.document]
  | object h ih =>
    refine forall_steps fun fuel hfuel level => ?_
    rw [Json.value, skipBlank_of_not_blank (by decide)]
    simp only [ih fuel (by simp only [List.length_cons] at hfuel; omega) (level + 1),
      Value.document]
  | closeItems =>
    refine forall_steps fun fuel hfuel level => ?_
    rw [items_close (skipBlank_of_not_blank (by decide) _), Value.documentItems]
  | firstItem h ih =>
    refine forall_steps fun fuel hfuel level => ?_
    obtain ⟨⟨c, cs', hcs, hc⟩, hitem⟩ := ih
    rw [items_first hcs hc, ← hcs, hitem fuel (by omega), Value.documentItems]
  | nextItem h ih =>
    refine forall_steps fun fuel hfuel level => ?_
    obtain ⟨⟨c, cs', hcs, hc⟩, hitem⟩ := ih
    simp only [List.length_cons] at hfuel
    rw [items_next (skipBlank_of_not_blank (by decide) _) hcs hc, ← hcs,
      hitem fuel (by omega), Value.documentItems]
  | item hv hvs ihv ihvs =>
    refine ⟨hv.skipBlank_value, fun fuel hfuel level => ?_⟩
    have hlength := hv.length_lt
    obtain ⟨fuel, rfl⟩ : ∃ n, fuel = n + 2 := ⟨fuel - 2, by omega⟩
    rw [Json.item, value_skipBlank, ihv (fuel + 1) (by omega)]
    simp only [ihvs (fuel + 1) (by omega)]
  | closeMembers =>
    refine forall_steps fun fuel hfuel level => ?_
    rw [members_close (skipBlank_of_not_blank (by decide) _), Value.documentMembers]
  | firstMember h ih =>
    refine forall_steps fun fuel hfuel level => ?_
    obtain ⟨cs', hcs, hmember⟩ := ih
    rw [members_first hcs, hmember fuel (by omega), Value.documentMembers]
  | nextMember h ih =>
    refine forall_steps fun fuel hfuel level => ?_
    obtain ⟨cs', hcs, hmember⟩ := ih
    simp only [List.length_cons] at hfuel
    rw [members_next (skipBlank_of_not_blank (by decide) _) hcs, hmember fuel (by omega),
      Value.documentMembers]
  | member hkey hv hms ihv ihms =>
    obtain ⟨cs', hcs, hlength, hvalue⟩ := ihv
    refine ⟨_, skipBlank_of_not_blank (by decide) _, fun fuel hfuel level => ?_⟩
    have hkeyLength := hkey.length_lt
    have hvLength := hv.length_lt
    simp only [List.length_cons] at hfuel
    obtain ⟨fuel, rfl⟩ : ∃ n, fuel = n + 1 := ⟨fuel - 1, by omega⟩
    rw [Json.member, hkey.literal_eq]
    simp only [hcs, hvalue fuel (by omega), ihms fuel (by omega), String.ofList_toList]
  | colon h ih =>
    exact ⟨_, skipBlank_of_not_blank (by decide) _, Nat.lt_succ_self _, ih⟩

end Spells

theorem skipBlank_of_all {cs : List Char} (h : cs.all isJsonBlank = true) : skipBlank cs = [] :=
  List.dropWhile_eq_nil_iff.mpr (List.all_eq_true.mp h)

theorem IsTextOf.parse {s : String} {v : Value} (h : IsTextOf s v) :
    Json.parse s = (v.document 0, true) := by
  obtain ⟨rest, hspells, hblank⟩ := h
  have hread := hspells.isRead (3 * s.toList.length + 3) (by omega) 0
  simp [Json.parse, hread, skipBlank_of_all hblank]

theorem Numeral.ofNat_inj {m n : Nat} (h : Numeral.ofNat m = Numeral.ofNat n) : m = n :=
  Text.decimal_inj.mp (congrArg Numeral.whole h)

theorem Literal.ofString_inj {s t : String} (h : Literal.ofString s = Literal.ofString t) : s = t :=
  Except.ok.inj (congrArg Literal.read h)

mutual

theorem Value.document_inj :
    ∀ {level : Nat} {v w : Value}, v.document level = w.document level → v = w
  | _, .null, w, h => by
    cases w with
    | null => rfl
    | _ => cases h
  | _, .bool b, w, h => by
    cases w with
    | bool c => rw [Document.bool.inj h]
    | _ => cases h
  | _, .number n, w, h => by
    cases w with
    | number m => rw [Numeral.ofNat_inj (Document.number.inj h)]
    | _ => cases h
  | _, .string s, w, h => by
    cases w with
    | string t => rw [Literal.ofString_inj (Document.string.inj h)]
    | _ => cases h
  | _, .array vs, w, h => by
    cases w with
    | array ws => rw [documentItems_inj (Document.array.inj h).2]
    | _ => cases h
  | _, .object ms, w, h => by
    cases w with
    | object ns => rw [documentMembers_inj (Document.object.inj h).2]
    | _ => cases h

theorem Value.documentItems_inj : ∀ {level : Nat} {vs ws : List Value},
    documentItems level vs = documentItems level ws → vs = ws
  | _, [], [], _ => rfl
  | _, v :: vs, w :: ws, h => by
    obtain ⟨hhead, htail⟩ := Items.item.inj h
    rw [document_inj hhead, documentItems_inj htail]

theorem Value.documentMembers_inj : ∀ {level : Nat} {ms ns : List (String × Value)},
    documentMembers level ms = documentMembers level ns → ms = ns
  | _, [], [], _ => rfl
  | _, (k, v) :: ms, (l, w) :: ns, h => by
    obtain ⟨hkey, hvalue, hrest⟩ := Members.member.inj h
    rw [Literal.ofString_inj hkey, document_inj hvalue, documentMembers_inj hrest]

end

theorem IsTextOf.unique {s : String} {v w : Value} (hv : IsTextOf s v)
    (hw : IsTextOf s w) : v = w :=
  Value.document_inj (Prod.mk.inj (hv.parse.symm.trans hw.parse)).1

theorem hexDigitsValue?_control {c : Char} (h : c < ' ') :
    Text.hexDigitsValue? ['0', '0', Text.lowerHexDigit (c.toNat / 16), Text.lowerHexDigit c.toNat] =
      some c.toNat := by
  have hdigits : ∀ n < 32, Text.hexDigitsValue?
      ['0', '0', Text.lowerHexDigit (n / 16), Text.lowerHexDigit n] = some n := by decide
  exact hdigits c.toNat h

theorem SpellsLiteral.escapeChar (c : Char) {s cs rest : List Char} (h : SpellsLiteral s cs rest) :
    SpellsLiteral (c :: s) (Json.escapeChar c ++ cs) rest := by
  unfold Json.escapeChar
  split_ifs with hquote hslash hback hform hline hreturn htab hcontrol
  · exact .escape (by rw [hquote]; rfl) h
  · exact .escape (by rw [hslash]; rfl) h
  · exact .escape (by rw [hback]; rfl) h
  · exact .escape (by rw [hform]; rfl) h
  · exact .escape (by rw [hline]; rfl) h
  · exact .escape (by rw [hreturn]; rfl) h
  · exact .escape (by rw [htab]; rfl) h
  · have hsmall : c.toNat < 32 := hcontrol
    have hunit := SpellsLiteral.unit (hexDigitsValue?_control hcontrol)
      (by simp only [isLeadingSurrogate, Bool.and_eq_false_iff, decide_eq_false_iff_not]; omega)
      (by simp only [isTrailingSurrogate, Bool.and_eq_false_iff, decide_eq_false_iff_not]; omega) h
    rwa [Char.ofNat_toNat] at hunit
  · exact .plain hcontrol hquote hslash h

theorem SpellsLiteral.escaped (s rest : List Char) :
    SpellsLiteral s (s.flatMap Json.escapeChar ++ '"' :: rest) rest := by
  induction s with
  | nil => exact .close
  | cons c s ih =>
    rw [List.flatMap_cons, List.append_assoc]
    exact ih.escapeChar c

namespace Value

theorem endsNumber_compactItems (vs : List Value) (rest : List Char) :
    EndsNumber (compactItems vs ++ rest) := by
  cases vs <;> simp [EndsNumber, compactItems]

theorem endsNumber_compactMembers (ms : List (String × Value)) (rest : List Char) :
    EndsNumber (compactMembers ms ++ rest) := by
  rcases ms with - | ⟨⟨k, v⟩, ms⟩ <;> simp [EndsNumber, compactMembers]

mutual

/-- A value on one line is a text of it, whatever follows that is not a part of a number. -/
theorem spells_compact : ∀ (v : Value) {rest : List Char}, EndsNumber rest →
    Spells (.value v) (v.compact ++ rest) rest
  | .null, _, _ => .null
  | .bool true, _, _ => .boolTrue
  | .bool false, _, _ => .boolFalse
  | .number _, _, hrest => .number hrest
  | .string s, rest, _ => by
    simp only [compact, quote, List.cons_append, List.append_assoc, List.nil_append]
    exact .string (SpellsLiteral.escaped s.toList rest)
  | .array [], _, _ => .array .closeItems
  | .array (v :: vs), rest, _ => by
    rw [compact, List.cons_append, List.append_assoc]
    exact .array (.firstItem (.item (spells_compact v (endsNumber_compactItems vs rest))
      (spells_compactItems vs rest)))
  | .object [], _, _ => .object .closeMembers
  | .object ((k, v) :: ms), rest, _ => by
    simp only [compact, quote, List.cons_append, List.append_assoc, List.nil_append]
    exact .object (.firstMember (.member (SpellsLiteral.escaped k.toList _)
      (.colon (spells_compact v (endsNumber_compactMembers ms rest)))
      (spells_compactMembers ms rest)))

theorem spells_compactItems : ∀ (vs : List Value) (rest : List Char),
    Spells (.items false vs) (compactItems vs ++ rest) rest
  | [], _ => .closeItems
  | v :: vs, rest => by
    rw [compactItems, List.cons_append, List.append_assoc]
    exact .nextItem (.item (spells_compact v (endsNumber_compactItems vs rest))
      (spells_compactItems vs rest))

theorem spells_compactMembers : ∀ (ms : List (String × Value)) (rest : List Char),
    Spells (.members false ms) (compactMembers ms ++ rest) rest
  | [], _ => .closeMembers
  | (k, v) :: ms, rest => by
    simp only [compactMembers, quote, List.cons_append, List.append_assoc, List.nil_append]
    exact .nextMember (.member (SpellsLiteral.escaped k.toList _)
      (.colon (spells_compact v (endsNumber_compactMembers ms rest)))
      (spells_compactMembers ms rest))

end

theorem isTextOf_text (v : Value) : IsTextOf v.text v := by
  refine ⟨[], ?_, rfl⟩
  have hends : EndsNumber [] := by simp [EndsNumber]
  have h := v.spells_compact hends
  simpa [text] using h

end Value
end Json
end PullDecoration
