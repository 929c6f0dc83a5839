import Mathlib.Data.List.Induction
import PullDecoration.Proofs.Json.Indented
import PullDecoration.Proofs.Json.Reading

/-! Whatever is read is written. A tree of the reader may hold faults, numerals that are no naturals
and strings with lone surrogates; where it has none of them it stands for a value, and then the text
that was used up is a text of that value. -/
namespace PullDecoration

namespace Text

theorem digitChar_of_isDigit {c : Char} (h : c.isDigit = true) :
    c.toNat - '0'.toNat < 10 ∧ (c.toNat - '0'.toNat).digitChar = c := by
  simp only [Char.isDigit, Bool.and_eq_true, decide_eq_true_eq, UInt32.le_iff_toNat_le] at h
  have hlow : 48 ≤ c.toNat := h.1
  have hhigh : c.toNat < 58 := Nat.lt_succ_of_le h.2
  have hdigits : ∀ n < 58, 48 ≤ n → n - '0'.toNat < 10 ∧
      (n - '0'.toNat).digitChar = Char.ofNat n := by
    decide
  have hc := hdigits c.toNat hhigh hlow
  rwa [Char.ofNat_toNat] at hc

theorem digitsValue_concat (cs : List Char) (c : Char) :
    digitsValue (cs ++ [c]) = 10 * digitsValue cs + (c.toNat - '0'.toNat) := by
  simp [digitsValue, Nat.ofDigitChars_append, Nat.ofDigitChars_cons]

theorem digitsValue_pos {c : Char} {cs : List Char} (hdigit : c.isDigit = true) (hzero : c ≠ '0') :
    0 < digitsValue (c :: cs) := by
  have hc : c.toNat - '0'.toNat ≠ 0 := by
    intro h
    have hchar := (digitChar_of_isDigit hdigit).2
    rw [h] at hchar
    exact hzero hchar.symm
  have hle := Json.le_ofDigitChars cs (10 * 0 + (c.toNat - '0'.toNat))
  rw [digitsValue, Nat.ofDigitChars_cons]
  omega

theorem decimal_digitsValue {cs : List Char} (hne : cs ≠ []) (hdigits : ∀ c ∈ cs, c.isDigit = true)
    (hhead : cs.head? ≠ some '0') : decimal (digitsValue cs) = cs := by
  induction cs using List.reverseRecOn with
  | nil => exact absurd rfl hne
  | append_singleton cs c ih =>
    obtain ⟨hsmall, hchar⟩ := digitChar_of_isDigit (hdigits c (by simp))
    rw [digitsValue_concat]
    cases cs with
    | nil => simp only [digitsValue, Nat.ofDigitChars_nil, Nat.mul_zero, Nat.zero_add,
      decimal_of_lt hsmall,
        hchar, List.nil_append]
    | cons d ds =>
      have hzero : d ≠ '0' := by simpa using hhead
      have hds : decimal (digitsValue (d :: ds)) = d :: ds :=
        ih (by simp) (fun e he => hdigits e (List.mem_append_left _ he)) (by simpa using hzero)
      have hpos : 0 < digitsValue (d :: ds) := digitsValue_pos (hdigits d (by simp)) hzero
      rw [decimal_of_ge (by omega), Nat.mul_add_div (by decide),
        Nat.div_eq_of_lt hsmall, Nat.add_zero, hds, Nat.mul_add_mod, Nat.mod_eq_of_lt hsmall, hchar]

end Text

namespace Json

mutual

/-- The value that a tree without faults stands for. -/
inductive Document.StandsFor : Document → Value → Prop
  | null : Document.StandsFor .null .null
  | bool (b : Bool) : Document.StandsFor (.bool b) (.bool b)
  | number {n : Numeral} {k : Nat} (h : n.number = .ok (.natural k)) :
      Document.StandsFor (.number n) (.number k)
  | string {s : Literal} {text : String} (h : s.read = .ok text) :
      Document.StandsFor (.string s) (.string text)
  | array {level : Nat} {items : Items} {vs : List Value} (h : Items.StandFor items vs) :
      Document.StandsFor (.array level items) (.array vs)
  | object {level : Nat} {members : Members} {ms : List (String × Value)}
      (h : Members.StandFor members ms) : Document.StandsFor (.object level members) (.object ms)

inductive Items.StandFor : Items → List Value → Prop
  | close : Items.StandFor .close []
  | item {head : Document} {rest : Items} {v : Value} {vs : List Value}
      (hhead : Document.StandsFor head v) (hrest : Items.StandFor rest vs) :
      Items.StandFor (.item head rest) (v :: vs)

inductive Members.StandFor : Members → List (String × Value) → Prop
  | close : Members.StandFor .close []
  | member {key : Literal} {value : Document} {rest : Members} {name : String} {v : Value}
      {ms : List (String × Value)} (hkey : key.read = .ok name)
      (hvalue : Document.StandsFor value v) (hrest : Members.StandFor rest ms) :
      Members.StandFor (.member key value rest) ((name, v) :: ms)

end

section Numbers

variable {negative : Bool} {whole cs rest : List Char}
  {fraction : Option (List Char)} {d : Document} {v : Value}

theorem Numeral.natural_of_number {n : Numeral} {k : Nat} (h : n.number = .ok (.natural k)) :
    n.negative = false ∧ n.fraction = none ∧ n.exponent = none ∧ k = Text.digitsValue n.whole := by
  obtain ⟨negative, whole, fraction, exponent⟩ := n
  have hreal (r : Except SyntaxError Double) : r.map Number.real ≠ .ok (.natural k) := by
    cases r <;> simp [Except.map]
  cases fraction with
  | some ds => exact absurd h (hreal _)
  | none =>
    cases exponent with
    | some e => exact absurd h (hreal _)
    | none =>
      simp only [Numeral.number] at h
      split at h
      · rename_i hleft
        cases h
        exact ⟨by simpa using hleft.2, rfl, rfl, gatherDigits_fst hleft.1⟩
      · split at h
        · cases h
        · exact absurd h (hreal _)

theorem exponentPart_standsFor (h : exponentPart negative whole fraction cs = (d, rest))
    (hd : d.StandsFor v) : d = .number ⟨negative, whole, fraction, none⟩ ∧ rest = cs ∧
      ∀ c ∈ cs.head?, c ≠ 'e' ∧ c ≠ 'E' := by
  cases cs with
  | nil =>
    cases h
    simp
  | cons c cs =>
    by_cases hmark : c = 'e' ∨ c = 'E'
    · simp only [exponentPart, hmark, if_true] at h
      split at h <;> split at h <;> cases h <;> cases hd
      all_goals
        rename_i hnatural
        cases (Numeral.natural_of_number hnatural).2.2.1
    · simp only [exponentPart, hmark, if_false] at h
      cases h
      simpa using hmark

theorem fractionPart_standsFor (h : fractionPart negative whole cs = (d, rest))
    (hd : d.StandsFor v) :
    d = .number ⟨negative, whole, none, none⟩ ∧ rest = cs ∧
      ∀ c ∈ cs.head?, c ≠ '.' ∧ c ≠ 'e' ∧ c ≠ 'E' := by
  unfold fractionPart at h
  split at h
  · simp only at h
    split at h
    · cases h
      cases hd
    · obtain ⟨rfl, -, -⟩ := exponentPart_standsFor h hd
      cases hd with
      | number hnatural => cases (Numeral.natural_of_number hnatural).2.1
  · rename_i hpoint
    obtain ⟨rfl, rfl, hhead⟩ := exponentPart_standsFor h hd
    refine ⟨rfl, rfl, fun c hc => ⟨?_, hhead c hc⟩⟩
    rintro rfl
    obtain ⟨cs', rfl⟩ := List.head?_eq_some_iff.mp hc
    exact hpoint cs' rfl

/-- The digits in front of what cannot go on a number are a text of the number. -/
theorem spells_of_whole (hd : (Document.number ⟨negative, whole, none, none⟩).StandsFor v)
    (hwhole : Text.decimal (Text.digitsValue whole) = whole) (hrest : EndsNumber rest) :
    negative = false ∧ Spells (.value v) (whole ++ rest) rest := by
  cases hd with
  | number hnatural =>
    obtain ⟨rfl, -, -, rfl⟩ := Numeral.natural_of_number hnatural
    have hspells := Spells.number (n := Text.digitsValue whole) hrest
    exact ⟨rfl, by rwa [hwhole] at hspells⟩

theorem numeral_standsFor (h : numeral negative cs = (d, rest)) (hd : d.StandsFor v) :
    negative = false ∧ Spells (.value v) cs rest := by
  cases cs with
  | nil =>
    cases h
    cases hd
  | cons c cs =>
    by_cases hzero : c = '0'
    · simp only [numeral, hzero, if_true] at h
      split at h
      · cases h
        split at hd <;> cases hd
      · rename_i hlone
        obtain ⟨rfl, rfl, hhead⟩ := fractionPart_standsFor h hd
        rw [hzero]
        refine spells_of_whole hd (by decide) fun e he => ⟨?_, hhead e he⟩
        simpa [Option.mem_def.mp he] using hlone
    · by_cases hdigit : c.isDigit = true
      · simp only [numeral, hzero, hdigit, if_true, if_false] at h
        obtain ⟨rfl, rfl, hhead⟩ := fractionPart_standsFor h hd
        have hdigits : ∀ e ∈ c :: cs.takeWhile Char.isDigit, e.isDigit = true :=
          List.forall_mem_cons.mpr ⟨hdigit, fun _ => List.mem_takeWhile_imp⟩
        have hstop := List.head?_dropWhile_not Char.isDigit cs
        have hwhole := Text.decimal_digitsValue (List.cons_ne_nil c _) hdigits
          (by simpa using hzero)
        have hspells := spells_of_whole hd hwhole fun e he =>
          ⟨by rwa [Option.mem_def.mp he] at hstop, hhead e he⟩
        rwa [List.cons_append, List.takeWhile_append_dropWhile] at hspells
      · simp only [numeral, hzero, hdigit, if_false] at h
        cases h
        cases hd

end Numbers

theorem word_eq {d d' : Document} {ps cs rest : List Char} {v : Value}
    (h : word d ps cs = (d', rest)) (hd : d'.StandsFor v) : d' = d ∧ cs = ps ++ rest := by
  induction ps generalizing cs with
  | nil =>
    cases h
    exact ⟨rfl, rfl⟩
  | cons p ps ih =>
    cases cs with
    | nil =>
      cases h
      cases hd
    | cons c cs =>
      rw [word] at h
      split at h
      · rename_i hpc
        obtain ⟨rfl, rfl⟩ := ih h
        exact ⟨rfl, by rw [hpc, List.cons_append]⟩
      · cases h
        cases hd

section Literals

/-- The pieces of a literal behind its opening quote, its text with what follows, and what follows
the closing quote. -/
inductive SpellsPieces : List Piece → List Char → List Char → Prop
  | close {rest : List Char} : SpellsPieces [] ('"' :: rest) rest
  | plain {c : Char} {ps : List Piece} {cs rest : List Char}
      (hcontrol : ¬ c < ' ') (hquote : c ≠ '"') (hslash : c ≠ '\\') (h : SpellsPieces ps cs rest) :
      SpellsPieces (.char c :: ps) (c :: cs) rest
  | escape {e c : Char} {ps : List Piece} {cs rest : List Char} (he : simpleEscape? e = some c)
      (h : SpellsPieces ps cs rest) : SpellsPieces (.char c :: ps) ('\\' :: e :: cs) rest
  | unit {a b c d : Char} {n : Nat} {ps : List Piece} {cs rest : List Char}
      (hn : Text.hexDigitsValue? [a, b, c, d] = some n) (h : SpellsPieces ps cs rest) :
      SpellsPieces (.unit n :: ps) ('\\' :: 'u' :: a :: b :: c :: d :: cs) rest

theorem pieces_closed {acc ps : List Piece} {cs rest : List Char}
    (h : pieces acc cs = (ps, .closed, rest)) :
    ∃ ps', ps = acc.reverse ++ ps' ∧ SpellsPieces ps' cs rest := by
  fun_induction pieces acc cs with
  | case2 acc rest =>
    cases h
    exact ⟨[], by simp, .close⟩
  | case4 acc a b c d cs n hn ih =>
    obtain ⟨ps', rfl, hps⟩ := ih h
    exact ⟨.unit n :: ps', by simp, .unit hn hps⟩
  | case6 =>
    obtain ⟨-, hend⟩ := Prod.mk.inj h
    split at hend <;> cases hend
  | case7 acc e cs _ _ c he ih =>
    obtain ⟨ps', rfl, hps⟩ := ih h
    exact ⟨.char c :: ps', by simp, .escape he hps⟩
  | case10 acc c cs hquote hlast _ _ hescape hcontrol ih =>
    have hslash : c ≠ '\\' := by
      intro hc
      cases cs with
      | nil => exact hlast hc rfl
      | cons d cs => exact hescape d cs hc rfl
    obtain ⟨ps', rfl, hps⟩ := ih h
    exact ⟨.char c :: ps', by simp, .plain hcontrol hquote hslash hps⟩
  | _ => cases h

theorem eq_closed_of_assemble {fin : LiteralEnd} {acc s : List Char} {ps : List Piece}
    (h : assemble fin acc ps = .ok s) : fin = .closed := by
  fun_induction assemble fin acc ps with
  | case1 acc hend => cases fin <;> simp_all [LiteralEnd.skip]
  | case3 _ _ _ ih => exact ih h
  | case5 _ _ _ _ _ _ _ ih => exact ih h
  | case9 _ _ _ _ _ ih => exact ih h
  | _ => cases h

theorem SpellsPieces.literal {acc s cs rest : List Char} {ps : List Piece}
    (hps : SpellsPieces ps cs rest) (h : assemble .closed acc ps = .ok s) :
    ∃ t, s = acc.reverse ++ t ∧ SpellsLiteral t cs rest := by
  fun_induction assemble .closed acc ps generalizing cs with
  | case1 acc =>
    cases h
    cases hps
    exact ⟨[], by simp, .close⟩
  | case3 acc c ps ih =>
    cases hps with
    | plain hcontrol hquote hslash hps =>
      obtain ⟨t, rfl, ht⟩ := ih hps h
      exact ⟨c :: t, by simp, .plain hcontrol hquote hslash ht⟩
    | escape he hps =>
      obtain ⟨t, rfl, ht⟩ := ih hps h
      exact ⟨c :: t, by simp, .escape he ht⟩
  | case5 acc n hfirst hleading m ps htrailing ih =>
    cases hps with
    | unit hn hps =>
      cases hps with
      | unit hm hps =>
        obtain ⟨t, rfl, ht⟩ := ih hps h
        exact ⟨_ :: t, by simp, .pair hn hleading hm htrailing ht⟩
  | case9 acc n ps htrailing hleading ih =>
    cases hps with
    | unit hn hps =>
      obtain ⟨t, rfl, ht⟩ := ih hps h
      exact ⟨_ :: t, by simp, .unit hn (by simpa using hleading) (by simpa using htrailing) ht⟩
  | _ => cases h

theorem spellsLiteral_of_literal {cs rest : List Char} {s : Literal} {text : String}
    (h : literal cs = (s, rest)) (hs : s.read = .ok text) : SpellsLiteral text.toList cs rest := by
  obtain ⟨⟨ps, fin, rest'⟩, hpieces⟩ : ∃ r, pieces [] cs = r := ⟨_, rfl⟩
  simp only [Json.literal, hpieces] at h
  cases h
  obtain ⟨t, ht, rfl⟩ := map_eq_ok.mp hs
  obtain rfl := eq_closed_of_assemble ht
  obtain ⟨ps', rfl, hps⟩ := pieces_closed hpieces
  obtain ⟨t', rfl, hspells⟩ := hps.literal ht
  simpa using hspells

end Literals

theorem Spells.of_skipBlank {p : Phrase} {cs rest : List Char} (h : Spells p (skipBlank cs) rest) :
    Spells p cs rest := by
  have hblanks := h.blanks fun c (hc : c ∈ cs.takeWhile isJsonBlank) => List.mem_takeWhile_imp hc
  rwa [skipBlank, List.takeWhile_append_dropWhile] at hblanks

theorem length_skipBlank_le (cs : List Char) : (skipBlank cs).length ≤ cs.length :=
  (List.dropWhile_suffix _).length_le

theorem length_lt_of_skipBlank {c : Char} {cs cs' : List Char} (h : skipBlank cs = c :: cs') :
    cs'.length < cs.length := by
  have hle := length_skipBlank_le cs
  rw [h, List.length_cons] at hle
  exact hle

/-- With so much on the count, the reader uses up a text of whatever it reads. -/
structure SoundAt (fuel : Nat) : Prop where
  value {level : Nat} {cs rest : List Char} {d : Document} {v : Value}
  (hfuel : 3 * cs.length + 1 ≤ fuel)
    (h : Json.value fuel level cs = (d, rest)) (hd : d.StandsFor v) : Spells (.value v) cs rest
  items {level : Nat} {first : Bool} {cs rest : List Char} {is : Items} {vs : List Value}
    (hfuel : 3 * cs.length + 3 ≤ fuel) (h : Json.items fuel level first cs = (is, rest))
    (his : is.StandFor vs) : Spells (.items first vs) cs rest
  item {level : Nat} {cs rest : List Char} {is : Items} {vs : List Value}
  (hfuel : 3 * cs.length + 2 ≤ fuel)
    (h : Json.item fuel level cs = (is, rest)) (his : is.StandFor vs) :
    ∃ v vs', vs = v :: vs' ∧ Spells (.item v vs') cs rest
  members {level : Nat} {first : Bool} {cs rest : List Char} {ms : Members}
  {l : List (String × Value)}
    (hfuel : 3 * cs.length + 3 ≤ fuel) (h : Json.members fuel level first cs = (ms, rest))
    (hms : ms.StandFor l) : Spells (.members first l) cs rest
  member {level : Nat} {cs rest : List Char} {ms : Members} {l : List (String × Value)}
    (hfuel : 3 * cs.length + 1 ≤ fuel) (h : Json.member fuel level cs = (ms, rest))
    (hms : ms.StandFor l) :
    ∃ key v l', l = (key, v) :: l' ∧ Spells (.member key v l') ('"' :: cs) rest

namespace SoundAt

variable {fuel level : Nat} {first : Bool} {cs rest : List Char}

theorem value_succ {d : Document} {v : Value} (hsound : SoundAt fuel)
    (hfuel : 3 * cs.length + 1 ≤ fuel + 1) (h : Json.value (fuel + 1) level cs = (d, rest))
    (hd : d.StandsFor v) : Spells (.value v) cs rest := by
  rw [Json.value] at h
  refine Spells.of_skipBlank ?_
  -- By the first character. What breaks off leaves a fault in the tree, and that stands for no
  -- value.
  split at h
  · cases h
    cases hd
  · rename_i hcs
    obtain ⟨rfl, rfl⟩ := word_eq h hd
    cases hd
    exact hcs ▸ .null
  · rename_i hcs
    obtain ⟨rfl, rfl⟩ := word_eq h hd
    cases hd
    exact hcs ▸ .boolTrue
  · rename_i hcs
    obtain ⟨rfl, rfl⟩ := word_eq h hd
    cases hd
    exact hcs ▸ .boolFalse
  · cases (numeral_standsFor h hd).1
  · rename_i hcs
    simp only at h
    cases h
    cases hd with
    | string hs => exact hcs ▸ .string (spellsLiteral_of_literal rfl hs)
  · rename_i hcs
    have hlength := length_lt_of_skipBlank hcs
    simp only at h
    cases h
    cases hd with
    | array his => exact hcs ▸ .array (hsound.items (by omega) rfl his)
  · rename_i hcs
    have hlength := length_lt_of_skipBlank hcs
    simp only at h
    cases h
    cases hd with
    | object hms => exact hcs ▸ .object (hsound.members (by omega) rfl hms)
  · rename_i hcs
    split at h
    · exact hcs ▸ (numeral_standsFor h hd).2
    · cases h
      cases hd

theorem items_succ {is : Items} {vs : List Value} (hsound : SoundAt fuel)
    (hfuel : 3 * cs.length + 3 ≤ fuel + 1) (h : Json.items (fuel + 1) level first cs = (is, rest))
    (his : is.StandFor vs) : Spells (.items first vs) cs rest := by
  rw [Json.items.eq_def] at h
  simp only at h
  refine Spells.of_skipBlank ?_
  split at h
  · cases h
    cases his
  · rename_i hcs
    cases h
    cases his
    exact hcs ▸ .closeItems
  · have hlength := length_skipBlank_le cs
    obtain ⟨v, vs', rfl, hitem⟩ := hsound.item (by omega) h his
    exact .firstItem hitem
  · rename_i behind hcs
    have hlength := length_lt_of_skipBlank hcs
    have hbehind := length_skipBlank_le behind
    split at h
    · cases h
      cases his
    · cases h
      cases his
    · obtain ⟨v, vs', rfl, hitem⟩ := hsound.item (by omega) h his
      exact hcs ▸ .nextItem hitem.of_skipBlank
  · cases h
    cases his

theorem item_succ {is : Items} {vs : List Value} (hsound : SoundAt fuel)
    (hfuel : 3 * cs.length + 2 ≤ fuel + 1) (h : Json.item (fuel + 1) level cs = (is, rest))
    (his : is.StandFor vs) : ∃ v vs', vs = v :: vs' ∧ Spells (.item v vs') cs rest := by
  simp only [Json.item] at h
  cases h
  cases his with
  | @item _ _ v vs hhead htail =>
    have hv := hsound.value (by omega) rfl hhead
    -- At least one character is used up, which is enough for the three steps to the next item.
    have hlength := hv.length_lt
    exact ⟨v, vs, rfl, .item hv (hsound.items (by omega) rfl htail)⟩

theorem members_succ {ms : Members} {l : List (String × Value)} (hsound : SoundAt fuel)
    (hfuel : 3 * cs.length + 3 ≤ fuel + 1) (h : Json.members (fuel + 1) level first cs = (ms, rest))
    (hms : ms.StandFor l) : Spells (.members first l) cs rest := by
  rw [Json.members.eq_def] at h
  simp only at h
  refine Spells.of_skipBlank ?_
  split at h
  · cases h
    cases hms
  · rename_i hcs
    cases h
    cases hms
    exact hcs ▸ .closeMembers
  · rename_i hcs
    have hlength := length_lt_of_skipBlank hcs
    obtain ⟨key, v, l', rfl, hmember⟩ := hsound.member (by omega) h hms
    exact hcs ▸ .firstMember hmember
  · cases h
    cases hms
  · rename_i behind hcs
    have hlength := length_lt_of_skipBlank hcs
    split at h
    · cases h
      cases hms
    · cases h
      cases hms
    · rename_i hbehind
      have hquote := length_lt_of_skipBlank hbehind
      obtain ⟨key, v, l', rfl, hmember⟩ := hsound.member (by omega) h hms
      have hspells : Spells (.member key v l') behind rest :=
        Spells.of_skipBlank (hbehind ▸ hmember)
      exact hcs ▸ .nextMember hspells
    · cases h
      cases hms
  · cases h
    cases hms

theorem member_succ {ms : Members} {l : List (String × Value)} (hsound : SoundAt fuel)
    (hfuel : 3 * cs.length + 1 ≤ fuel + 1) (h : Json.member (fuel + 1) level cs = (ms, rest))
    (hms : ms.StandFor l) : ∃ key v l', l = (key, v) :: l' ∧
    Spells (.member key v l') ('"' :: cs) rest := by
  obtain ⟨⟨key, behind⟩, hkey⟩ : ∃ r, literal cs = r := ⟨_, rfl⟩
  simp only [Json.member, hkey] at h
  split at h
  · rename_i hcolon
    cases h
    cases hms with
    | @member _ _ _ name v l hname hv hl =>
      have hliteral := spellsLiteral_of_literal hkey hname
      have hlength := hliteral.length_lt
      have hbehind := length_lt_of_skipBlank hcolon
      have hspells := hsound.value (by omega) rfl hv
      have hrest := hspells.length_lt
      have hbehindColon := Spells.colon hspells
      rw [← hcolon] at hbehindColon
      exact ⟨name, v, l, rfl,
        .member hliteral hbehindColon.of_skipBlank (hsound.members (by omega) rfl hl)⟩
  · cases h
    cases hms with
    | member _ hv _ => cases hv
  · cases h
    cases hms with
    | member _ hv _ => cases hv

end SoundAt

/-- Each step calls the reader with less on the count and on a text short enough for it. -/
theorem soundAt (fuel : Nat) : SoundAt fuel := by
  induction fuel with
  | zero => constructor <;> intros <;> omega
  | succ fuel ih => exact ⟨ih.value_succ, ih.items_succ, ih.item_succ,
    ih.members_succ, ih.member_succ⟩

/-- A text that is read wholly, and as a tree that stands for a value, is a text of that value. -/
theorem isTextOf_of_parse {s : String} {d : Document} {v : Value} (h : parse s = (d, true))
    (hd : d.StandsFor v) : IsTextOf s v := by
  obtain ⟨hvalue, hblank⟩ := Prod.mk.inj h
  have hspells := (soundAt _).value (by omega) (Prod.ext hvalue rfl) hd
  refine ⟨_, hspells, ?_⟩
  exact List.all_eq_true.mpr (List.dropWhile_eq_nil_iff.mp (List.isEmpty_iff.mp hblank))

end Json
end PullDecoration
