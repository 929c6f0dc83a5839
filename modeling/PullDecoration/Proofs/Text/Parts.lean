import Mathlib.Data.List.Basic
import PullDecoration.Text.Natural
import PullDecoration.Text.Slice

/-! Texts in parts: where the first part ends, and which texts are numerals. -/
namespace PullDecoration
namespace Text

theorem parts_of_notMem {mark : Char} {cs : List Char} (h : mark ∉ cs) : parts mark cs = [cs] := by
  induction cs with
  | nil => rfl
  | cons c cs ih =>
    simp only [List.mem_cons, not_or] at h
    simp [parts, Ne.symm h.1, ih h.2]

theorem parts_append {mark : Char} {before after : List Char} (h : mark ∉ before) :
    parts mark (before ++ mark :: after) = before :: parts mark after := by
  induction before with
  | nil => simp [parts]
  | cons c before ih =>
    simp only [List.mem_cons, not_or] at h
    simp [parts, Ne.symm h.1, ih h.2]

/-- There is one part of a text without marks; otherwise the others are those behind the first
mark. -/
theorem parts_eq_cons {mark : Char} {cs p : List Char} {ps : List (List Char)} :
    parts mark cs = p :: ps ↔ mark ∉ p ∧
      (cs = p ∧ ps = [] ∨ ∃ rest, cs = p ++ mark :: rest ∧ parts mark rest = ps) := by
  constructor
  · intro h
    by_cases hmem : mark ∈ cs
    · obtain ⟨before, after, rfl, hbefore⟩ := List.eq_append_cons_of_mem hmem
      rw [parts_append hbefore] at h
      obtain ⟨rfl, hrest⟩ := List.cons.inj h
      exact ⟨hbefore, .inr ⟨after, rfl, hrest⟩⟩
    · rw [parts_of_notMem hmem] at h
      obtain ⟨rfl, rfl⟩ := List.cons.inj h
      exact ⟨hmem, .inl ⟨rfl, rfl⟩⟩
  · rintro ⟨hmark, ⟨rfl, rfl⟩ | ⟨rest, rfl, rfl⟩⟩
    · exact parts_of_notMem hmark
    · exact parts_append hmark

theorem append_mark_inj {mark : Char} {cs ds rest rest' : List Char}
    (hcs : mark ∉ cs) (hds : mark ∉ ds) (h : cs ++ mark :: rest = ds ++ mark :: rest') :
    cs = ds ∧ rest = rest' := by
  have hcut := congrArg (cut? mark) h
  rw [cut?_append hcs, cut?_append hds] at hcut
  exact Prod.mk.inj (Option.some.inj hcut)

theorem decimal_append_inj {mark : Char} (hmark : mark.isDigit = false) {m n : Nat}
    {rest rest' : List Char} (h : decimal m ++ mark :: rest = decimal n ++ mark :: rest') :
    m = n ∧ rest = rest' := by
  have hnot (k : Nat) : mark ∉ decimal k := by
    intro hmem
    rw [isDigit_of_mem_decimal hmem] at hmark
    cases hmark
  obtain ⟨hdigits, hrest⟩ := append_mark_inj (hnot m) (hnot n) h
  exact ⟨decimal_inj.mp hdigits, hrest⟩

structure IsDigits (ds : List Char) : Prop where
  nonempty : ds ≠ []
  digits : ∀ d ∈ ds, d.isDigit = true

/-- A numeral and its value in base ten: digits alone or behind a plus sign. -/
inductive IsNumeral : List Char → Nat → Prop
  | plain {ds : List Char} (h : IsDigits ds) : IsNumeral ds (Nat.ofDigitChars 10 ds 0)
  | signed {ds : List Char} (h : IsDigits ds) : IsNumeral ('+' :: ds) (Nat.ofDigitChars 10 ds 0)

theorem boundedNumeral?_digits {bound n : Nat} {ds : List Char} :
    (if ds.isEmpty || !ds.all Char.isDigit then none
      else if digitsValue ds < bound then some (digitsValue ds) else none) = some n ↔
      IsDigits ds ∧ Nat.ofDigitChars 10 ds 0 = n ∧ n < bound := by
  have hdigits : (ds.isEmpty || !ds.all Char.isDigit) = true ↔ ¬ IsDigits ds := by
    have hfields : IsDigits ds ↔ ds ≠ [] ∧ ∀ d ∈ ds, d.isDigit = true :=
      ⟨fun h => ⟨h.nonempty, h.digits⟩, fun h => ⟨h.1, h.2⟩⟩
    rw [hfields]
    by_cases hnil : ds = [] <;> simp [hnil]
  split
  · rename_i h
    simp [hdigits.mp h]
  · rename_i h
    have hds : IsDigits ds := not_not.mp (mt hdigits.mpr h)
    have hvalue : digitsValue ds = Nat.ofDigitChars 10 ds 0 := rfl
    rw [hvalue]
    split
    · rename_i hbound
      simp only [Option.some.injEq, hds, true_and]
      constructor
      · rintro rfl
        exact ⟨rfl, hbound⟩
      · exact And.left
    · rename_i hbound
      simp only [reduceCtorEq, hds, true_and, false_iff]
      rintro ⟨rfl, hlt⟩
      exact hbound hlt

theorem boundedNumeral?_eq_some {bound n : Nat} {cs : List Char} :
    boundedNumeral? bound cs = some n ↔ IsNumeral cs n ∧ n < bound := by
  constructor
  · intro h
    unfold boundedNumeral? at h
    split at h
    · obtain ⟨hds, rfl, hbound⟩ := boundedNumeral?_digits.mp h
      exact ⟨.signed hds, hbound⟩
    · obtain ⟨hds, rfl, hbound⟩ := boundedNumeral?_digits.mp h
      exact ⟨.plain hds, hbound⟩
  · rintro ⟨hnumeral, hbound⟩
    cases hnumeral with
    | plain hds =>
      unfold boundedNumeral?
      split
      · -- a sign is no digit
        exact absurd (hds.digits '+' List.mem_cons_self) (by decide)
      · exact boundedNumeral?_digits.mpr ⟨hds, rfl, hbound⟩
    | signed hds => exact boundedNumeral?_digits.mpr ⟨hds, rfl, hbound⟩

theorem isNumeral_decimal (n : Nat) : IsNumeral (decimal n) n := by
  have h := IsNumeral.plain ⟨decimal_ne_nil n, fun d hd => isDigit_of_mem_decimal hd⟩
  rwa [← digitsValue, digitsValue_decimal] at h

end Text
end PullDecoration
