import Mathlib.Data.List.DropRight
import PullDecoration.Text.Blank

/-! What trimming leaves of a text: nothing of a blank one, and of any other a text with no blank at
either end. -/
namespace PullDecoration
namespace Text

variable {c : Char} {cs ds : List Char} {s t : String}

theorem isBlankChar_of_isDigit {c : Char} (h : c.isDigit = true) : isBlankChar c = false := by
  simp only [Char.isDigit, Bool.and_eq_true, decide_eq_true_eq, UInt32.le_iff_toNat_le] at h
  have hlow : 48 ≤ c.toNat := h.1
  have hhigh : c.toNat ≤ 57 := h.2
  simp only [isBlankChar, Bool.or_eq_false_iff, Bool.and_eq_false_iff, decide_eq_false_iff_not,
    beq_eq_false_iff_ne]
  omega

theorem head_of_prefix_trimChars (h : c :: cs <+: trimChars ds) : isBlankChar c = false := by
  have hstart : c :: cs <+: trimStartChars ds := h.trans (List.rdropWhile_prefix isBlankChar _)
  have hhead := List.head?_dropWhile_not isBlankChar ds
  obtain ⟨rest, hrest⟩ := hstart
  rw [← trimStartChars, ← hrest] at hhead
  simpa using hhead

theorem last_of_suffix_trimChars (h : cs ++ [c] <:+ trimChars ds) : isBlankChar c = false := by
  obtain ⟨front, hfront⟩ := h
  have hreverse : (trimStartChars ds).reverse.dropWhile isBlankChar =
      c :: (front ++ cs).reverse := by
    rw [← List.reverse_reverse (List.dropWhile _ _), ← trimEndChars, ← trimChars, ← hfront]
    simp
  have hhead := List.head?_dropWhile_not isBlankChar (trimStartChars ds).reverse
  rw [hreverse] at hhead
  simpa using hhead

theorem trimChars_of_ends (hhead : ∀ d ∈ (cs ++ [c]).head?, isBlankChar d = false)
    (hlast : isBlankChar c = false) : trimChars (cs ++ [c]) = cs ++ [c] := by
  have hstart : trimStartChars (cs ++ [c]) = cs ++ [c] := by
    cases hcs : cs ++ [c] with
    | nil => rfl
    | cons d ds => exact List.dropWhile_cons_of_neg (by simpa [hcs] using hhead)
  rw [trimChars, hstart, trimEndChars, List.reverse_append, List.reverse_singleton,
    List.singleton_append, List.dropWhile_cons_of_neg (by simpa using hlast)]
  simp

theorem trimEndChars_append (h : ∀ c ∈ cs, isBlankChar c = false) (ds : List Char) :
    trimEndChars (cs ++ ds) = cs ++ trimEndChars ds := by
  induction cs with
  | nil => rfl
  | cons c cs ih =>
    obtain ⟨hc, hcs⟩ := List.forall_mem_cons.mp h
    rw [List.cons_append, trimEndChars_cons hc, ih hcs, List.cons_append]

theorem trimStartChars_of_head (h : ∀ c ∈ cs.head?, isBlankChar c = false) :
    trimStartChars cs = cs := by
  cases cs with
  | nil => rfl
  | cons c cs => exact List.dropWhile_cons_of_neg (by simpa using h)

/-- The last character is there, and is no blank. -/
def EndsVisibly (cs : List Char) : Prop := ∃ c ∈ cs.getLast?, isBlankChar c = false

theorem EndsVisibly.append (h : EndsVisibly ds) (cs : List Char) : EndsVisibly (cs ++ ds) := by
  obtain ⟨c, hlast, hc⟩ := h
  refine ⟨c, ?_, hc⟩
  rw [List.getLast?_append, Option.mem_def.mp hlast]
  rfl

theorem EndsVisibly.trimEndChars_append {bs : List Char} (h : EndsVisibly cs)
    (hbs : ∀ b ∈ bs, isBlankChar b = true) : trimEndChars (cs ++ bs) = cs := by
  obtain ⟨c, hlast, hc⟩ := h
  obtain ⟨front, hfront⟩ := List.getLast?_eq_some_iff.mp (Option.mem_def.mp hlast)
  have hblanks : ∀ b ∈ bs.reverse, isBlankChar b = true :=
    fun b hb => hbs b (List.mem_reverse.mp hb)
  rw [trimEndChars, List.reverse_append, List.dropWhile_append_of_pos hblanks, hfront,
    List.reverse_append, List.reverse_singleton, List.singleton_append,
    List.dropWhile_cons_of_neg (by simpa using hc)]
  simp

theorem trimChars_eq_nil_iff : trimChars cs = [] ↔ ∀ c ∈ cs, isBlankChar c = true := by
  constructor
  · intro h
    have hall : ∀ c ∈ trimStartChars cs, isBlankChar c = true := List.rdropWhile_eq_nil_iff.mp h
    cases hstart : trimStartChars cs with
    | nil => exact List.dropWhile_eq_nil_iff.mp hstart
    | cons c rest =>
      have hhead := List.head?_dropWhile_not isBlankChar cs
      rw [← trimStartChars, hstart] at hhead
      simp [hall c (by simp [hstart])] at hhead
  · intro h
    rw [trimChars, trimStartChars, List.dropWhile_eq_nil_iff.mpr h]
    rfl

theorem trim_eq_empty_iff : trim s = "" ↔ isBlank s = true := by
  rw [← String.toList_eq_nil_iff, trim_toList, trimChars_eq_nil_iff, isBlank, List.all_eq_true]

theorem nonBlank?_eq_none : nonBlank? s = none ↔ isBlank s = true := by
  simp [nonBlank?, trim_eq_empty_iff]

theorem nonBlank?_eq_some : nonBlank? s = some t ↔ isBlank s = false ∧ t = trim s := by
  rw [← Bool.not_eq_true, ← trim_eq_empty_iff, eq_comm (a := t)]
  by_cases h : trim s = "" <;> simp [nonBlank?, h]

/-- A text that begins like a trimmed one is not blank, unless nothing is there. -/
theorem isBlank_of_prefix_trim (h : t.toList <+: (trim s).toList) (hne : t ≠ "") :
    isBlank t = false := by
  obtain ⟨c, cs, hcs⟩ := List.exists_cons_of_ne_nil (mt String.toList_eq_nil_iff.mp hne)
  rw [trim_toList, hcs] at h
  simp [isBlank, hcs, head_of_prefix_trimChars h]

/-- A text that ends like a trimmed one is not blank, unless nothing is there. -/
theorem isBlank_of_suffix_trim (h : t.toList <:+ (trim s).toList) (hne : t ≠ "") :
    isBlank t = false := by
  have hnil : t.toList ≠ [] := mt String.toList_eq_nil_iff.mp hne
  rw [trim_toList, ← List.dropLast_concat_getLast hnil] at h
  rw [isBlank, ← List.dropLast_concat_getLast hnil, List.all_append]
  simp [last_of_suffix_trimChars h]

end Text
end PullDecoration
