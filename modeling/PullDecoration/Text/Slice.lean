/-! Pieces of a text: leading parts, parts inside, and cuts at the first occurrence of a character. -/
namespace PullDecoration
namespace Text

/-- What follows `lead`, if the text starts with it. -/
def dropLead? : List Char → List Char → Option (List Char)
  | [], cs => some cs
  | _ :: _, [] => none
  | p :: ps, c :: cs => if p = c then dropLead? ps cs else none

/-- Whether `part` occurs in the text without gaps. -/
def occurs (part : List Char) : List Char → Bool
  | [] => part.isEmpty
  | c :: cs => (dropLead? part (c :: cs)).isSome || occurs part cs

/-- The text before and after the first `mark`. -/
def cut? (mark : Char) : List Char → Option (List Char × List Char)
  | [] => none
  | c :: cs =>
    if c = mark then some ([], cs)
    else (cut? mark cs).map fun p => (c :: p.1, p.2)

/-- The parts between the occurrences of `mark`, one more than there are marks. -/
def parts (mark : Char) : List Char → List (List Char)
  | [] => [[]]
  | c :: cs =>
    if c = mark then [] :: parts mark cs
    else match parts mark cs with
      | [] => [[c]]
      | p :: ps => (c :: p) :: ps

def contains (part s : String) : Bool := occurs part.toList s.toList

theorem dropLead?_eq_some {p cs rest : List Char} : dropLead? p cs = some rest ↔ cs = p ++ rest := by
  induction p generalizing cs with
  | nil => simp [dropLead?]
  | cons c p ih =>
    cases cs with
    | nil => simp [dropLead?]
    | cons d cs => by_cases h : c = d <;> simp [dropLead?, h, ih, eq_comm]

/-- A text occurs in another one exactly if it is a part of it. -/
theorem occurs_iff {part cs : List Char} :
    occurs part cs = true ↔ ∃ before after, cs = before ++ part ++ after := by
  induction cs with
  | nil =>
    cases part with
    | nil => simp [occurs]
    | cons c part => simp [occurs]
  | cons c cs ih =>
    simp only [occurs, Bool.or_eq_true, Option.isSome_iff_exists, dropLead?_eq_some, ih]
    constructor
    · rintro (⟨after, h⟩ | ⟨before, after, h⟩)
      · exact ⟨[], after, h⟩
      · exact ⟨c :: before, after, by rw [h]; rfl⟩
    · rintro ⟨before, after, h⟩
      cases before with
      | nil => exact .inl ⟨after, h⟩
      | cons d before =>
        rw [List.cons_append, List.cons_append, List.cons.injEq] at h
        exact .inr ⟨before, after, h.2⟩

theorem cut?_append {mark : Char} {before after : List Char} (h : mark ∉ before) :
    cut? mark (before ++ mark :: after) = some (before, after) := by
  induction before with
  | nil => simp [cut?]
  | cons c before ih =>
    have hc : c ≠ mark := fun e => h (by simp [e])
    simp [cut?, hc, ih fun e => h (List.mem_cons_of_mem _ e)]

/-- The cut is at the first mark. -/
theorem cut?_eq_some {mark : Char} {cs before after : List Char} :
    cut? mark cs = some (before, after) ↔ cs = before ++ mark :: after ∧ mark ∉ before := by
  constructor
  · intro h
    induction cs generalizing before with
    | nil => cases h
    | cons c cs ih =>
      rw [cut?] at h
      split at h
      · rename_i hc
        cases h
        exact ⟨by rw [hc]; rfl, List.not_mem_nil⟩
      · rename_i hc
        obtain ⟨⟨front, behind⟩, hcut, hpair⟩ := Option.map_eq_some_iff.mp h
        cases hpair
        obtain ⟨rfl, hmark⟩ := ih hcut
        exact ⟨rfl, List.not_mem_cons_of_ne_of_not_mem (Ne.symm hc) hmark⟩
  · rintro ⟨rfl, hmark⟩
    exact cut?_append hmark

theorem parts_ne_nil (mark : Char) (cs : List Char) : parts mark cs ≠ [] := by
  cases cs with
  | nil => simp [parts]
  | cons c cs =>
    by_cases h : c = mark
    · simp [parts, h]
    · simp only [parts, h, if_false]; split <;> simp

end Text
end PullDecoration
