import PullDecoration.Proofs.Text.Parts
import PullDecoration.Report.RunId

/-! The written form of a run identifier, in five groups between hyphens, is read as the
identifier. -/
namespace PullDecoration

namespace Text

theorem octetCount_of_ascii {cs : List Char} (h : ∀ c ∈ cs, c.utf8Size = 1) :
    octetCount cs = cs.length := by
  have hfold : ∀ n, cs.foldl (fun n c => n + c.utf8Size) n = n + cs.length := by
    induction cs with
    | nil => exact fun n => rfl
    | cons c cs ih =>
      intro n
      obtain ⟨hhead, htail⟩ := List.forall_mem_cons.mp h
      rw [List.foldl_cons, ih htail, hhead, List.length_cons]
      omega
  simpa [octetCount] using hfold 0

end Text

namespace RunId

theorem digit?_lowerHexDigit (d : Fin 16) : digit? (Text.lowerHexDigit d.val) = some d := by
  revert d
  decide

theorem lowerHexDigit_ne_hyphen (d : Fin 16) : Text.lowerHexDigit d.val ≠ '-' := by
  revert d
  decide

theorem utf8Size_lowerHexDigit (d : Fin 16) : (Text.lowerHexDigit d.val).utf8Size = 1 := by
  revert d
  decide

theorem mapM_digit?_chars (ds : List (Fin 16)) : (chars ds).mapM digit? = some ds := by
  induction ds with
  | nil => rfl
  | cons d ds ih =>
    rw [chars, List.map_cons, List.mapM_cons, digit?_lowerHexDigit]
    rw [chars] at ih
    rw [ih]
    rfl

theorem plain?_chars (id : RunId) : plain? (chars id.digits) = some id := by
  simp [plain?, mapM_digit?_chars, id.length_digits]

theorem length_chars (id : RunId) : (chars id.digits).length = 32 := by
  rw [chars, List.length_map, id.length_digits]

theorem hyphen_notMem_chars (ds : List (Fin 16)) : '-' ∉ chars ds := by
  intro h
  obtain ⟨d, -, hd⟩ := List.mem_map.mp h
  exact lowerHexDigit_ne_hyphen d hd

theorem parts_textChars (id : RunId) :
    let ds := chars id.digits
    Text.parts '-' id.textChars =
      [ds.take 8, (ds.drop 8).take 4, (ds.drop 12).take 4, (ds.drop 16).take 4, ds.drop 20] := by
  have hdrop (n : Nat) : '-' ∉ (chars id.digits).drop n := fun h =>
    hyphen_notMem_chars _ (List.mem_of_mem_drop h)
  have htake (n m : Nat) : '-' ∉ ((chars id.digits).drop n).take m := fun h =>
    hdrop n (List.mem_of_mem_take h)
  have hfirst : '-' ∉ (chars id.digits).take 8 := htake 0 8
  simp only [textChars, List.append_assoc, List.cons_append]
  rw [Text.parts_append hfirst, Text.parts_append (htake 8 4), Text.parts_append (htake 12 4),
    Text.parts_append (htake 16 4), Text.parts_of_notMem (hdrop 20)]

theorem hyphenated?_textChars (id : RunId) : hyphenated? id.textChars = some id := by
  have hlength := id.length_chars
  have hgroups := id.parts_textChars
  have hflatten : (Text.parts '-' id.textChars).flatten = chars id.digits := by
    rw [hgroups]
    have hsplit (n m : Nat) :
        ((chars id.digits).drop n).take m ++ (chars id.digits).drop (n + m) =
          (chars id.digits).drop n := by
      rw [← List.drop_drop, List.take_append_drop]
    simp only [List.flatten_cons, List.flatten_nil, List.append_nil, hsplit 16 4, hsplit 12 4,
      hsplit 8 4]
    exact List.take_append_drop 8 _
  have hlengths : (Text.parts '-' id.textChars).map List.length = groupLengths := by
    rw [hgroups]
    simp [hlength, groupLengths]
  rw [hyphenated?, if_pos hlengths, hflatten, plain?_chars]

theorem octetCount_textChars (id : RunId) : Text.octetCount id.textChars = 36 := by
  have hlength := id.length_chars
  have hascii : ∀ c ∈ chars id.digits, c.utf8Size = 1 := by
    intro c hc
    obtain ⟨d, -, rfl⟩ := List.mem_map.mp hc
    exact utf8Size_lowerHexDigit d
  have hall : ∀ c ∈ id.textChars, c.utf8Size = 1 := by
    intro c hc
    simp only [textChars, List.mem_append, List.mem_cons] at hc
    have hpart : c = '-' ∨ c ∈ chars id.digits := by
      rcases hc with (((hc | hc | hc) | hc | hc) | hc | hc) | hc | hc
      all_goals first
        | exact .inl hc
        | exact .inr (List.mem_of_mem_take hc)
        | exact .inr (List.mem_of_mem_drop (List.mem_of_mem_take hc))
        | exact .inr (List.mem_of_mem_drop hc)
    rcases hpart with rfl | hc
    · decide
    · exact hascii c hc
  rw [Text.octetCount_of_ascii hall]
  simp [textChars, hlength]

theorem ofString_text (id : RunId) : ofString id.text = .ok id := by
  simp [ofString, text, ofChars, octetCount_textChars, hyphenated?_textChars]

end RunId
end PullDecoration
