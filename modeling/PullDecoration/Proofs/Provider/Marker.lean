import PullDecoration.Provider.Marker

/-! The mark and the texts that carry it. -/
namespace PullDecoration
namespace Marker

theorem isIn_iff {body : String} : isIn body = true ↔ token.toList <:+: body.toList := by
  rw [isIn, Text.contains, Text.occurs_iff]
  constructor
  · rintro ⟨before, behind, h⟩
    exact ⟨before, behind, by simp [h]⟩
  · rintro ⟨before, behind, h⟩
    exact ⟨before, behind, by simp [← h]⟩

theorem isIn_put (text : String) : isIn (put text) = true := by
  rw [isIn, Text.contains, Text.occurs_iff]
  exact ⟨"[](https://".toList, ")\n".toList ++ text.toList, by simp [put, link]⟩

theorem put_inj {s t : String} : put s = put t ↔ s = t := by
  constructor
  · intro h
    have hchars := congrArg String.toList h
    simp only [put, String.toList_append] at hchars
    exact String.toList_injective (List.append_cancel_left hchars)
  · rintro rfl
    rfl

end Marker
end PullDecoration
