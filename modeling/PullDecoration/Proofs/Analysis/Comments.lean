import PullDecoration.Analysis.Wording

/-! The comments that an analysis asks for: which issues get one, at which positions they stand, and
how the texts begin. The text on an issue is never that of a summary. -/
namespace PullDecoration
namespace Analysis

theorem openPositions_map_fst (a : Analysis) : a.openPositions.map (·.1) = a.openIssues := by
  have hfilter := List.filter_map (f := Prod.fst) (p := Issue.isOpen) (l := a.issues.zipIdx)
  rw [List.zipIdx_map_fst] at hfilter
  exact hfilter.symm

theorem mem_openPositions {a : Analysis} {i : Issue} {n : Nat} :
    (i, n) ∈ a.openPositions ↔ a.issues[n]? = some i ∧ i.isOpen = true := by
  simp [openPositions, List.mk_mem_zipIdx_iff_getElem?]

theorem openPositions_increasing (a : Analysis) :
    (a.openPositions.map (·.2)).Pairwise (· < ·) := by
  have hall : (a.issues.zipIdx.map (·.2)).Pairwise (· < ·) := by
    rw [List.zipIdx_map_snd]
    exact List.pairwise_lt_range'
  exact hall.sublist (List.filter_sublist.map _)

theorem mem_openPositions_map_snd {a : Analysis} {n : Nat} :
    n ∈ a.openPositions.map (·.2) ↔ ∃ i, a.issues[n]? = some i ∧ i.isOpen = true := by
  constructor
  · intro h
    obtain ⟨⟨i, m⟩, hmem, rfl⟩ := List.mem_map.mp h
    exact ⟨i, mem_openPositions.mp hmem⟩
  · rintro ⟨i, hi⟩
    exact List.mem_map.mpr ⟨(i, n), mem_openPositions.mpr hi, rfl⟩

theorem summary_start (a : Analysis) : ∃ rest, a.summary.toList = '#' :: rest := by
  have hlines : ∃ rest, (a.summaryLines.flatMap fun line => line.toList ++ ['\n']) =
      '#' :: rest := by
    simp [summaryLines]
  obtain ⟨rest, hrest⟩ := hlines
  refine ⟨Text.trimEndChars rest, ?_⟩
  rw [summary, hrest, String.toList_ofList, Text.trimEndChars_cons (by decide)]

end Analysis

theorem Issue.text_start (i : Issue) : ∃ rest, i.text.toList = '*' :: rest := by
  unfold Issue.text
  cases i.rule with
  | none => simp
  | some rule => simp

theorem Issue.text_ne_summary (i : Issue) (a : Analysis) : i.text ≠ a.summary := by
  obtain ⟨rest, hrest⟩ := i.text_start
  obtain ⟨rest', hrest'⟩ := a.summary_start
  intro h
  rw [h, hrest'] at hrest
  cases hrest

end PullDecoration
