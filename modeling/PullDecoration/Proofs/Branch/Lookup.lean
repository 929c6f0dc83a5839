import Mathlib.Data.List.Nodup
import PullDecoration.Branch.Registry

/-! Lookups among the records, said without a search: the record found is the first that fits, and
nothing is found if none fits. What is found under a name changes neither with records behind that
are already known by their names, nor with the order of records that all have names of their own. -/
namespace PullDecoration
namespace Registry

variable {g g' : Registry} {name : String} {record : BranchRecord}

structure IsFirst (g : Registry) (fits : BranchRecord → Prop) (record : BranchRecord) : Prop where
  holds : fits record
  place : ∃ earlier later, g.records = earlier ++ record :: later ∧ ∀ other ∈ earlier, ¬ fits other

abbrev FirstNamed (g : Registry) (name : String) (record : BranchRecord) : Prop :=
  g.IsFirst (·.name.text = name) record

abbrev FirstOf (g : Registry) (uuid : BranchUuid) (record : BranchRecord) : Prop :=
  g.IsFirst (·.uuid = uuid) record

def Lacks (g : Registry) (name : String) : Prop := ∀ record ∈ g.records, record.name.text ≠ name

theorem IsFirst.mem {fits : BranchRecord → Prop} (h : g.IsFirst fits record) :
    record ∈ g.records := by
  obtain ⟨earlier, later, hrecords, -⟩ := h.place
  rw [hrecords]
  exact List.mem_append_right _ List.mem_cons_self

theorem isFirst_iff (fits : BranchRecord → Prop) [DecidablePred fits] :
    g.records.find? (fits ·) = some record ↔ g.IsFirst fits record := by
  rw [List.find?_eq_some_iff_append, decide_eq_true_eq]
  constructor
  · rintro ⟨hfits, earlier, later, hrecords, hearlier⟩
    exact ⟨hfits, earlier, later, hrecords, by simpa using hearlier⟩
  · rintro ⟨hfits, earlier, later, hrecords, hearlier⟩
    exact ⟨hfits, earlier, later, hrecords, by simpa using hearlier⟩

theorem find?_eq_some_iff : g.find? name = some record ↔ g.FirstNamed name record := isFirst_iff _

theorem find?_eq_none_iff : g.find? name = none ↔ g.Lacks name := by
  simp [find?, Lacks]

theorem findByUuid?_eq_some_iff {uuid : BranchUuid} :
    g.findByUuid? uuid = some record ↔ g.FirstOf uuid record :=
  isFirst_iff _

theorem findByUuid?_eq_none_iff {uuid : BranchUuid} :
    g.findByUuid? uuid = none ↔ ∀ record ∈ g.records, record.uuid ≠ uuid := by
  simp [findByUuid?]

theorem find?_own (h : g.find? name = some record) : g.find? record.name.text = some record := by
  rw [find?_name h]
  exact h

theorem append_nil (g : Registry) : g.append [] = g := by
  simp [append]

theorem find?_append_of_some (more : List BranchRecord) (h : g.find? name = some record) :
    (g.append more).find? name = some record := by
  rw [find?_append, h, Option.some_or]

theorem find?_append_new (h : g.find? record.name.text = none) :
    (g.append [record]).find? record.name.text = some record := by
  simp [find?_append, h]

/-- A name is found again if the records behind have it only where an earlier record has it too. -/
theorem find?_append_known {more : List BranchRecord}
    (h : ∀ record ∈ more, (∃ own ∈ g.records, own.name = record.name) ∨ record.name.text ≠ name) :
    (g.append more).find? name = g.find? name := by
  rw [find?_append]
  cases hfound : g.find? name with
  | some record => rfl
  | none =>
    have hlacks : g.Lacks name := find?_eq_none_iff.mp hfound
    rw [Option.none_or, List.find?_eq_none]
    intro record hrecord
    rw [decide_eq_true_eq]
    rcases h record hrecord with ⟨own, hown, hsame⟩ | hother
    · exact hsame ▸ hlacks own hown
    · exact hother

theorem find?_of_nodup (hnames : (g.records.map (·.name)).Nodup) :
    g.find? name = some record ↔ record ∈ g.records ∧ record.name.text = name := by
  constructor
  · intro hfound
    exact ⟨(find?_eq_some_iff.mp hfound).mem, find?_name hfound⟩
  · rintro ⟨hmem, hname⟩
    cases hfound : g.find? name with
    | none => exact absurd hname (find?_eq_none_iff.mp hfound record hmem)
    | some other =>
      have hsame : other.name = record.name := Identifier.ext ((find?_name hfound).trans hname.symm)
      rw [List.inj_on_of_nodup_map hnames (find?_eq_some_iff.mp hfound).mem hmem hsame]

theorem find?_perm (hperm : g'.records.Perm g.records) (hnames : (g.records.map (·.name)).Nodup) :
    g'.find? name = g.find? name := by
  have hnames' : (g'.records.map (·.name)).Nodup := (hperm.map _).nodup_iff.mpr hnames
  apply Option.ext
  intro record
  rw [find?_of_nodup hnames', find?_of_nodup hnames, hperm.mem_iff]

end Registry
end PullDecoration
