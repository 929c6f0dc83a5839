import PullDecoration.Branch.Analysed
import PullDecoration.Proofs.Resolution.Soundness

/-! What is loaded for a report, whatever it says of its branch. A report without a name is one of
the main line, which goes by the uuid of the project. For any other its type says which branch it is
compared with, and this one has to be on record. -/
namespace PullDecoration
namespace AnalysedBranch

variable {m : ReportMetadata} {project : BranchUuid} {g : Registry}
  {name : BranchName} {type : BranchType} {b : AnalysedBranch} {e : LoadError}

/-- The branch that a reported one is compared with: its merge branch. Where none is given, a pull
request is compared with the default branch, and a branch with none. -/
def comparedName (m : ReportMetadata) (g : Registry) : Option BranchName :=
  if m.type = some .pullRequest then some (m.merge.getD g.defaultBranch) else m.merge

/-- What a loaded branch has of its report, and of the records as they are now. What is compared
with no branch has the project as its reference. A key is loaded for pull requests alone, and they
are never the main line. -/
structure IsReported (m : ReportMetadata) (project : BranchUuid) (g : Registry)
    (b : AnalysedBranch) : Prop where
  name : m.name = some b.name
  type : m.type = some b.type
  compared : ∀ merge, comparedName m g = some merge →
    ∃ base, g.FirstNamed merge.text base ∧ b.reference = some base.uuid
  uncompared : comparedName m g = none → b.reference = some project
  key : b.key = if b.type = .pullRequest then m.key else none
  isMain : b.isMain = true ↔
    b.type ≠ .pullRequest ∧ ∃ record, g.FirstNamed b.name.text record ∧ record.isMain = true
  target : b.target = m.target.or m.merge

theorem referenceOf_eq_ok {uuid : BranchUuid} :
    referenceOf g name = .ok uuid ↔ ∃ base, g.FirstNamed name.text base ∧ base.uuid = uuid := by
  simp only [← Registry.find?_eq_some_iff, referenceOf]
  cases g.find? name.text <;> simp

theorem referenceOf_eq_error :
    referenceOf g name = .error e ↔ g.Lacks name.text ∧ e = .targetBranchMissing name.text := by
  rw [← Registry.find?_eq_none_iff, referenceOf]
  cases g.find? name.text <;> simp [eq_comm]

def referenceFor (m : ReportMetadata) (project : BranchUuid) (g : Registry) :
    Except LoadError BranchUuid :=
  match comparedName m g with
  | none => .ok project
  | some merge => referenceOf g merge

theorem referenceFor_eq_error : referenceFor m project g = .error e ↔
    ∃ merge, comparedName m g = some merge ∧ g.Lacks merge.text ∧
    e = .targetBranchMissing merge.text := by
  unfold referenceFor
  cases comparedName m g with
  | none => simp
  | some merge => simp [referenceOf_eq_error]

theorem referenceFor_eq_ok {uuid : BranchUuid} : referenceFor m project g = .ok uuid ↔
    (∀ merge, comparedName m g = some merge →
      ∃ base, g.FirstNamed merge.text base ∧ base.uuid = uuid) ∧
      (comparedName m g = none → project = uuid) := by
  unfold referenceFor
  cases comparedName m g with
  | none => simp
  | some merge => simp [referenceOf_eq_ok]

def Loadable (type : BranchType) : Prop := type = .pullRequest ∨ type.isBranchAnalysis = true

theorem referenceFor_request (htype : m.type = some .pullRequest) :
    referenceFor m project g = referenceOf g (m.merge.getD g.defaultBranch) := by
  rw [referenceFor, comparedName, if_pos htype]

theorem referenceFor_branch (htype : m.type ≠ some .pullRequest) :
    referenceFor m project g = match m.merge with
      | none => .ok project
      | some merge => referenceOf g merge := by
  rw [referenceFor, comparedName, if_neg htype]

theorem load_eq (hname : m.name = some name) (htype : m.type = some type)
    (hloadable : Loadable type) :
    load m project g = (referenceFor m project g).map fun reference =>
      ⟨name, type, type ≠ .pullRequest && (g.find? name.text).any (·.isMain), some reference,
        if type = .pullRequest then m.key else none, m.target.or m.merge⟩ := by
  unfold load
  rw [hname]
  cases type with
  | main => rcases hloadable with h | h <;> cases h
  | pullRequest =>
    rw [referenceFor_request htype, htype]
    cases referenceOf g (m.merge.getD g.defaultBranch) <;> rfl
  | longLived | shortLived | branch =>
    rw [referenceFor_branch (by simp [htype]), htype]
    cases m.merge with
    | none => rfl
    | some merge => cases referenceOf g merge <;> rfl

theorem load_eq_error (hname : m.name = some name) (htype : m.type = some type)
    (hloadable : Loadable type) :
    load m project g = .error e ↔
      ∃ merge, comparedName m g = some merge ∧ g.Lacks merge.text ∧
      e = .targetBranchMissing merge.text := by
  rw [load_eq hname htype hloadable, ← referenceFor_eq_error]
  cases referenceFor m project g <;> simp [Except.map]

theorem load_of_main (hname : m.name = some name) (htype : m.type = some .main) :
    load m project g = .error (.invalidBranchType "MAIN") := by
  unfold load
  rw [hname, htype]
  rfl

theorem load_of_unset (hname : m.name = some name) (htype : m.type = none) :
    load m project g = .error (.invalidBranchType "UNSET") := by
  unfold load
  rw [hname, htype]

theorem Loadable.ne_main (h : Loadable type) : type ≠ .main := by
  rintro rfl
  rcases h with h | h <;> cases h

theorem loadable_or_main (type : BranchType) : Loadable type ∨ type = .main := by
  cases type with
  | main => exact .inr rfl
  | pullRequest => exact .inl (.inl rfl)
  | longLived | shortLived | branch => exact .inl (.inr rfl)

theorem isMain_iff {text : String} : (type ≠ .pullRequest && (g.find? text).any (·.isMain)) = true ↔
    type ≠ .pullRequest ∧ ∃ record, g.FirstNamed text record ∧ record.isMain = true := by
  simp [← Registry.find?_eq_some_iff, Option.any_eq_true]

theorem isReported_of_load (hname : m.name = some name) (h : load m project g = .ok b) :
    IsReported m project g b ∧ b.type ≠ .main := by
  cases htype : m.type with
  | none =>
    rw [load_of_unset hname htype] at h
    cases h
  | some type =>
    rcases loadable_or_main type with hloadable | rfl
    · rw [load_eq hname htype hloadable] at h
      cases hreference : referenceFor m project g with
      | error e =>
        rw [hreference] at h
        cases h
      | ok reference =>
        rw [hreference] at h
        cases h
        obtain ⟨hcompared, huncompared⟩ := referenceFor_eq_ok.mp hreference
        refine ⟨⟨hname, htype, fun merge hmerge => ?_, fun hnone => ?_, rfl, isMain_iff, rfl⟩,
          hloadable.ne_main⟩
        · obtain ⟨base, hbase, huuid⟩ := hcompared merge hmerge
          exact ⟨base, hbase, congrArg some huuid.symm⟩
        · exact congrArg some (huncompared hnone).symm
    · rw [load_of_main hname htype] at h
      cases h

theorem IsReported.referenceFor_eq (h : IsReported m project g b) :
    ∃ uuid, b.reference = some uuid ∧ referenceFor m project g = .ok uuid := by
  simp only [referenceFor_eq_ok]
  cases hcompared : comparedName m g with
  | none => exact ⟨project, h.uncompared hcompared, by simp⟩
  | some merge =>
    obtain ⟨base, hbase, huuid⟩ := h.compared merge hcompared
    exact ⟨base.uuid, huuid, by simpa using ⟨base, hbase, rfl⟩⟩

theorem IsReported.load_eq_ok (h : IsReported m project g b) (hne : b.type ≠ .main) :
    load m project g = .ok b := by
  obtain ⟨uuid, huuid, hreference⟩ := h.referenceFor_eq
  have hisMain : (b.type ≠ .pullRequest && (g.find? b.name.text).any (·.isMain)) = b.isMain :=
    Bool.eq_iff_iff.mpr (isMain_iff.trans h.isMain.symm)
  rw [load_eq h.name h.type ((loadable_or_main b.type).resolve_right hne), hreference, hisMain,
    ← h.key, ← h.target]
  simp only [Except.map, ← huuid]

theorem load_of_noName (hname : m.name = none) : load m project g = loadMain m project g := by
  rw [load, hname]

theorem loadMain_eq_ok : loadMain m project g = .ok b ↔
    ∃ record, g.FirstOf project record ∧
    b = ⟨record.name, record.type, record.isMain, none, none, m.target⟩ := by
  simp only [← Registry.findByUuid?_eq_some_iff, loadMain]
  cases g.findByUuid? project <;> simp [eq_comm]

theorem loadMain_eq_error : loadMain m project g = .error e ↔
    (∀ record ∈ g.records, record.uuid ≠ project) ∧ e = .mainBranchNotFound := by
  rw [← Registry.findByUuid?_eq_none_iff, loadMain]
  cases g.findByUuid? project <;> simp [eq_comm]

/-- What is loaded is exactly what the report and the records say. Without a name the main line is
loaded, and this fails only where the project has no record. With one, a pull request fails only
where its merge branch, or else the default branch, has no record, and a branch only where it has a
merge branch without a record, and they name it; the main line and an unset type are always refused.
Whatever is loaded has all of its report. -/
theorem load_exact (m : ReportMetadata) (project : BranchUuid) (g : Registry) :
    (m.name = none →
      (∀ e, load m project g = .error e ↔
        (∀ record ∈ g.records, record.uuid ≠ project) ∧ e = .mainBranchNotFound) ∧
      ∀ b, load m project g = .ok b ↔ ∃ record, g.FirstOf project record ∧
        b = ⟨record.name, record.type, record.isMain, none, none, m.target⟩) ∧
    ∀ name, m.name = some name →
      (m.type = some .pullRequest → ∀ e, load m project g = .error e ↔
        g.Lacks (m.merge.getD g.defaultBranch).text ∧
          e = .targetBranchMissing (m.merge.getD g.defaultBranch).text) ∧
      (m.type = some .longLived ∨ m.type = some .shortLived ∨ m.type = some .branch →
        ∀ e, load m project g = .error e ↔
          ∃ merge, m.merge = some merge ∧ g.Lacks merge.text ∧
          e = .targetBranchMissing merge.text) ∧
      (m.type = some .main → load m project g = .error (.invalidBranchType "MAIN")) ∧
      (m.type = none → load m project g = .error (.invalidBranchType "UNSET")) ∧
      ∀ b, load m project g = .ok b ↔ IsReported m project g b ∧ b.type ≠ .main := by
  constructor
  · intro hname
    rw [load_of_noName hname]
    exact ⟨fun e => loadMain_eq_error, fun b => loadMain_eq_ok⟩
  · intro name hname
    refine ⟨fun htype e => ?_, fun htype e => ?_, load_of_main hname,
      load_of_unset hname, fun b => ?_⟩
    · rw [load_eq_error hname htype (.inl rfl), comparedName, if_pos htype]
      simp
    · obtain ⟨type, htype, hbranch⟩ : ∃ type, m.type = some type ∧
          type.isBranchAnalysis = true := by
        rcases htype with htype | htype | htype <;> exact ⟨_, htype, rfl⟩
      have hne : m.type ≠ some .pullRequest := by
        rintro h
        cases htype.symm.trans h
        cases hbranch
      rw [load_eq_error hname htype (.inr hbranch), comparedName, if_neg hne]
    · exact ⟨isReported_of_load hname, fun h => h.1.load_eq_ok h.2⟩

/-- A report of the main line where the project has a second record, one of a pull request into a
branch that is gone, one of a branch that is on record as the main line, and one that says so
itself. -/
theorem sampleReports_loaded :
    load ⟨none, none, some conventionalMain, none, none⟩
      ⟨"uuid-other", by decide⟩ Resolver.sampleRegistry =
      .ok ⟨conventionalMain, .shortLived, false, none, none, some conventionalMain⟩ ∧
    load ⟨some ⟨"7", by decide⟩, some .pullRequest, none, some ⟨"gone", by decide⟩,
      some ⟨"7", by decide⟩⟩
      ⟨"uuid-master", by decide⟩ Resolver.sampleRegistry = .error (.targetBranchMissing "gone") ∧
    (∃ b, load ⟨some conventionalMain, some .longLived, none, none, some ⟨"7", by decide⟩⟩
      ⟨"uuid-other", by decide⟩ Resolver.sampleRegistry = .ok b ∧ b.isMain = true ∧
        b.reference = some ⟨"uuid-other", by decide⟩ ∧ b.key = none) ∧
    load ⟨some conventionalMain, some .main, none, some ⟨"gone", by decide⟩, none⟩
      ⟨"uuid-master", by decide⟩ Resolver.sampleRegistry = .error (.invalidBranchType "MAIN") := by
  refine ⟨?_, ?_, ?_, ?_⟩
  · exact (((load_exact _ _ _).1 rfl).2 _).mpr
      ⟨_, Registry.findByUuid?_eq_some_iff.mp (by rfl), rfl⟩
  · exact (((load_exact _ _ _).2 _ rfl).1 rfl _).mpr ⟨Registry.find?_eq_none_iff.mp (by rfl), rfl⟩
  · obtain ⟨-, -, -, -, hloaded⟩ :=
      (load_exact ⟨some conventionalMain, some .longLived, none, none, some ⟨"7", by decide⟩⟩
        ⟨"uuid-other", by decide⟩ Resolver.sampleRegistry).2 _ rfl
    obtain ⟨hreported, -⟩ := (hloaded _).mp rfl
    refine ⟨_, rfl, hreported.isMain.mpr
      ⟨by decide, _, Registry.find?_eq_some_iff.mp (by rfl), rfl⟩, ?_, ?_⟩
    · exact hreported.uncompared rfl
    · exact hreported.key
  · obtain ⟨-, -, hmain, -⟩ :=
      (load_exact ⟨some conventionalMain, some .main, none, some ⟨"gone", by decide⟩, none⟩
        ⟨"uuid-master", by decide⟩ Resolver.sampleRegistry).2 _ rfl
    exact hmain rfl

end AnalysedBranch
end PullDecoration
