import PullDecoration.Proofs.Resolution.Soundness

/-! What becomes of parameters that give the key of a pull request and name no branch. Whether they
are filed as a pull request depends on more than their values: a project without records has nothing
to compare a request with, and the key of a branch parameter counts even where its value is
blank. -/
namespace PullDecoration

namespace Parameters

/-- The parameters give the key of a pull request and no value for a branch. -/
structure AsksForRequest (p : Parameters) (key : String) : Prop where
  noName : p.value? branchName = none
  noTarget : p.value? branchTarget = none
  request : p.value? pullRequestKey = some key

end Parameters

namespace Resolver

variable {r : Resolver} {p : Parameters} {g : Registry} {key : String}

def FilesRequest (r : Resolver) (p : Parameters) (g : Registry) (key : String) : Prop :=
  (∃ e, r.resolve p g = .error e) ∨
    ∃ d, r.resolve p g = .ok d ∧ d.type = .pullRequest ∧ d.key.map (·.text) = some key

theorem not_filesRequest {d : Descriptor} (h : r.resolve p g = .ok d)
    (htype : d.type ≠ .pullRequest) :
    ¬ FilesRequest r p g key := by
  rintro (⟨e, herror⟩ | ⟨d', hok, htype', -⟩)
  · rw [h] at herror
    cases herror
  · rw [h] at hok
    cases hok
    exact htype htype'

def keyOnly : Parameters := ⟨[("pullrequest.key", "7")]⟩

def blankName : Parameters := ⟨[("branch.name", " "), ("pullrequest.key", "7")]⟩

theorem blankName_resolved : conventional.resolve blankName sampleRegistry =
    .ok (.ofBranch conventionalMain .branch (some conventionalMain) ⟨"uuid-master", by decide⟩
      (by decide)) := by
  rfl

/-- The same request ends as the main line of a project without records, and as the default branch
where a blank branch name comes with it. -/
theorem request_filed_elsewhere :
    (keyOnly.AsksForRequest "7" ∧ ¬ FilesRequest conventional keyOnly .empty "7") ∧
      (blankName.AsksForRequest "7" ∧
        ¬ FilesRequest conventional blankName sampleRegistry "7") := by
  have hempty : conventional.resolve keyOnly .empty = .ok (.main conventionalMain) := by rfl
  exact ⟨⟨⟨by rfl, by rfl, by rfl⟩, not_filesRequest hempty nofun⟩,
    ⟨⟨by rfl, by rfl, by rfl⟩, not_filesRequest blankName_resolved nofun⟩⟩

theorem resolve_noRecords (hasks : p.AsksForRequest key) (hempty : g.isEmpty = true) :
    r.resolve p g = .ok (.main conventionalMain) := by
  refine resolve_eq_ok.mpr (.firstAnalysis hempty ?_)
  rw [Parameters.identifier?_eq_none hasks.noName, Parameters.identifier?_eq_none hasks.noTarget]
  rfl

theorem filesRequest_of_noBranchKeys (hasks : p.AsksForRequest key) (hempty : g.isEmpty = false)
    (hbranch : p.hasAny Parameters.branchKeys = false) : FilesRequest r p g key := by
  cases hresult : r.resolve p g with
  | error e => exact .inl ⟨e, hresult⟩
  | ok d =>
    refine .inr ⟨d, hresult, ?_⟩
    cases resolve_eq_ok.mp hresult with
    | firstAnalysis hempty' hmain => simp [hempty] at hempty'
    | mainLine hempty' hbranch' hrequest =>
      have hany : p.hasAny Parameters.pullRequestKeys = true :=
        Parameters.hasAny_of_value? (by decide) hasks.request
      simp [hrequest] at hany
    | branch hempty' hbranch' hresolved => simp [hbranch] at hbranch'
    | pullRequest hempty' hbranch' hrequest hkey hbase =>
      refine ⟨rfl, ?_⟩
      have hvalue := hasks.request
      rw [p.value?_eq .pullRequestKey, hkey] at hvalue
      exact hvalue

theorem ResolvedBranch.type_ne {d : Descriptor} (h : ResolvedBranch r p g d) :
    d.type ≠ .pullRequest := by
  cases h with
  | recordedMain hfound htype => exact nofun
  | recordedLongLived hfound htype hsupported => exact nofun
  | recordedOther hfound htype hsupported hbase hne => exact hne
  | unrecorded hfound hclass hbase hne => exact hne

theorem resolve_blankBranch {d : Descriptor} (hasks : p.AsksForRequest key)
    (hempty : g.isEmpty = false) (hbranch : p.hasAny Parameters.branchKeys = true)
    (h : r.resolve p g = .ok d) : d.type ≠ .pullRequest ∧ d.name = g.defaultBranch := by
  cases resolve_eq_ok.mp h with
  | firstAnalysis hempty' hmain => simp [hempty] at hempty'
  | mainLine hempty' hbranch' hrequest => simp [hbranch] at hbranch'
  | branch hempty' hbranch' hresolved =>
    refine ⟨hresolved.type_ne, hresolved.name.trans ?_⟩
    unfold branchName
    rw [Parameters.identifier?_eq_none hasks.noName]
    rfl
  | pullRequest hempty' hbranch' hrequest hkey hbase => simp [hbranch] at hbranch'

/-- A request is filed as one wherever there are records and no key of a branch parameter is given.
In the two other cases the main line or the default branch is analysed in its place. -/
theorem resolve_request (hasks : p.AsksForRequest key) :
    (g.isEmpty = false → p.hasAny Parameters.branchKeys = false → FilesRequest r p g key) ∧
      (g.isEmpty = true → r.resolve p g = .ok (.main conventionalMain)) ∧
      (g.isEmpty = false → p.hasAny Parameters.branchKeys = true → ∀ d, r.resolve p g = .ok d →
        d.type ≠ .pullRequest ∧ d.name = g.defaultBranch) :=
  ⟨filesRequest_of_noBranchKeys hasks, resolve_noRecords hasks,
    fun hempty hbranch _ h => resolve_blankBranch hasks hempty hbranch h⟩

theorem keyOnly_filed :
    (keyOnly.AsksForRequest "7" ∧ FilesRequest conventional keyOnly sampleRegistry "7" ∧
        conventional.resolve keyOnly sampleRegistry =
          .ok (.pullRequest ⟨"7", by decide⟩ ⟨"7", by decide⟩ conventionalMain
            ⟨"uuid-master", by decide⟩)) ∧
      conventional.resolve keyOnly .empty = .ok (.main conventionalMain) ∧
      ∃ d, conventional.resolve blankName sampleRegistry = .ok d ∧ d.type ≠ .pullRequest ∧
        d.name = sampleRegistry.defaultBranch := by
  have hasks : keyOnly.AsksForRequest "7" := ⟨by rfl, by rfl, by rfl⟩
  have hblank : blankName.AsksForRequest "7" := ⟨by rfl, by rfl, by rfl⟩
  refine ⟨⟨hasks, (resolve_request hasks).1 rfl (by decide), by rfl⟩, ?_, ?_⟩
  · exact (resolve_request hasks).2.1 rfl
  · exact ⟨_, blankName_resolved, (resolve_request hblank).2.2 rfl (by decide) _ blankName_resolved⟩

end Resolver
end PullDecoration
