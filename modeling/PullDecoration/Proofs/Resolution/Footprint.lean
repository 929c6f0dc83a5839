import PullDecoration.Proofs.Branch.Loading
import PullDecoration.Proofs.Resolution.Agreement
import PullDecoration.Proofs.Resolution.Refusal

/-! What a resolution reads of the registry: whether there are records, the default branch, and at
most two names that are looked up, which the parameters determine. Registries that agree there are
as good as each other, whatever else they hold. -/
namespace PullDecoration
namespace Resolver

variable {r : Resolver} {p : Parameters} {g g' : Registry}

/-- The names that are looked up: of a branch its own and its target, of a pull request its base. -/
def footprint (p : Parameters) (g : Registry) : List String :=
  if p.hasAny Parameters.branchKeys then [nameText p g, targetText p g]
  else if p.hasAny Parameters.pullRequestKeys then [targetText p g]
  else []

theorem AsksForBranch.footprint_eq (h : AsksForBranch p g) :
    footprint p g = [(branchName p g).text, (branchTarget p g).text] := by
  rw [footprint, if_pos h.keys, branchName_text, h.target_text]

theorem AsksForPullRequest.footprint_eq (h : AsksForPullRequest p g) :
    footprint p g = [(pullRequestBase p g).text] := by
  rw [footprint, h.noBranchKeys, if_neg Bool.false_ne_true, if_pos h.keys, h.base_text]

theorem mergeTarget_congr {target : BranchName} (h : g'.find? target.text = g.find? target.text) :
    r.mergeTarget g' target = r.mergeTarget g target := by
  simp only [mergeTarget, h]

theorem branch_agree (hdefault : g'.defaultBranch = g.defaultBranch)
    (hname : g'.find? (branchName p g).text = g.find? (branchName p g).text)
    (htarget : g'.find? (branchTarget p g).text = g.find? (branchTarget p g).text) :
    r.branch g' p = r.branch g p := by
  have hsameName : branchName p g' = branchName p g := branchName_congr rfl hdefault
  have hsameTarget : branchTarget p g' = branchTarget p g := branchTarget_congr rfl hdefault
  rw [branch_eq, branch_eq, hsameName, hsameTarget, hname]
  cases g.find? (branchName p g).text with
  | some record => simp only [recordedBranch, mergeTarget_congr htarget]
  | none => simp only [newBranch, mergeTarget_congr htarget]

theorem pullRequest_agree (hdefault : g'.defaultBranch = g.defaultBranch)
    (hbase : g'.find? (pullRequestBase p g).text = g.find? (pullRequestBase p g).text) :
    r.pullRequest g' p = r.pullRequest g p := by
  have hmerges : r.mergeTarget g' (pullRequestBase p g) = r.mergeTarget g (pullRequestBase p g) :=
    mergeTarget_congr hbase
  unfold pullRequest
  rw [pullRequestBase] at hmerges
  rw [hdefault]
  simp only [hmerges]

theorem resolve_agree (hempty : g.isEmpty = false) (hempty' : g'.isEmpty = false)
    (hdefault : g'.defaultBranch = g.defaultBranch)
    (h : ∀ name ∈ footprint p g, g'.find? name = g.find? name) :
    r.resolve p g' = r.resolve p g := by
  cases hbranch : p.hasAny Parameters.branchKeys with
  | true =>
    have hasks : AsksForBranch p g := ⟨hempty, hbranch⟩
    have hasks' : AsksForBranch p g' := ⟨hempty', hbranch⟩
    rw [hasks.footprint_eq, List.forall_mem_cons, List.forall_mem_singleton] at h
    rw [hasks'.resolve_eq, hasks.resolve_eq]
    exact branch_agree hdefault h.1 h.2
  | false =>
    cases hrequest : p.hasAny Parameters.pullRequestKeys with
    | true =>
      have hasks : AsksForPullRequest p g := ⟨hempty, hbranch, hrequest⟩
      have hasks' : AsksForPullRequest p g' := ⟨hempty', hbranch, hrequest⟩
      rw [hasks.footprint_eq, List.forall_mem_singleton] at h
      rw [hasks'.resolve_eq, hasks.resolve_eq]
      exact pullRequest_agree hdefault h
    | false => simp [resolve, hempty, hempty', hbranch, hrequest, hdefault]

/-- Registries with records and the same default branch that agree on the names looked up give the
same result. So records behind that are known by their names already, or have none of these names,
make no difference; nor does the order of the records, if no two have the same name. -/
theorem resolve_footprint (r : Resolver) (p : Parameters) :
    (∀ g g' : Registry, g.isEmpty = false → g'.isEmpty = false →
      g'.defaultBranch = g.defaultBranch →
      (∀ name ∈ footprint p g, g'.find? name = g.find? name) → r.resolve p g' = r.resolve p g) ∧
    (∀ (g : Registry) (more : List BranchRecord), g.isEmpty = false →
      (∀ record ∈ more, (∃ own ∈ g.records, own.name = record.name) ∨
        record.name.text ∉ footprint p g) →
      r.resolve p (g.append more) = r.resolve p g) ∧
    ∀ g g' : Registry, g'.defaultBranch = g.defaultBranch → g'.records.Perm g.records →
      (g.records.map (·.name)).Nodup → r.resolve p g' = r.resolve p g := by
  refine ⟨fun g g' hempty hempty' hdefault h => resolve_agree hempty hempty' hdefault h, ?_, ?_⟩
  · intro g more hempty hmore
    have hempty' : (g.append more).isEmpty = false := by
      simp_all [Registry.isEmpty, Registry.append]
    refine resolve_agree hempty hempty' rfl fun name hname => Registry.find?_append_known ?_
    intro record hrecord
    rcases hmore record hrecord with hknown | hother
    · exact .inl hknown
    · exact .inr fun hsame => hother (hsame ▸ hname)
  · intro g g' hdefault hperm hnames
    cases hempty : g.isEmpty with
    | true =>
      have hnone : g.records = [] := List.isEmpty_iff.mp hempty
      have hsame : g' = g := by
        cases g; cases g'
        simp_all
      rw [hsame]
    | false =>
      have hempty' : g'.isEmpty = false := by
        rw [Registry.isEmpty, hperm.isEmpty_eq]
        exact hempty
      exact resolve_agree hempty hempty' hdefault fun name _ => Registry.find?_perm hperm hnames

/-- A new branch beside a release line: without the line, with a hotfix and a second record of the
line behind it, and with the main line at the end. -/
theorem newBranch_beside_release :
    conventional.resolve ⟨[("branch.name", "feature/x")]⟩
        ⟨conventionalMain, AnalysedBranch.releaseRegistry.records.take 1⟩ =
      conventional.resolve ⟨[("branch.name", "feature/x")]⟩ AnalysedBranch.releaseRegistry ∧
    conventional.resolve ⟨[("branch.name", "feature/x")]⟩ (AnalysedBranch.releaseRegistry.append
        [⟨⟨"hotfix", by decide⟩, .pullRequest, ⟨"uuid-hotfix", by decide⟩, false⟩,
          ⟨⟨"release/1", by decide⟩, .main, ⟨"uuid-second", by decide⟩, true⟩]) =
      conventional.resolve ⟨[("branch.name", "feature/x")]⟩ AnalysedBranch.releaseRegistry ∧
    conventional.resolve ⟨[("branch.name", "feature/x")]⟩
        ⟨conventionalMain, AnalysedBranch.releaseRegistry.records.reverse⟩ =
      conventional.resolve ⟨[("branch.name", "feature/x")]⟩ AnalysedBranch.releaseRegistry := by
  obtain ⟨hagree, hmore, horder⟩ := resolve_footprint conventional ⟨[("branch.name", "feature/x")]⟩
  refine ⟨?_, ?_, ?_⟩
  · exact hagree _ _ rfl rfl rfl (by decide)
  · exact hmore _ _ rfl (by decide)
  · exact horder _ _ rfl (List.reverse_perm _) (by decide)

end Resolver
end PullDecoration
