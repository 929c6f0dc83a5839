import PullDecoration.CommandLine.Run
import PullDecoration.Proofs.Resolution.Refusal

/-! What users are told of parameters that cannot be resolved, and which branch the error is about.
The branch is named, except where a target has the wrong type: what is said then is the same for
every branch. -/
namespace PullDecoration

namespace Text

theorem contains_iff {part s : String} : contains part s = true ↔
    ∃ before after, s = before ++ part ++ after := by
  rw [contains, occurs_iff]
  constructor
  · rintro ⟨before, after, h⟩
    refine ⟨String.ofList before, String.ofList after, ?_⟩
    rw [← String.toList_inj, h]
    simp
  · rintro ⟨before, after, rfl⟩
    exact ⟨before.toList, after.toList, by simp⟩

end Text

namespace ResolutionError

def branch? : ResolutionError → Option String
  | .targetNotFound branch | .targetWrongType branch .. | .invalidBranchType branch
      _ | .missingKey branch =>
    some branch
  | .noBranchesExist | .invalidPattern .. => none

def unnamed : ResolutionError → ResolutionError
  | .targetNotFound _ => .targetNotFound ""
  | .targetWrongType _ expected actual => .targetWrongType "" expected actual
  | .invalidBranchType _ type => .invalidBranchType "" type
  | .missingKey _ => .missingKey ""
  | e => e

def IsWrongType (e : ResolutionError) : Prop :=
  ∃ branch expected actual, e = .targetWrongType branch expected actual

open Resolver in
/-- The branch of the error is the one that the failed check looked at: the target or base, the
branch on record, or the source of a pull request, which may have no name. -/
def IsAbout (r : Resolver) (p : Parameters) (g : Registry) : ResolutionError → Prop
  | .targetNotFound branch => branch = targetText p g ∧ g.find? branch = none
  | .targetWrongType branch expected actual =>
    branch = targetText p g ∧ expected = r.capabilities.mergeTargetNames ∧
      ∃ base, g.find? branch = some base ∧ base.type = actual ∧ ¬ r.capabilities.TakesMerges actual
  | .invalidBranchType branch type =>
    branch = nameText p g ∧ ∃ record, g.find? branch = some record ∧ record.type = type ∧
      (type = .pullRequest ∨ r.capabilities.supports type = false)
  | .missingKey branch =>
    branch = (p.value? Parameters.pullRequestBranch).getD "" ∧
    p.value? Parameters.pullRequestKey = none
  | .noBranchesExist | .invalidPattern .. => True

variable {e : ResolutionError} {name : String}

/-- The whole error is its headline, and behind a colon the detail where there is one. -/
theorem message_eq (e : ResolutionError) :
    e.message = e.headline ++ (e.detail.map (": " ++ ·)).getD "" := by
  cases e with
  | targetNotFound branch =>
    have hwords : "Could not target requested branch: Target branch '" =
        targetHeadline ++ (": " ++ "Target branch '") := by decide +kernel
    change "Could not target requested branch: Target branch '" ++ branch ++ "' does not exist" =
      targetHeadline ++ (": " ++ ("Target branch '" ++ branch ++ "' does not exist"))
    rw [hwords]
    simp only [String.append_assoc]
  | targetWrongType branch expected actual =>
    have hwords : "Could not target requested branch: Expected branch type of " =
        targetHeadline ++ (": " ++ "Expected branch type of ") := by decide +kernel
    change "Could not target requested branch: Expected branch type of " ++ expected ++
      " but got " ++ actual.name =
      targetHeadline ++
        (": " ++ ("Expected branch type of " ++ expected ++ " but got " ++ actual.name))
    rw [hwords]
    simp only [String.append_assoc]
  | noBranchesExist | invalidBranchType | invalidPattern | missingKey =>
    exact String.append_empty.symm

end ResolutionError

namespace CommandLine

open ResolutionError

variable {e : ResolutionError} {name : String}

theorem complaint_eq (e : ResolutionError) : (Ending.ofResolutionError e).complaint =
    "error: " ++ (e.headline ++ (e.detail.map ("\n  caused by: " ++ ·)).getD "") ++ "\n" := by
  unfold Ending.ofResolutionError
  cases e.detail <;> rfl

theorem complaint_names (hbranch : e.branch? = some name) (htype : ¬ e.IsWrongType) :
    Text.contains name (Ending.ofResolutionError e).complaint = true := by
  rw [Text.contains_iff, complaint_eq]
  cases e with
  | noBranchesExist => cases hbranch
  | invalidPattern pattern reason => cases hbranch
  | targetWrongType branch expected actual => exact absurd ⟨branch, expected, actual, rfl⟩ htype
  | targetNotFound branch =>
    cases hbranch
    refine ⟨"error: " ++ targetHeadline ++ "\n  caused by: " ++ "Target branch '",
      "' does not exist" ++ "\n", ?_⟩
    change "error: " ++ (targetHeadline ++
      ("\n  caused by: " ++ ("Target branch '" ++ name ++ "' does not exist"))) ++
      "\n" = _
    simp only [String.append_assoc]
  | invalidBranchType branch type =>
    cases hbranch
    refine ⟨"error: " ++ "Invalid branch type '" ++ type.name ++ "' for branch '",
      "'" ++ "" ++ "\n", ?_⟩
    change "error: " ++ ("Invalid branch type '" ++ type.name ++ "' for branch '" ++ name ++
      "'" ++ "") ++ "\n" = _
    simp only [String.append_assoc]
  | missingKey branch =>
    cases hbranch
    refine ⟨"error: " ++ "Pull request analysis of branch '",
      "' requires a pull request key" ++ "" ++ "\n", ?_⟩
    change "error: " ++ ("Pull request analysis of branch '" ++ name ++
      "' requires a pull request key" ++ "") ++
      "\n" = _
    simp only [String.append_assoc]

theorem complaint_unnamed (h : e.IsWrongType) :
    (Ending.ofResolutionError e.unnamed).complaint = (Ending.ofResolutionError e).complaint := by
  obtain ⟨branch, expected, actual, rfl⟩ := h
  rfl

end CommandLine

namespace Resolver

variable {r : Resolver} {p : Parameters} {g : Registry} {e : ResolutionError} {name : String}

theorem TargetRefused.isAbout (h : TargetRefused r g (targetText p g) e) : e.IsAbout r p g := by
  cases h with
  | notFound hfound => exact ⟨rfl, hfound⟩
  | wrongType hfound htype => exact ⟨rfl, rfl, _, hfound, rfl, htype⟩

theorem BranchRefused.isAbout (h : BranchRefused r p g e) : e.IsAbout r p g := by
  cases h with
  | invalidBranchType hfound htype => exact ⟨rfl, _, hfound, rfl, htype⟩
  | invalidPattern hfound hunified hpattern => trivial
  | newTarget hfound htype htarget => exact htarget.isAbout
  | recordedTarget hfound htype hsupported htarget => exact htarget.isAbout

theorem isAbout_of_resolve (h : r.resolve p g = .error e) : e.IsAbout r p g := by
  unfold resolve at h
  split at h
  · dsimp only at h
    split at h
    · cases h
    · cases h
      trivial
  · rename_i hrecords
    split at h
    · rename_i hbranch
      exact ((branch_eq_error ⟨Bool.eq_false_iff.mpr hrecords, hbranch⟩).mp h).isAbout
    · rename_i hnoBranch
      split at h
      · rename_i hrequest
        have hasks : AsksForPullRequest p g :=
          ⟨Bool.eq_false_iff.mpr hrecords, Bool.eq_false_iff.mpr hnoBranch, hrequest⟩
        rcases (pullRequest_eq_error hasks).mp h with htarget | ⟨-, hkey, rfl⟩
        · exact htarget.isAbout
        · exact ⟨rfl, hkey⟩
      · cases h

open CommandLine in
/-- Every error reads as its headline and its detail. An error that carries the name of a branch is
about the branch that the failed check looked at, and what users see has that name in it; but where
a target has the wrong type they only see the name if it happens to stand in the words that are said
of every branch. -/
theorem shown_errors (r : Resolver) (p : Parameters) (g : Registry) :
    (∀ e : ResolutionError, e.message = e.headline ++ (e.detail.map (": " ++ ·)).getD "") ∧
      ∀ e name, r.resolve p g = .error e → e.branch? = some name →
        e.IsAbout r p g ∧
          (Text.contains name (Ending.ofResolutionError e).complaint = true ↔
            ¬ e.IsWrongType ∨ Text.contains name
              (Ending.ofResolutionError e.unnamed).complaint = true) := by
  refine ⟨ResolutionError.message_eq, fun e name h hbranch => ⟨isAbout_of_resolve h, ?_⟩⟩
  by_cases htype : e.IsWrongType
  · rw [complaint_unnamed htype]
    exact (or_iff_right (not_not_intro htype)).symm
  · exact iff_of_true (complaint_names hbranch htype) (.inl htype)

def shortLivedRegistry : Registry :=
  ⟨conventionalMain, [⟨conventionalMain, .branch, ⟨"uuid-main", by decide⟩, true⟩,
    ⟨⟨"feature/y", by decide⟩, .shortLived, ⟨"uuid-y", by decide⟩, false⟩]⟩

def lostTarget : Parameters := ⟨[("branch.name", "feature/x"), ("branch.target", " release/7")]⟩

theorem lostTarget_shown :
    conventional.resolve lostTarget shortLivedRegistry = .error (.targetNotFound "release/7") ∧
      ResolutionError.IsAbout conventional lostTarget shortLivedRegistry
        (.targetNotFound "release/7") ∧
      Text.contains "release/7"
        (CommandLine.Ending.ofResolutionError (.targetNotFound "release/7")).complaint = true := by
  have h : conventional.resolve lostTarget shortLivedRegistry =
      .error (.targetNotFound "release/7") := by
    decide +kernel
  obtain ⟨habout, hnames⟩ :=
    (shown_errors conventional lostTarget shortLivedRegistry).2 _ "release/7" h rfl
  refine ⟨h, habout, hnames.mpr (.inl ?_)⟩
  rintro ⟨branch, expected, actual, ⟨⟩⟩

def shortLivedTarget : Parameters :=
  ⟨[("branch.name", "feature/x"), ("branch.target", "feature/y")]⟩

theorem shortLivedTarget_not_named :
    ∃ e, conventional.resolve shortLivedTarget shortLivedRegistry = .error e ∧
    e.branch? = some "feature/y" ∧
    (CommandLine.Ending.ofResolutionError e).complaint =
      "error: Could not target requested branch\n  caused by: Expected branch type of LONG_LIVED or BRANCH but got " ++
        "SHORT_LIVED\n" ∧
    Text.contains "feature/y" (CommandLine.Ending.ofResolutionError e).complaint = false :=
  ⟨.targetWrongType "feature/y" "LONG_LIVED or BRANCH" .shortLived, by decide +kernel,
    rfl, by decide +kernel, by decide +kernel⟩

end Resolver
end PullDecoration
