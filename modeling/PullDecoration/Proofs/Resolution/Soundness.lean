import PullDecoration.Proofs.Branch.Lookup
import PullDecoration.Proofs.Resolution.Outcome

/-! What all descriptors have in common that a resolution returns, whichever way led to them. -/
namespace PullDecoration

namespace Resolver

variable {r : Resolver} {p : Parameters} {g : Registry} {d : Descriptor}

/-- The text that names what is analysed. Which one it is depends on the records and on the keys
that are given. -/
def analysedText (p : Parameters) (g : Registry) : Option String :=
  if g.isEmpty then some conventionalMain.text
  else if p.hasAny Parameters.branchKeys then
    some ((p.value? Parameters.branchName).getD g.defaultBranch.text)
  else if p.hasAny Parameters.pullRequestKeys then
    (p.value? Parameters.pullRequestBranch).or (p.value? Parameters.pullRequestKey)
  else some g.defaultBranch.text

def targetText (p : Parameters) (g : Registry) : String :=
  (p.value? (if p.hasAny Parameters.branchKeys then Parameters.branchTarget
    else Parameters.pullRequestBase)).getD g.defaultBranch.text

/-- The demands on a descriptor. Its names are those that the texts stand for, so that no other name
ever steps in for a text that is no name. -/
structure Sound (r : Resolver) (p : Parameters) (g : Registry) (d : Descriptor) : Prop where
  key_iff : d.key.isSome ↔ d.type = .pullRequest
  target : ∀ t, d.target = some t → ∃ base, g.find? t.text = some base ∧
    (base.type = .longLived ∧ r.capabilities.legacy = true ∨
      base.type = .branch ∧ r.capabilities.unified = true) ∧
    d.reference = some base.uuid
  untargeted : d.target = none →
    d.type = .main ∧ d.reference = none ∨
    d.type = .longLived ∧ ∃ record, g.find? d.name.text = some record ∧
    d.reference = some record.uuid
  supported : r.capabilities.supports d.type = true
  name : ∃ text, analysedText p g = some text ∧ Identifier.ofString? text = some d.name
  targetName : ∀ t, d.target = some t → Identifier.ofString? (targetText p g) = some t

/-- On a host without the unified type the merge target already shows that the legacy types are
known; without it a new branch could be given a type that the host does not know. -/
theorem classify_supported {pattern : Option String} {name target : BranchName} {type : BranchType}
    {base : BranchRecord} (hclass : r.classify pattern name = .ok type)
    (hbase : r.MergesInto g target base) : r.capabilities.supports type = true := by
  rcases classify_type hclass with ⟨rfl, hunified⟩ | ⟨htype, hunified⟩
  · exact hunified
  · have hlegacy : r.capabilities.legacy = true := by
      rcases Capabilities.isMergeTarget_iff.mp hbase.allowed with ⟨-, hlegacy⟩ | ⟨-, hother⟩
      · exact hlegacy
      · simp [hunified] at hother
    rcases htype with rfl | rfl <;> exact hlegacy

theorem ResolvedBranch.supported (h : ResolvedBranch r p g d) :
    r.capabilities.supports d.type = true := by
  cases h with
  | recordedMain hfound htype => rfl
  | recordedLongLived hfound htype hsupported =>
    rw [htype] at hsupported
    exact hsupported
  | recordedOther hfound htype hsupported hbase hne => exact hsupported
  | unrecorded hfound hclass hbase hne => exact classify_supported hclass hbase

theorem ResolvedBranch.target (h : ResolvedBranch r p g d) {t : BranchName}
    (ht : d.target = some t) :
    t = branchTarget p g ∧ ∃ base, r.MergesInto g t base ∧ d.reference = some base.uuid := by
  cases h with
  | recordedMain hfound htype => cases ht
  | recordedLongLived hfound htype hsupported => cases ht
  | recordedOther hfound htype hsupported hbase hne => cases ht; exact ⟨rfl, _, hbase, rfl⟩
  | unrecorded hfound hclass hbase hne => cases ht; exact ⟨rfl, _, hbase, rfl⟩

theorem ResolvedBranch.untargeted (h : ResolvedBranch r p g d) (ht : d.target = none) :
    d.type = .main ∧ d.reference = none ∨
      d.type = .longLived ∧
        ∃ record, g.find? d.name.text = some record ∧ d.reference = some record.uuid := by
  cases h with
  | recordedMain hfound htype => exact .inl ⟨rfl, rfl⟩
  | recordedLongLived hfound htype hsupported =>
    exact .inr ⟨rfl, _, Registry.find?_own hfound, rfl⟩
  | recordedOther hfound htype hsupported hbase hne => cases ht
  | unrecorded hfound hclass hbase hne => cases ht

/-- A branch on record goes by its recorded name, which is the one it was found under. -/
theorem ResolvedBranch.name (h : ResolvedBranch r p g d) : d.name = branchName p g := by
  cases h with
  | recordedMain hfound htype => exact Identifier.ext (Registry.find?_name hfound)
  | recordedLongLived hfound htype hsupported => exact Identifier.ext (Registry.find?_name hfound)
  | recordedOther hfound htype hsupported hbase hne =>
    exact Identifier.ext (Registry.find?_name hfound)
  | unrecorded hfound hclass hbase hne => rfl

theorem pullRequestName_text {key : PullRequestKey}
    (hkey : p.identifier? Parameters.pullRequestKey = some key) :
    (p.value? Parameters.pullRequestBranch).or (p.value? Parameters.pullRequestKey) =
      some (pullRequestName p key).text := by
  rw [p.value?_eq .branchName Parameters.pullRequestBranch,
    p.value?_eq .pullRequestKey Parameters.pullRequestKey, hkey]
  unfold pullRequestName
  cases (p.identifier? Parameters.pullRequestBranch : Option BranchName) <;> rfl

theorem Resolved.supported (h : Resolved r p g d) : r.capabilities.supports d.type = true := by
  cases h with
  | firstAnalysis hempty hmain => rfl
  | mainLine hempty hbranch hrequest => rfl
  | branch hempty hbranch hresolved => exact hresolved.supported
  | pullRequest hempty hbranch hrequest hkey hbase => rfl

theorem Resolved.target (h : Resolved r p g d) {t : BranchName} (ht : d.target = some t) :
    t.text = targetText p g ∧ ∃ base, r.MergesInto g t base ∧ d.reference = some base.uuid := by
  unfold targetText
  cases h with
  | firstAnalysis hempty hmain => cases ht
  | mainLine hempty hbranch hrequest => cases ht
  | branch hempty hbranch hresolved =>
    obtain ⟨rfl, hbase⟩ := hresolved.target ht
    rw [hbranch, if_pos rfl]
    exact ⟨p.identifier?_getD_text _ _, hbase⟩
  | pullRequest hempty hbranch hrequest hkey hbase =>
    cases ht
    simp only [hbranch, Bool.false_eq_true, if_false]
    exact ⟨p.identifier?_getD_text _ _, _, hbase, rfl⟩

theorem Resolved.untargeted (h : Resolved r p g d) (ht : d.target = none) :
    d.type = .main ∧ d.reference = none ∨
      d.type = .longLived ∧
        ∃ record, g.find? d.name.text = some record ∧ d.reference = some record.uuid := by
  cases h with
  | firstAnalysis hempty hmain => exact .inl ⟨rfl, rfl⟩
  | mainLine hempty hbranch hrequest => exact .inl ⟨rfl, rfl⟩
  | branch hempty hbranch hresolved => exact hresolved.untargeted ht
  | pullRequest hempty hbranch hrequest hkey hbase => cases ht

theorem Resolved.name (h : Resolved r p g d) : analysedText p g = some d.name.text := by
  unfold analysedText
  cases h with
  | firstAnalysis hempty hmain => simp [hempty, Descriptor.main]
  | mainLine hempty hbranch hrequest => simp [hempty, hbranch, hrequest, Descriptor.main]
  | branch hempty hbranch hresolved =>
    simp only [hempty, hbranch, Bool.false_eq_true, if_false, if_true, hresolved.name]
    exact congrArg some (p.identifier?_getD_text _ _).symm
  | pullRequest hempty hbranch hrequest hkey hbase =>
    simp only [hempty, hbranch, hrequest, Bool.false_eq_true, if_false, if_true]
    exact pullRequestName_text hkey

/-- Every descriptor that a resolution returns is sound, on every host. -/
theorem resolve_sound (h : r.resolve p g = .ok d) : Sound r p g d := by
  have hresolved : Resolved r p g d := resolve_eq_ok.mp h
  refine
    { key_iff := d.key_iff
      target := fun t ht => ?_
      untargeted := hresolved.untargeted
      supported := hresolved.supported
      name := ⟨d.name.text, hresolved.name, Identifier.ofString?_text _⟩
      targetName := fun t ht => ?_ }
  · obtain ⟨-, base, hbase, hreference⟩ := hresolved.target ht
    exact ⟨base, hbase.found, Capabilities.isMergeTarget_iff.mp hbase.allowed, hreference⟩
  · exact Identifier.ofString?_eq_some.mpr (hresolved.target ht).1.symm

/-- A main line on record as a unified branch, and a second record of its name that never counts. -/
def sampleRegistry : Registry :=
  ⟨conventionalMain, [⟨conventionalMain, .branch, ⟨"uuid-master", by decide⟩, true⟩,
    ⟨conventionalMain, .shortLived, ⟨"uuid-other", by decide⟩, false⟩]⟩

theorem newBranch_sound :
    conventional.resolve ⟨[("branch.name", " feature/x ")]⟩ sampleRegistry =
        .ok (.ofBranch ⟨"feature/x", by decide⟩ .branch (some conventionalMain)
          ⟨"uuid-master", by decide⟩ (by decide)) ∧
      Sound conventional ⟨[("branch.name", " feature/x ")]⟩ sampleRegistry
        (.ofBranch ⟨"feature/x", by decide⟩ .branch (some conventionalMain)
          ⟨"uuid-master", by decide⟩ (by decide)) := by
  have hok : conventional.resolve ⟨[("branch.name", " feature/x ")]⟩ sampleRegistry =
      .ok (.ofBranch ⟨"feature/x", by decide⟩ .branch (some conventionalMain)
        ⟨"uuid-master", by decide⟩ (by decide)) := by
    rfl
  exact ⟨hok, resolve_sound hok⟩

end Resolver
end PullDecoration
