import PullDecoration.Proofs.Except
import PullDecoration.Resolution.Resolver

/-! The ways in which a resolution ends well. Each has its own condition on the parameters and on
the registry, and each fixes the whole descriptor; what holds of every descriptor is read off these
ways. -/
namespace PullDecoration

def Descriptor.ofBranch (name : BranchName) (type : BranchType) (target : Option BranchName)
    (reference : BranchUuid) (h : type ≠ .pullRequest) : Descriptor :=
  ⟨name, type, target, some reference, none, by simp [h]⟩

namespace Resolver

variable {r : Resolver} {p : Parameters} {g : Registry} {d : Descriptor}

/-- The branch to analyse and the branch it goes into, where the parameters ask for a branch. -/
def branchName (p : Parameters) (g : Registry) : BranchName :=
  (p.identifier? Parameters.branchName).getD g.defaultBranch

def branchTarget (p : Parameters) (g : Registry) : BranchName :=
  (p.identifier? Parameters.branchTarget).getD g.defaultBranch

def pullRequestBase (p : Parameters) (g : Registry) : BranchName :=
  (p.identifier? Parameters.pullRequestBase).getD g.defaultBranch

/-- The branch that a pull request comes from; without a name the request goes by its key. -/
def pullRequestName (p : Parameters) (key : PullRequestKey) : BranchName :=
  (p.identifier? Parameters.pullRequestBranch).getD ⟨key.text, key.text_ne_empty⟩

/-- A record that may be merged into, found under a name. -/
structure MergesInto (r : Resolver) (g : Registry) (target : BranchName) (base : BranchRecord) :
    Prop where
  found : g.find? target.text = some base
  allowed : r.capabilities.isMergeTarget base.type = true

inductive ResolvedBranch (r : Resolver) (p : Parameters) (g : Registry) : Descriptor → Prop
  | recordedMain {record : BranchRecord} (hfound : g.find? (branchName p g).text = some record)
      (htype : record.type = .main) : ResolvedBranch r p g (.main record.name)
  | recordedLongLived {record : BranchRecord}
      (hfound : g.find? (branchName p g).text = some record) (htype : record.type = .longLived)
      (hsupported : r.capabilities.supports record.type = true) :
      ResolvedBranch r p g (.ofBranch record.name .longLived none record.uuid (by decide))
  | recordedOther {record base : BranchRecord}
      (hfound : g.find? (branchName p g).text = some record)
      (htype : record.type = .shortLived ∨ record.type = .branch)
      (hsupported : r.capabilities.supports record.type = true)
      (hbase : r.MergesInto g (branchTarget p g) base) (hne : record.type ≠ .pullRequest) :
      ResolvedBranch r p g (.ofBranch record.name record.type (branchTarget p g) base.uuid hne)
  | unrecorded {type : BranchType} {base : BranchRecord}
      (hfound : g.find? (branchName p g).text = none)
      (hclass : r.classify (r.pattern.or (p.value? Parameters.longLivedPattern)) (branchName p g) =
        .ok type)
      (hbase : r.MergesInto g (branchTarget p g) base) (hne : type ≠ .pullRequest) :
      ResolvedBranch r p g
        (.ofBranch (branchName p g) type (branchTarget p g) base.uuid hne)

inductive Resolved (r : Resolver) (p : Parameters) (g : Registry) : Descriptor → Prop
  | firstAnalysis (hempty : g.isEmpty = true)
      (hmain : addressesMain (p.identifier? Parameters.branchName)
        (p.identifier? Parameters.branchTarget) = true) : Resolved r p g (.main conventionalMain)
  | mainLine (hempty : g.isEmpty = false) (hbranch : p.hasAny Parameters.branchKeys = false)
      (hrequest : p.hasAny Parameters.pullRequestKeys = false) :
      Resolved r p g (.main g.defaultBranch)
  | branch {d : Descriptor} (hempty : g.isEmpty = false)
      (hbranch : p.hasAny Parameters.branchKeys = true) (hresolved : ResolvedBranch r p g d) :
      Resolved r p g d
  | pullRequest {key : PullRequestKey} {base : BranchRecord} (hempty : g.isEmpty = false)
      (hbranch : p.hasAny Parameters.branchKeys = false)
      (hrequest : p.hasAny Parameters.pullRequestKeys = true)
      (hkey : p.identifier? Parameters.pullRequestKey = some key)
      (hbase : r.MergesInto g (pullRequestBase p g) base) :
      Resolved r p g (.pullRequest (pullRequestName p key) key (pullRequestBase p g) base.uuid)

theorem mergeTarget_eq_ok {target : BranchName} {base : BranchRecord} :
    r.mergeTarget g target = .ok base ↔ r.MergesInto g target base := by
  unfold mergeTarget
  constructor
  · intro h
    cases hfound : g.find? target.text with
    | none => simp [hfound] at h
    | some record =>
      by_cases hallowed : r.capabilities.isMergeTarget record.type = true
      · simp only [hfound, hallowed, if_true, Except.ok.injEq] at h
        exact h ▸ ⟨hfound, hallowed⟩
      · simp [hfound, hallowed] at h
  · rintro ⟨hfound, hallowed⟩
    simp [hfound, hallowed]

theorem describe_eq_ok {name : BranchName} {type : BranchType} {target : Option BranchName}
    {reference : BranchUuid} :
    describe name type target reference = .ok d ↔
      ∃ h : type ≠ .pullRequest, d = .ofBranch name type target reference h := by
  unfold describe Descriptor.branch Descriptor.ofParts
  by_cases htype : type = .pullRequest
  · simp [htype, mapError_error]
  · simp [htype, mapError_ok, Descriptor.ofBranch, eq_comm]

/-- A new branch is unified on a host that knows this type, and of a legacy type on any other. -/
theorem classify_type {pattern : Option String} {name : BranchName} {type : BranchType}
    (h : r.classify pattern name = .ok type) :
    type = .branch ∧ r.capabilities.unified = true ∨
      (type = .longLived ∨ type = .shortLived) ∧ r.capabilities.unified = false := by
  unfold classify at h
  cases hunified : r.capabilities.unified with
  | true =>
    simp only [hunified, if_true, Except.ok.injEq] at h
    exact .inl ⟨h.symm, rfl⟩
  | false =>
    simp only [hunified, Bool.false_eq_true, if_false] at h
    split at h
    · cases h
    · rw [Except.ok.injEq] at h
      refine .inr ⟨?_, rfl⟩
      split at h
      · exact .inl h.symm
      · exact .inr h.symm

theorem recordedBranch_supported {record : BranchRecord} (target : BranchName)
    (hsupported : r.capabilities.supports record.type = true) :
    r.recordedBranch g record target = match record.type with
      | .main => .ok (.main record.name)
      | .longLived => describe record.name .longLived none record.uuid
      | .shortLived | .branch => r.mergeTarget g target >>= fun base =>
        describe record.name record.type (some target) base.uuid
      | .pullRequest => .error (.invalidBranchType record.name.text .pullRequest) := by
  unfold recordedBranch
  rw [hsupported]
  cases record.type <;> rfl

theorem recordedBranch_other {record : BranchRecord} (target : BranchName)
    (htype : record.type = .shortLived ∨ record.type = .branch)
    (hsupported : r.capabilities.supports record.type = true) :
    r.recordedBranch g record target = (r.mergeTarget g target >>= fun base =>
      describe record.name record.type (some target) base.uuid) := by
  rw [recordedBranch_supported target hsupported]
  rcases htype with htype | htype <;> rw [htype]

theorem recordedBranch_ok {record : BranchRecord}
    (hfound : g.find? (branchName p g).text = some record)
    (h : r.recordedBranch g record (branchTarget p g) = .ok d) : ResolvedBranch r p g d := by
  have hsupported : r.capabilities.supports record.type = true := by
    cases hsupported : r.capabilities.supports record.type with
    | true => rfl
    | false => simp [recordedBranch, hsupported] at h
  have hother (htype : record.type = .shortLived ∨ record.type = .branch) :
      ResolvedBranch r p g d := by
    rw [recordedBranch_other _ htype hsupported] at h
    obtain ⟨base, hbase, hdescribe⟩ := bind_eq_ok.mp h
    obtain ⟨hne, rfl⟩ := describe_eq_ok.mp hdescribe
    exact .recordedOther hfound htype hsupported (mergeTarget_eq_ok.mp hbase) hne
  cases htype : record.type with
  | main =>
    rw [recordedBranch_supported _ hsupported, htype, Except.ok.injEq] at h
    exact h ▸ .recordedMain hfound htype
  | longLived =>
    rw [recordedBranch_supported _ hsupported, htype, describe_eq_ok] at h
    obtain ⟨-, rfl⟩ := h
    exact .recordedLongLived hfound htype hsupported
  | shortLived => exact hother (.inl htype)
  | branch => exact hother (.inr htype)
  | pullRequest =>
    rw [recordedBranch_supported _ hsupported, htype] at h
    cases h

theorem branch_eq (r : Resolver) (p : Parameters) (g : Registry) :
    r.branch g p = match g.find? (branchName p g).text with
      | some record => r.recordedBranch g record (branchTarget p g)
      | none => r.newBranch g (r.pattern.or (p.value? Parameters.longLivedPattern))
          (branchName p g) (branchTarget p g) := rfl

theorem branch_eq_ok : r.branch g p = .ok d ↔ ResolvedBranch r p g d := by
  rw [branch_eq]
  constructor
  · intro h
    cases hfound : g.find? (branchName p g).text with
    | some record =>
      rw [hfound] at h
      exact recordedBranch_ok hfound h
    | none =>
      simp only [hfound, newBranch, bind_eq_ok, mergeTarget_eq_ok, describe_eq_ok] at h
      obtain ⟨type, hclass, base, hbase, hne, rfl⟩ := h
      exact .unrecorded hfound hclass hbase hne
  · intro h
    cases h with
    | recordedMain hfound htype =>
      have hsupported : r.capabilities.supports _ = true := congrArg r.capabilities.supports htype
      simp only [hfound, recordedBranch_supported _ hsupported, htype]
    | recordedLongLived hfound htype hsupported =>
      simp only [hfound, recordedBranch_supported _ hsupported, htype]
      exact describe_eq_ok.mpr ⟨nofun, rfl⟩
    | recordedOther hfound htype hsupported hbase hne =>
      simp only [hfound, recordedBranch_other _ htype hsupported, bind_eq_ok]
      exact ⟨_, mergeTarget_eq_ok.mpr hbase, describe_eq_ok.mpr ⟨hne, rfl⟩⟩
    | unrecorded hfound hclass hbase hne =>
      simp only [hfound, newBranch, bind_eq_ok]
      exact ⟨_, hclass, _, mergeTarget_eq_ok.mpr hbase, describe_eq_ok.mpr ⟨hne, rfl⟩⟩

theorem pullRequest_eq_ok : r.pullRequest g p = .ok d ↔
    ∃ key base, p.identifier? Parameters.pullRequestKey = some key ∧
      r.MergesInto g (pullRequestBase p g) base ∧
      d = .pullRequest (pullRequestName p key) key (pullRequestBase p g) base.uuid := by
  unfold pullRequest
  simp only [bind_eq_ok, mergeTarget_eq_ok]
  constructor
  · rintro ⟨base, hbase, h⟩
    cases hkey : (p.identifier? Parameters.pullRequestKey : Option PullRequestKey) with
    | none => simp [hkey, throw, throwThe, MonadExceptOf.throw] at h
    | some key =>
      simp only [hkey, pure, Except.pure, Except.ok.injEq] at h
      exact ⟨key, base, rfl, hbase, h.symm⟩
  · rintro ⟨key, base, hkey, hbase, rfl⟩
    refine ⟨base, hbase, ?_⟩
    rw [hkey]
    rfl

theorem addressesMain_name {name target : Option BranchName}
    (h : addressesMain name target = true) :
    name.getD conventionalMain = conventionalMain := by
  cases name with
  | none => rfl
  | some name =>
    simp only [addressesMain, Bool.and_eq_true, Option.all_some, decide_eq_true_eq] at h
    exact h.1

theorem resolve_eq_ok : r.resolve p g = .ok d ↔ Resolved r p g d := by
  unfold resolve
  constructor
  · intro h
    cases hempty : g.isEmpty with
    | true =>
      simp only [hempty, if_true] at h
      split at h
      · rename_i hmain
        rw [addressesMain_name hmain, Except.ok.injEq] at h
        exact h ▸ .firstAnalysis hempty hmain
      · cases h
    | false =>
      simp only [hempty, Bool.false_eq_true, if_false] at h
      cases hbranch : p.hasAny Parameters.branchKeys with
      | true =>
        simp only [hbranch, if_true] at h
        exact .branch hempty hbranch (branch_eq_ok.mp h)
      | false =>
        simp only [hbranch, Bool.false_eq_true, if_false] at h
        cases hrequest : p.hasAny Parameters.pullRequestKeys with
        | true =>
          simp only [hrequest, if_true] at h
          obtain ⟨key, base, hkey, hbase, rfl⟩ := pullRequest_eq_ok.mp h
          exact .pullRequest hempty hbranch hrequest hkey hbase
        | false =>
          simp only [hrequest, Bool.false_eq_true, if_false, Except.ok.injEq] at h
          exact h ▸ .mainLine hempty hbranch hrequest
  · intro h
    cases h with
    | firstAnalysis hempty hmain => simp [hempty, hmain, addressesMain_name hmain]
    | mainLine hempty hbranch hrequest => simp [hempty, hbranch, hrequest]
    | branch hempty hbranch hresolved => simp [hempty, hbranch, branch_eq_ok.mpr hresolved]
    | pullRequest hempty hbranch hrequest hkey hbase =>
      simp only [hempty, hbranch, hrequest, Bool.false_eq_true, if_false, if_true]
      exact pullRequest_eq_ok.mpr ⟨_, _, hkey, hbase, rfl⟩

end Resolver
end PullDecoration
