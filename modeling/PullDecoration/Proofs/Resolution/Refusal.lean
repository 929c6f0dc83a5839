import PullDecoration.Proofs.Resolution.Soundness

/-! The ways in which a resolution fails. Each kind of error has its own condition on the
parameters, the registry and the host; the conditions are stated on the trimmed values, of which a
blank one counts as none. -/
namespace PullDecoration

def Capabilities.TakesMerges (c : Capabilities) (t : BranchType) : Prop :=
  t = .longLived ∧ c.legacy = true ∨ t = .branch ∧ c.unified = true

/-- The parameters give no name but that of the main line, and no target but the name. -/
def Parameters.AddressesMain (p : Parameters) : Prop :=
  (∀ name, p.value? branchName = some name → name = "master") ∧
    ∀ target, p.value? branchTarget = some target → p.value? branchName = some target

namespace Resolver

variable {r : Resolver} {p : Parameters} {g : Registry} {e : ResolutionError}

structure AsksForBranch (p : Parameters) (g : Registry) : Prop where
  records : g.isEmpty = false
  keys : p.hasAny Parameters.branchKeys = true

structure AsksForPullRequest (p : Parameters) (g : Registry) : Prop where
  records : g.isEmpty = false
  noBranchKeys : p.hasAny Parameters.branchKeys = false
  keys : p.hasAny Parameters.pullRequestKeys = true

def nameText (p : Parameters) (g : Registry) : String :=
  (p.value? Parameters.branchName).getD g.defaultBranch.text

/-- The pattern for long-lived names: that of the host, that of the parameters, or the default
one. -/
def patternText (r : Resolver) (p : Parameters) : String :=
  (r.pattern.or (p.value? Parameters.longLivedPattern)).getD defaultPattern

inductive TargetRefused (r : Resolver) (g : Registry) (name : String) : ResolutionError → Prop
  | notFound (hfound : g.find? name = none) : TargetRefused r g name (.targetNotFound name)
  | wrongType {base : BranchRecord} (hfound : g.find? name = some base)
      (htype : ¬ r.capabilities.TakesMerges base.type) :
      TargetRefused r g name (.targetWrongType name r.capabilities.mergeTargetNames base.type)

/-- The branch that the parameters ask for cannot be analysed. The target counts for a branch
without a record, once its type is known, and for one recorded as short-lived or under the unified
type. -/
inductive BranchRefused (r : Resolver) (p : Parameters) (g : Registry) : ResolutionError → Prop
  | invalidBranchType {record : BranchRecord} (hfound : g.find? (nameText p g) = some record)
      (htype : record.type = .pullRequest ∨ r.capabilities.supports record.type = false) :
      BranchRefused r p g (.invalidBranchType (nameText p g) record.type)
  | invalidPattern {reason : Pattern.PatternError} (hfound : g.find? (nameText p g) = none)
      (hunified : r.capabilities.unified = false)
      (hpattern : Pattern.compile (Pattern.anchored (r.patternText p)) = .error reason) :
      BranchRefused r p g
        (.invalidPattern (r.patternText p) (reason.message (Pattern.anchored (r.patternText p))))
  | newTarget {e : ResolutionError} (hfound : g.find? (nameText p g) = none)
      (htype : r.capabilities.unified = true ∨
        ∃ regex, Pattern.compile (Pattern.anchored (r.patternText p)) = .ok regex)
      (htarget : TargetRefused r g (targetText p g) e) : BranchRefused r p g e
  | recordedTarget {record : BranchRecord} {e : ResolutionError}
      (hfound : g.find? (nameText p g) = some record)
      (htype : record.type = .shortLived ∨ record.type = .branch)
      (hsupported : r.capabilities.supports record.type = true)
      (htarget : TargetRefused r g (targetText p g) e) : BranchRefused r p g e

inductive Refused (r : Resolver) (p : Parameters) (g : Registry) : ResolutionError → Prop
  | noBranchesExist (hempty : g.isEmpty = true) (hother : ¬ p.AddressesMain) :
      Refused r p g .noBranchesExist
  | branch {e : ResolutionError} (hasks : AsksForBranch p g) (hrefused : BranchRefused r p g e) :
      Refused r p g e
  | base {e : ResolutionError} (hasks : AsksForPullRequest p g)
      (hbase : TargetRefused r g (targetText p g) e) : Refused r p g e
  | missingKey {base : BranchRecord} (hasks : AsksForPullRequest p g)
      (hbase : g.find? (targetText p g) = some base) (htype : r.capabilities.TakesMerges base.type)
      (hkey : p.value? Parameters.pullRequestKey = none) :
      Refused r p g (.missingKey ((p.value? Parameters.pullRequestBranch).getD ""))

theorem branchName_text : (branchName p g).text = nameText p g := p.identifier?_getD_text _ _

theorem AsksForBranch.target_text (h : AsksForBranch p g) :
    (branchTarget p g).text = targetText p g := by
  rw [targetText, if_pos h.keys]
  exact p.identifier?_getD_text _ _

theorem AsksForPullRequest.base_text (h : AsksForPullRequest p g) :
    (pullRequestBase p g).text = targetText p g := by
  rw [targetText, h.noBranchKeys]
  exact p.identifier?_getD_text _ _

theorem mergeTarget_eq_error {target : BranchName} :
    r.mergeTarget g target = .error e ↔ TargetRefused r g target.text e := by
  unfold mergeTarget
  constructor
  · intro h
    cases hfound : g.find? target.text with
    | none =>
      simp only [hfound, Except.error.injEq] at h
      exact h ▸ .notFound hfound
    | some base =>
      by_cases hallowed : r.capabilities.isMergeTarget base.type = true
      · simp [hfound, hallowed] at h
      · simp only [hfound, hallowed, Bool.false_eq_true, if_false, Except.error.injEq] at h
        exact h ▸ .wrongType hfound fun htakes =>
          hallowed (Capabilities.isMergeTarget_iff.mpr htakes)
  · intro h
    cases h with
    | notFound hfound => simp [hfound]
    | wrongType hfound htype =>
      have hallowed : ¬ r.capabilities.isMergeTarget _ = true := fun h =>
        htype (Capabilities.isMergeTarget_iff.mp h)
      simp [hfound, hallowed]

theorem classify_eq_error {pattern : Option String} {name : BranchName} :
    r.classify pattern name = .error e ↔ r.capabilities.unified = false ∧
      ∃ reason, Pattern.compile (Pattern.anchored (pattern.getD defaultPattern)) = .error reason ∧
        e = .invalidPattern (pattern.getD defaultPattern)
          (reason.message (Pattern.anchored (pattern.getD defaultPattern))) := by
  unfold classify
  cases r.capabilities.unified with
  | true => simp
  | false =>
    cases hcompile : Pattern.compile (Pattern.anchored (pattern.getD defaultPattern)) with
    | error reason => simp [hcompile, eq_comm]
    | ok regex => simp [hcompile]

theorem classify_succeeds {pattern : Option String} {name : BranchName} :
    (∃ type, r.classify pattern name = .ok type) ↔ r.capabilities.unified = true ∨
      ∃ regex, Pattern.compile (Pattern.anchored (pattern.getD defaultPattern)) = .ok regex := by
  unfold classify
  cases r.capabilities.unified with
  | true => simp
  | false =>
    cases hcompile : Pattern.compile (Pattern.anchored (pattern.getD defaultPattern)) with
    | error reason => simp [hcompile]
    | ok regex => simp [hcompile]

theorem describe_ne_error {name : BranchName} {type : BranchType} {target : Option BranchName}
    {reference : BranchUuid} (htype : type ≠ .pullRequest) :
    describe name type target reference ≠ .error e := by
  have hok : describe name type target reference =
      .ok (.ofBranch name type target reference htype) :=
    describe_eq_ok.mpr ⟨htype, rfl⟩
  rw [hok]
  nofun

/-- The type of a new branch comes first: a pattern that does not compile hides a target that is
refused. -/
theorem newBranch_eq_error {pattern : Option String} {name target : BranchName} :
    r.newBranch g pattern name target = .error e ↔ r.classify pattern name = .error e ∨
      (∃ type, r.classify pattern name = .ok type) ∧ TargetRefused r g target.text e := by
  have hdescribe {type : BranchType} (hclass : r.classify pattern name = .ok type)
      (base : BranchRecord) : describe name type (some target) base.uuid ≠ .error e := by
    refine describe_ne_error fun htype => ?_
    rcases classify_type hclass with ⟨h, -⟩ | ⟨h | h, -⟩ <;> cases htype.symm.trans h
  unfold newBranch
  rw [bind_eq_error]
  refine or_congr_right ⟨?_, ?_⟩
  · rintro ⟨type, hclass, h⟩
    rcases bind_eq_error.mp h with h | ⟨base, -, h⟩
    · exact ⟨⟨type, hclass⟩, mergeTarget_eq_error.mp h⟩
    · exact absurd h (hdescribe hclass base)
  · rintro ⟨⟨type, hclass⟩, h⟩
    exact ⟨type, hclass, bind_eq_error.mpr (.inl (mergeTarget_eq_error.mpr h))⟩

theorem recordedBranch_eq_error {record : BranchRecord} {target : BranchName} :
    r.recordedBranch g record target = .error e ↔
      ((record.type = .pullRequest ∨ r.capabilities.supports record.type = false) ∧
          e = .invalidBranchType record.name.text record.type) ∨
        (record.type = .shortLived ∨ record.type = .branch) ∧
          r.capabilities.supports record.type = true ∧ TargetRefused r g target.text e := by
  cases hsupported : r.capabilities.supports record.type with
  | false => simp [recordedBranch, hsupported, eq_comm]
  | true =>
    have hother (htype : record.type = .shortLived ∨ record.type = .branch) :
        r.recordedBranch g record target = .error e ↔ TargetRefused r g target.text e := by
      have hne : record.type ≠ .pullRequest := by rcases htype with h | h <;> simp [h]
      rw [recordedBranch_other target htype hsupported, bind_eq_error, mergeTarget_eq_error]
      refine or_iff_left ?_
      rintro ⟨base, -, h⟩
      exact describe_ne_error hne h
    cases htype : record.type with
    | main => simp [recordedBranch_supported target hsupported, htype]
    | longLived => simp [recordedBranch_supported target hsupported, htype, describe_ne_error]
    | shortLived => simp [hother (.inl htype)]
    | branch => simp [hother (.inr htype)]
    | pullRequest => simp [recordedBranch_supported target hsupported, htype, eq_comm]

theorem branch_eq_error (hasks : AsksForBranch p g) :
    r.branch g p = .error e ↔ BranchRefused r p g e := by
  rw [branch_eq, branchName_text]
  cases hfound : g.find? (nameText p g) with
  | some record =>
    rw [recordedBranch_eq_error, hasks.target_text, Registry.find?_name hfound]
    constructor
    · rintro (⟨htype, rfl⟩ | ⟨htype, hsupported, h⟩)
      · exact .invalidBranchType hfound htype
      · exact .recordedTarget hfound htype hsupported h
    · intro h
      cases h with
      | invalidBranchType hfound' htype =>
        cases hfound.symm.trans hfound'
        exact .inl ⟨htype, rfl⟩
      | recordedTarget hfound' htype hsupported htarget =>
        cases hfound.symm.trans hfound'
        exact .inr ⟨htype, hsupported, htarget⟩
      | invalidPattern hfound' hunified hpattern => cases hfound.symm.trans hfound'
      | newTarget hfound' htype htarget => cases hfound.symm.trans hfound'
  | none =>
    rw [newBranch_eq_error, classify_eq_error, classify_succeeds, hasks.target_text]
    constructor
    · rintro (⟨hunified, reason, hpattern, rfl⟩ | ⟨htype, h⟩)
      · exact .invalidPattern hfound hunified hpattern
      · exact .newTarget hfound htype h
    · intro h
      cases h with
      | invalidBranchType hfound' htype => cases hfound.symm.trans hfound'
      | recordedTarget hfound' htype hsupported htarget => cases hfound.symm.trans hfound'
      | invalidPattern hfound' hunified hpattern => exact .inl ⟨hunified, _, hpattern, rfl⟩
      | newTarget hfound' htype htarget => exact .inr ⟨htype, htarget⟩

/-- The base comes before the key: a key that is missing is only reported where the base can be
merged into. -/
theorem pullRequest_eq_error (hasks : AsksForPullRequest p g) :
    r.pullRequest g p = .error e ↔ TargetRefused r g (targetText p g) e ∨
      (∃ base, g.find? (targetText p g) = some base ∧ r.capabilities.TakesMerges base.type) ∧
        p.value? Parameters.pullRequestKey = none ∧
        e = .missingKey ((p.value? Parameters.pullRequestBranch).getD "") := by
  have hmerges (base : BranchRecord) : r.mergeTarget g (pullRequestBase p g) = .ok base ↔
      g.find? (targetText p g) = some base ∧ r.capabilities.TakesMerges base.type := by
    rw [mergeTarget_eq_ok, ← hasks.base_text]
    exact ⟨fun h => ⟨h.found, Capabilities.isMergeTarget_iff.mp h.allowed⟩,
      fun h => ⟨h.1, Capabilities.isMergeTarget_iff.mpr h.2⟩⟩
  have hsource : (p.value? Parameters.pullRequestBranch).getD "" =
      ((p.identifier? Parameters.pullRequestBranch : Option BranchName).map (·.text)).getD "" := by
    rw [p.value?_eq .branchName]
  unfold pullRequest
  rw [bind_eq_error, ← pullRequestBase, mergeTarget_eq_error, hasks.base_text, hsource,
    p.value?_eq .pullRequestKey, Option.map_eq_none_iff]
  refine or_congr_right ?_
  simp only [hmerges]
  cases hkey : (p.identifier? Parameters.pullRequestKey : Option PullRequestKey) with
  | none => simp [throw, throwThe, MonadExceptOf.throw, eq_comm]
  | some key => simp [pure, Except.pure]

theorem addressesMain_iff : addressesMain (p.identifier? Parameters.branchName)
    (p.identifier? Parameters.branchTarget) = true ↔ p.AddressesMain := by
  have hname := p.value?_eq .branchName Parameters.branchName
  have htarget := p.value?_eq .branchName Parameters.branchTarget
  have hmain (name : BranchName) : name = conventionalMain ↔ name.text = "master" :=
    Identifier.ext_iff
  have hsame (name target : BranchName) : target = name ↔ name.text = target.text :=
    eq_comm.trans Identifier.ext_iff
  rw [Parameters.AddressesMain, hname, htarget]
  cases (p.identifier? Parameters.branchName : Option BranchName) <;>
    cases (p.identifier? Parameters.branchTarget : Option BranchName) <;>
      simp [addressesMain, hmain, hsame]

theorem AsksForBranch.resolve_eq (h : AsksForBranch p g) : r.resolve p g = r.branch g p := by
  simp [resolve, h.records, h.keys]

theorem AsksForPullRequest.resolve_eq (h : AsksForPullRequest p g) :
    r.resolve p g = r.pullRequest g p := by
  simp [resolve, h.records, h.noBranchKeys, h.keys]

/-- A resolution fails in these ways and in no other. -/
theorem resolve_eq_error : r.resolve p g = .error e ↔ Refused r p g e := by
  constructor
  · intro h
    cases hempty : g.isEmpty with
    | true =>
      simp only [resolve, hempty, if_true] at h
      split at h
      · cases h
      · rename_i hother
        cases h
        exact .noBranchesExist hempty fun hmain => hother (addressesMain_iff.mpr hmain)
    | false =>
      cases hbranch : p.hasAny Parameters.branchKeys with
      | true =>
        have hasks : AsksForBranch p g := ⟨hempty, hbranch⟩
        rw [hasks.resolve_eq, branch_eq_error hasks] at h
        exact .branch hasks h
      | false =>
        cases hrequest : p.hasAny Parameters.pullRequestKeys with
        | true =>
          have hasks : AsksForPullRequest p g := ⟨hempty, hbranch, hrequest⟩
          rw [hasks.resolve_eq, pullRequest_eq_error hasks] at h
          rcases h with h | ⟨⟨base, hbase, htype⟩, hkey, rfl⟩
          · exact .base hasks h
          · exact .missingKey hasks hbase htype hkey
        | false => simp [resolve, hempty, hbranch, hrequest] at h
  · intro h
    cases h with
    | noBranchesExist hempty hother => simp [resolve, hempty, addressesMain_iff, hother]
    | branch hasks h => exact hasks.resolve_eq.trans ((branch_eq_error hasks).mpr h)
    | base hasks h => exact hasks.resolve_eq.trans ((pullRequest_eq_error hasks).mpr (.inl h))
    | missingKey hasks hbase htype hkey =>
      rw [hasks.resolve_eq, pullRequest_eq_error hasks]
      exact .inr ⟨⟨_, hbase, htype⟩, hkey, rfl⟩

end Resolver
end PullDecoration
