import PullDecoration.Proofs.Resolution.Recording
import PullDecoration.Proofs.Resolution.Refusal

/-! A branch on record is what its record says. No pattern is looked at, not even one that does not
compile; and where the branch is the main line or a long-lived one, which are compared with no other
branch, the target is not looked at either. -/
namespace PullDecoration
namespace Resolver

variable {r r' : Resolver} {p p' : Parameters} {g : Registry} {record : BranchRecord}
  {target : BranchName}

/-- The parameters ask for a branch, and the record is the first of its name. -/
structure AsksForRecorded (p : Parameters) (g : Registry) (record : BranchRecord) : Prop where
  asks : AsksForBranch p g
  recorded : g.FirstNamed (nameText p g) record

theorem AsksForRecorded.resolve_eq (h : AsksForRecorded p g record) :
    r.resolve p g = r.recordedBranch g record (branchTarget p g) := by
  rw [h.asks.resolve_eq, branch_eq, branchName_text, Registry.find?_eq_some_iff.mpr h.recorded]

/-- Other parameters with the same name, wherever they ask for a branch, ask for the same record. -/
theorem AsksForRecorded.congr (h : AsksForRecorded p g record)
    (hname : p'.AgreesAt p Parameters.branchName) (hkeys : p'.hasAny Parameters.branchKeys = true) :
    AsksForRecorded p' g record := by
  refine ⟨⟨h.asks.records, hkeys⟩, ?_⟩
  rw [nameText, hname.value?]
  exact h.recorded

theorem hasAny_branchKeys : p.hasAny Parameters.branchKeys = true ↔
    p.has Parameters.branchName = true ∨ p.has Parameters.branchTarget = true := by
  simp [Parameters.hasAny, Parameters.branchKeys]

theorem recordedBranch_congr (hhost : r'.capabilities = r.capabilities) :
    r'.recordedBranch g record target = r.recordedBranch g record target := by
  simp only [recordedBranch, mergeTarget, hhost]

theorem recordedBranch_untargeted (htype : record.type = .main ∨ record.type = .longLived)
    (other : BranchName) :
    r.recordedBranch g record target = r.recordedBranch g record other := by
  unfold recordedBranch
  rcases htype with htype | htype <;> rw [htype]

theorem recordedBranch_isOk (htype : record.type = .main ∨ record.type = .longLived)
    (hsupported : r.capabilities.supports record.type = true) :
    ∃ d, r.recordedBranch g record target = .ok d := by
  rw [recordedBranch_supported target hsupported]
  rcases htype with htype | htype
  · rw [htype]
    exact ⟨_, rfl⟩
  · rw [htype]
    exact ⟨_, describe_eq_ok.mpr ⟨BranchType.longLived_ne_pullRequest, rfl⟩⟩

theorem ResolvedBranch.of_record {d : Descriptor} (h : ResolvedBranch r p g d)
    (hrecord : g.find? (branchName p g).text = some record) :
    d.name = record.name ∧ d.type = record.type := by
  cases h with
  | recordedMain hfound htype =>
    cases hrecord.symm.trans hfound
    exact ⟨rfl, htype.symm⟩
  | recordedLongLived hfound htype hsupported =>
    cases hrecord.symm.trans hfound
    exact ⟨rfl, htype.symm⟩
  | recordedOther hfound htype hsupported hbase hne =>
    cases hrecord.symm.trans hfound
    exact ⟨rfl, rfl⟩
  | unrecorded hfound hclass hbase hne => cases hrecord.symm.trans hfound

/-- The target alone can make a difference between two hosts of the same capabilities, and for the
main line and a long-lived branch not even this. -/
theorem AsksForRecorded.resolve_congr (h : AsksForRecorded p g record)
    (hhost : r'.capabilities = r.capabilities) (hname : p'.AgreesAt p Parameters.branchName)
    (hkeys : p'.hasAny Parameters.branchKeys = true) (htarget : branchTarget p' g =
      branchTarget p g ∨ record.type = .main ∨ record.type = .longLived) :
    r'.resolve p' g = r.resolve p g := by
  rw [(h.congr hname hkeys).resolve_eq, h.resolve_eq, recordedBranch_congr hhost]
  rcases htarget with hsame | htype
  · rw [hsame]
  · exact recordedBranch_untargeted htype _

theorem AsksForRecorded.of_ok (h : AsksForRecorded p g record) {d : Descriptor}
    (hd : r.resolve p g = .ok d) :
    d.name = record.name ∧ d.type = record.type := by
  rw [h.asks.resolve_eq, branch_eq_ok] at hd
  apply hd.of_record
  rw [branchName_text]
  exact Registry.find?_eq_some_iff.mpr h.recorded

/-- The record decides. The result is the same for all patterns, given or not and whether they
compile or not; a descriptor has the name and the type of the record; for the main line and a
long-lived branch the result is the same for all targets, also for none where the name is given, and
never a failure if the host knows the type; and a record of a pull request or of a type that the
host does not know is refused by its name and type, whatever the target. -/
theorem record_decides (h : AsksForRecorded p g record) :
    (∀ (r' : Resolver) (p' : Parameters), r'.capabilities = r.capabilities →
      p'.AgreesAt p Parameters.branchName → p'.AgreesAt p Parameters.branchTarget →
      r'.resolve p' g = r.resolve p g) ∧
    (∀ d, r.resolve p g = .ok d → d.name = record.name ∧ d.type = record.type) ∧
    (record.type = .main ∨ record.type = .longLived →
      (r.capabilities.supports record.type = true → ∃ d, r.resolve p g = .ok d) ∧
      ∀ (r' : Resolver) (p' : Parameters), r'.capabilities = r.capabilities →
        p'.AgreesAt p Parameters.branchName →
        (p'.has Parameters.branchTarget = true ∨ p.has Parameters.branchName = true) →
        r'.resolve p' g = r.resolve p g) ∧
    (record.type = .pullRequest ∨ r.capabilities.supports record.type = false →
      r.resolve p g = .error (.invalidBranchType record.name.text record.type)) := by
  refine ⟨?_, fun d hd => h.of_ok hd, fun htype => ⟨fun hsupported => ?_, ?_⟩, fun htype => ?_⟩
  · intro r' p' hhost hname htarget
    have hkeys : p'.hasAny Parameters.branchKeys = true := by
      rw [hasAny_branchKeys, hname.has, htarget.has, ← hasAny_branchKeys]
      exact h.asks.keys
    exact h.resolve_congr hhost hname hkeys (.inl (branchTarget_congr htarget rfl))
  · rw [h.resolve_eq]
    exact recordedBranch_isOk htype hsupported
  · intro r' p' hhost hname hgiven
    have hkeys : p'.hasAny Parameters.branchKeys = true := by
      rw [hasAny_branchKeys, hname.has]
      exact hgiven.symm
    exact h.resolve_congr hhost hname hkeys (.inr htype)
  · rw [h.resolve_eq, recordedBranch_eq_error]
    exact .inl ⟨htype, rfl⟩

def shadowedRegistry : Registry :=
  AnalysedBranch.releaseRegistry.append
    [⟨AnalysedBranch.releaseLine.name, .shortLived, ⟨"uuid-shadowed", by decide⟩, false⟩,
      ⟨⟨"request/8", by decide⟩, .pullRequest, ⟨"uuid-request", by decide⟩, false⟩]

/-- The release line is resolved as its record says, with a target that does not exist and a pattern
that does not compile; the pull request is refused as a branch. -/
theorem releaseLine_decided :
    (∃ d, legacyHost.resolve ⟨[("branch.name", "release/1")]⟩ shadowedRegistry = .ok d ∧
      d.name = ⟨"release/1", by decide⟩ ∧ d.type = .longLived ∧
      unreadableHost.resolve
        ⟨[("branch.name", "release/1 "), ("branch.target", "nowhere")]⟩ shadowedRegistry =
        .ok d) ∧
    unreadableHost.resolve ⟨[("branch.name", "request/8")]⟩ shadowedRegistry =
      legacyHost.resolve ⟨[("branch.name", "request/8")]⟩ shadowedRegistry ∧
    legacyHost.resolve ⟨[("branch.name", "request/8")]⟩ shadowedRegistry =
      .error (.invalidBranchType "request/8" .pullRequest) := by
  have hrelease : AsksForRecorded ⟨[("branch.name", "release/1")]⟩ shadowedRegistry
      ⟨⟨"release/1", by decide⟩, .longLived, ⟨"uuid-release", by decide⟩, false⟩ :=
    ⟨⟨rfl, rfl⟩, Registry.find?_eq_some_iff.mp (by decide)⟩
  have hrequest : AsksForRecorded ⟨[("branch.name", "request/8")]⟩ shadowedRegistry
      ⟨⟨"request/8", by decide⟩, .pullRequest, ⟨"uuid-request", by decide⟩, false⟩ :=
    ⟨⟨rfl, rfl⟩, Registry.find?_eq_some_iff.mp (by decide)⟩
  constructor
  · obtain ⟨-, hkeeps, hlong, -⟩ := record_decides (r := legacyHost) hrelease
    obtain ⟨hok, hsame⟩ := hlong (.inr rfl)
    obtain ⟨d, hd⟩ := hok rfl
    refine ⟨d, hd, (hkeeps d hd).1, (hkeeps d hd).2, ?_⟩
    rw [← hd]
    exact hsame unreadableHost _ rfl (by decide) (.inl rfl)
  · obtain ⟨hsame, -, -, hrefused⟩ := record_decides (r := legacyHost) hrequest
    exact ⟨hsame unreadableHost _ rfl rfl rfl, hrefused (.inl rfl)⟩

end Resolver
end PullDecoration
