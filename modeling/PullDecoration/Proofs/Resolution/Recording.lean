import PullDecoration.Proofs.Branch.Loading
import PullDecoration.Proofs.Resolution.Agreement
import PullDecoration.Proofs.Resolution.Upgrade

/-! What becomes of a new branch once it is on record. Its type was found by what the host knows and
by a pattern; from then on it is read off the record, and no pattern is looked at any more. The
descriptor stays the same, but for a long-lived branch: this one is compared with itself. -/
namespace PullDecoration

theorem BranchType.longLived_ne_pullRequest : BranchType.longLived ≠ .pullRequest := by decide

/-- The descriptor of a branch on record under that uuid, which was new when it got the
descriptor. -/
def Descriptor.recorded (d : Descriptor) (own : BranchUuid) : Descriptor :=
  if d.type = .longLived then .ofBranch d.name .longLived none own
    BranchType.longLived_ne_pullRequest else d

namespace Resolver

variable {r r' : Resolver} {p p' : Parameters} {g : Registry} {d : Descriptor}

theorem MergesInto.append {target : BranchName} {base : BranchRecord}
    (h : r.MergesInto g target base) (hhost : r'.capabilities = r.capabilities)
    (more : List BranchRecord) :
    r'.MergesInto (g.append more) target base :=
  ⟨Registry.find?_append_of_some more h.found, hhost ▸ h.allowed⟩

section Recorded

variable (hhost : r'.capabilities = r.capabilities) (hname : p'.AgreesAt p Parameters.branchName)
  (htarget : p'.AgreesAt p Parameters.branchTarget)
include hhost hname htarget

/-- The type of a new branch is one that the host knows, so that its record is accepted, and the
target is found again in front of it. -/
theorem ResolvedBranch.recorded (h : ResolvedBranch r p g d)
    (hnew : g.find? (branchName p g).text = none) (own : BranchUuid) (isMain : Bool) :
    d.type.isBranchAnalysis = true ∧
      ResolvedBranch r' p' (g.append [⟨branchName p g, d.type, own, isMain⟩]) (d.recorded own) := by
  cases h with
  | recordedMain hfound htype => simp [hnew] at hfound
  | recordedLongLived hfound htype hsupported => simp [hnew] at hfound
  | recordedOther hfound htype hsupported hbase hne => simp [hnew] at hfound
  | @unrecorded type base hfound hclass hbase hne =>
    let record : BranchRecord := ⟨branchName p g, type, own, isMain⟩
    have hsameName : branchName p' (g.append [record]) = branchName p g :=
      branchName_congr hname rfl
    have hsameTarget : branchTarget p' (g.append [record]) = branchTarget p g :=
      branchTarget_congr htarget rfl
    have hrecord : (g.append [record]).find? (branchName p' (g.append [record])).text =
        some record := by
      rw [hsameName]
      exact Registry.find?_append_new hfound
    have hsupported : r'.capabilities.supports type = true :=
      hhost ▸ classify_supported hclass hbase
    have hagain : r'.MergesInto (g.append [record]) (branchTarget p' (g.append [record])) base := by
      rw [hsameTarget]
      exact hbase.append hhost [record]
    have hother (htype : type = .shortLived ∨ type = .branch) :
        ResolvedBranch r' p' (g.append [record])
        (.ofBranch (branchName p g) type (branchTarget p g) base.uuid hne) := by
      have hresolved := ResolvedBranch.recordedOther hrecord htype hsupported hagain hne
      rwa [hsameTarget] at hresolved
    rcases classify_type hclass with ⟨rfl, -⟩ | ⟨rfl | rfl, -⟩
    · exact ⟨rfl, hother (.inr rfl)⟩
    · exact ⟨rfl, .recordedLongLived hrecord rfl hsupported⟩
    · exact ⟨rfl, hother (.inl rfl)⟩

end Recorded

/-- A branch that was new keeps its name and its type once it is on record, under whatever pattern
and even one that does not compile. A short-lived or unified one keeps its whole descriptor; a
long-lived one has no target any more and is compared with its own record. -/
theorem recorded_keeps_type {n : BranchName} (hempty : g.isEmpty = false)
    (hbranch : p.hasAny Parameters.branchKeys = true) (hn : n = branchName p g)
    (hnew : g.find? n.text = none) (h : r.resolve p g = .ok d)
    (hhost : r'.capabilities = r.capabilities) (hsame : ∀ key, key ≠ Parameters.longLivedPattern →
      p'.AgreesAt p key) (own : BranchUuid) (isMain : Bool) :
    d.name = n ∧ d.type.isBranchAnalysis = true ∧
      ∃ d', r'.resolve p' (g.append [⟨n, d.type, own, isMain⟩]) = .ok d' ∧
      d'.name = n ∧ d'.type = d.type ∧
        (d.type = .shortLived ∨ d.type = .branch → d' = d) ∧
        (d.type = .longLived → d'.target = none ∧ d'.reference = some own) := by
  subst hn
  have hbranch' : p'.hasAny Parameters.branchKeys = true := by
    rw [Parameters.AgreesAt.hasAny fun key hkey => hsame key
      (by rintro rfl; revert hkey; decide), hbranch]
  cases resolve_eq_ok.mp h with
  | firstAnalysis hempty' hmain => simp [hempty] at hempty'
  | mainLine hempty' hnone hrequest => simp [hbranch] at hnone
  | pullRequest hempty' hnone hrequest hkey hbase => simp [hbranch] at hnone
  | branch hempty' _ hresolved =>
    obtain ⟨htype, hrecorded⟩ :=
      hresolved.recorded hhost (hsame _ (by decide)) (hsame _ (by decide)) hnew own isMain
    refine ⟨hresolved.name, htype, d.recorded own,
      resolve_eq_ok.mpr (.branch ?_ hbranch' hrecorded), ?_⟩
    · simp [Registry.isEmpty, Registry.append]
    · unfold Descriptor.recorded
      split
      · rename_i hlong
        refine ⟨hresolved.name, hlong.symm, fun hother => ?_, fun _ => ⟨rfl, rfl⟩⟩
        simp [hlong] at hother
      · rename_i hlong
        exact ⟨hresolved.name, rfl, fun _ => rfl, fun h => absurd h hlong⟩

def legacyHost : Resolver := ⟨.ofVersion ⟨7, 9⟩, none⟩

def unreadableHost : Resolver := ⟨.ofVersion ⟨7, 9⟩, some "("⟩

/-- A release line is resolved once more by the host with the other pattern, and a feature branch
with this pattern among its parameters. -/
theorem recordedRelease_keeps_type :
    (Pattern.compile (Pattern.anchored "(")).isOk = false ∧
    (∃ d d', legacyHost.resolve ⟨[("branch.name", "release/1")]⟩ legacyRegistry = .ok d ∧
      d.type = .longLived ∧
      unreadableHost.resolve ⟨[("branch.name", "release/1")]⟩ (legacyRegistry.append
        [⟨⟨"release/1", by decide⟩, .longLived, ⟨"uuid-release", by decide⟩, false⟩]) = .ok d' ∧
      d'.name = ⟨"release/1", by decide⟩ ∧ d'.type = .longLived ∧ d'.target = none ∧
      d'.reference = some ⟨"uuid-release", by decide⟩) ∧
    ∃ d, legacyHost.resolve ⟨[("branch.name", "feature/x")]⟩ legacyRegistry = .ok d ∧
    d.type = .shortLived ∧
      legacyHost.resolve ⟨[("branch.name", "feature/x"), ("branch.longLivedBranches.regex", "(")]⟩
        (legacyRegistry.append
          [⟨⟨"feature/x", by decide⟩, .shortLived, ⟨"uuid-feature", by decide⟩, false⟩]) =
          .ok d := by
  have hrelease : legacyHost.resolve ⟨[("branch.name", "release/1")]⟩ legacyRegistry =
      .ok (.ofBranch ⟨"release/1", by decide⟩ .longLived (some conventionalMain)
        ⟨"uuid-legacy", by decide⟩
        (by decide)) := by
    exact toOption_eq_some.mp (by decide +kernel)
  have hfeature : legacyHost.resolve ⟨[("branch.name", "feature/x")]⟩ legacyRegistry =
      .ok (.ofBranch ⟨"feature/x", by decide⟩ .shortLived (some conventionalMain)
        ⟨"uuid-legacy", by decide⟩
        (by decide)) := by
    exact toOption_eq_some.mp (by decide +kernel)
  have hhost : unreadableHost.capabilities = legacyHost.capabilities := rfl
  have hpattern (key : String) (hkey : key ≠ Parameters.longLivedPattern) :
      Parameters.AgreesAt ⟨[("branch.name", "feature/x"), ("branch.longLivedBranches.regex", "(")]⟩
        ⟨[("branch.name", "feature/x")]⟩ key :=
    Parameters.agreesAt_unread [("branch.name", "feature/x")] [] (.inl hkey.symm)
  refine ⟨by decide +kernel, ?_, ?_⟩
  · obtain ⟨-, -, d', hagain, hname, htype, -, hlong⟩ := recorded_keeps_type rfl (by decide)
      (n := ⟨"release/1", by decide⟩) (by decide) (by decide) hrelease hhost (fun _ _ => rfl)
      ⟨"uuid-release", by decide⟩ false
    exact ⟨_, d', hrelease, rfl, hagain, hname, htype, hlong rfl⟩
  · obtain ⟨-, -, d', hagain, -, -, hsame, -⟩ := recorded_keeps_type rfl (by decide)
      (n := ⟨"feature/x", by decide⟩) (by decide) (by decide) hfeature rfl hpattern
      ⟨"uuid-feature", by decide⟩ false
    exact ⟨_, hfeature, rfl, hsame (.inl rfl) ▸ hagain⟩

end Resolver
end PullDecoration
