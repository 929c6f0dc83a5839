import PullDecoration.Proofs.Branch.Lookup
import PullDecoration.Proofs.Resolution.Outcome

/-! What a host that knows more types of branches changes in a resolution that already ends well:
nothing but the type of a branch that is new. A host learns types with every version before 9.0, and
so no upgrade among these turns a resolution into a failure or gives it another branch to compare
with. -/
namespace PullDecoration

/-- A version is at least every version that one of its predecessors is at least. -/
theorem HostVersion.atLeast_mono {v w : HostVersion} {major minor : UInt32}
    (hupgrade : w.atLeast v.major v.minor = true) (h : v.atLeast major minor = true) :
    w.atLeast major minor = true := by
  simp only [atLeast, Bool.or_eq_true, Bool.and_eq_true, decide_eq_true_eq, UInt32.lt_iff_toNat_lt,
    UInt32.le_iff_toNat_le, ← UInt32.toNat_inj] at *
  omega

namespace Capabilities

variable {c c' : Capabilities} {t : BranchType}

structure Within (c c' : Capabilities) : Prop where
  unified : c.unified = true → c'.unified = true
  legacy : c.legacy = true → c'.legacy = true

theorem Within.supports (hwithin : c.Within c') (h : c.supports t = true) :
    c'.supports t = true := by
  cases t with
  | main => rfl
  | longLived => exact hwithin.legacy h
  | shortLived => exact hwithin.legacy h
  | branch => exact hwithin.unified h
  | pullRequest => rfl

theorem Within.isMergeTarget (hwithin : c.Within c') (h : c.isMergeTarget t = true) :
    c'.isMergeTarget t = true := by
  rcases isMergeTarget_iff.mp h with ⟨rfl, hlegacy⟩ | ⟨rfl, hunified⟩
  · exact hwithin.legacy hlegacy
  · exact hwithin.unified hunified

/-- Hosts before 9.0 all know the legacy types, so that a later one of them can only know more. -/
theorem within_ofVersion {v w : HostVersion} (hupgrade : w.atLeast v.major v.minor = true)
    (hbefore : w.atLeast 9 0 = false) : (ofVersion v).Within (ofVersion w) where
  unified := HostVersion.atLeast_mono hupgrade
  legacy := fun _ => by simp [ofVersion, hbefore]

end Capabilities

namespace Resolver

variable {c c' : Capabilities} {pattern : Option String} {p : Parameters} {g : Registry}
  {d : Descriptor}

/-- The type of a described branch on a host that knows `c'` instead of `c`. It is another one for a
branch without a record alone, and only if the unified type is what the host has learned. -/
def typeAfter (c c' : Capabilities) (g : Registry) (d : Descriptor) : BranchType :=
  if d.type.isBranchAnalysis ∧ g.find? d.name.text = none ∧ c'.unified ∧ ¬c.unified then .branch
  else d.type

/-- What two hosts say of the same parameters and records, but for the type that only one of them
knows. -/
structure Carried (c c' : Capabilities) (g : Registry) (d d' : Descriptor) : Prop where
  name : d'.name = d.name
  target : d'.target = d.target
  reference : d'.reference = d.reference
  key : d'.key = d.key
  type : d'.type = typeAfter c c' g d

theorem Carried.of_fixed (h : d.type.isBranchAnalysis = false) : Carried c c' g d d where
  name := rfl
  target := rfl
  reference := rfl
  key := rfl
  type := by simp [typeAfter, h]

theorem Carried.of_recorded {record : BranchRecord} (hfound : g.find? d.name.text = some record) :
    Carried c c' g d d where
  name := rfl
  target := rfl
  reference := rfl
  key := rfl
  type := by simp [typeAfter, hfound]

theorem MergesInto.within (hwithin : c.Within c') {target : BranchName} {base : BranchRecord}
    (h : MergesInto ⟨c, pattern⟩ g target base) : MergesInto ⟨c', pattern⟩ g target base :=
  ⟨h.found, hwithin.isMergeTarget h.allowed⟩

/-- Without the unified type on either side both hosts apply the same pattern; with it the pattern
is not even compiled. -/
theorem classify_within (hwithin : c.Within c') {chosen : Option String} {name : BranchName}
    {type : BranchType} (h : classify ⟨c, pattern⟩ chosen name = .ok type) :
    classify ⟨c', pattern⟩ chosen name =
      .ok (if c'.unified = true ∧ ¬c.unified = true then .branch else type) := by
  cases hnew : c'.unified with
  | true =>
    have hclass : classify ⟨c', pattern⟩ chosen name = .ok .branch := by simp [classify, hnew]
    rcases classify_type h with ⟨rfl, hold⟩ | ⟨-, hold⟩
    · simp [hclass]
    · simp only at hold
      simp [hclass, hold]
  | false =>
    have hold : c.unified = false := by
      cases hold : c.unified with
      | true => exact absurd (hwithin.unified hold) (by simp [hnew])
      | false => rfl
    have hsame : classify ⟨c', pattern⟩ chosen name = classify ⟨c, pattern⟩ chosen name := by
      simp [classify, hnew, hold]
    simp [hsame, h]

theorem ResolvedBranch.within (hwithin : c.Within c') (h : ResolvedBranch ⟨c, pattern⟩ p g d) :
    ∃ d', ResolvedBranch ⟨c', pattern⟩ p g d' ∧ Carried c c' g d d' := by
  cases h with
  | recordedMain hfound htype => exact ⟨_, .recordedMain hfound htype, .of_fixed rfl⟩
  | recordedLongLived hfound htype hsupported =>
    exact ⟨_, .recordedLongLived hfound htype (hwithin.supports hsupported),
      .of_recorded (Registry.find?_own hfound)⟩
  | recordedOther hfound htype hsupported hbase hne =>
    exact ⟨_, .recordedOther hfound htype (hwithin.supports hsupported) (hbase.within hwithin) hne,
      .of_recorded (Registry.find?_own hfound)⟩
  | @unrecorded type base hfound hclass hbase hne =>
    have hbranch : type.isBranchAnalysis = true := by
      rcases classify_type hclass with ⟨rfl, -⟩ | ⟨rfl | rfl, -⟩ <;> rfl
    have hnew : (if c'.unified = true ∧ ¬c.unified = true then .branch else type) ≠
        BranchType.pullRequest := by
      split
      · decide
      · exact hne
    refine ⟨_, .unrecorded hfound (classify_within hwithin hclass) (hbase.within hwithin) hnew, ?_⟩
    exact { name := rfl, target := rfl, reference := rfl, key := rfl
            type := by simp [typeAfter, Descriptor.ofBranch, hbranch, hfound] }

theorem Resolved.within (hwithin : c.Within c') (h : Resolved ⟨c, pattern⟩ p g d) :
    ∃ d', Resolved ⟨c', pattern⟩ p g d' ∧ Carried c c' g d d' := by
  cases h with
  | firstAnalysis hempty hmain => exact ⟨_, .firstAnalysis hempty hmain, .of_fixed rfl⟩
  | mainLine hempty hbranch hrequest => exact ⟨_, .mainLine hempty hbranch hrequest, .of_fixed rfl⟩
  | branch hempty hbranch hresolved =>
    obtain ⟨d', hresolved', hcarried⟩ := hresolved.within hwithin
    exact ⟨d', .branch hempty hbranch hresolved', hcarried⟩
  | pullRequest hempty hbranch hrequest hkey hbase =>
    exact ⟨_, .pullRequest hempty hbranch hrequest hkey (hbase.within hwithin), .of_fixed rfl⟩

theorem resolve_within (hwithin : c.Within c') (h : resolve ⟨c, pattern⟩ p g = .ok d) :
    ∃ d', resolve ⟨c', pattern⟩ p g = .ok d' ∧ Carried c c' g d d' := by
  obtain ⟨d', hresolved, hcarried⟩ := (resolve_eq_ok.mp h).within hwithin
  exact ⟨d', resolve_eq_ok.mpr hresolved, hcarried⟩

/-- A host that knows more types resolves whatever it resolved before, and compares it with the same
branch; so does a host after any upgrade to a version before 9.0. -/
theorem resolve_upgraded :
    (∀ (c c' : Capabilities) (pattern : Option String) (p : Parameters)
      (g : Registry) (d : Descriptor), c.Within c' → resolve ⟨c, pattern⟩ p g = .ok d →
        ∃ d', resolve ⟨c', pattern⟩ p g = .ok d' ∧ Carried c c' g d d') ∧
    ∀ (v w : HostVersion) (pattern : Option String) (p : Parameters)
    (g : Registry) (d : Descriptor),
      w.atLeast v.major v.minor = true → w.atLeast 9 0 = false →
        resolve ⟨.ofVersion v, pattern⟩ p g = .ok d →
          ∃ d', resolve ⟨.ofVersion w, pattern⟩ p g = .ok d' ∧
            Carried (.ofVersion v) (.ofVersion w) g d d' := by
  constructor
  · intro c c' pattern p g d hwithin h
    exact resolve_within hwithin h
  · intro v w pattern p g d hupgrade hbefore h
    exact resolve_within (Capabilities.within_ofVersion hupgrade hbefore) h

def legacyRegistry : Registry :=
  ⟨conventionalMain, [⟨conventionalMain, .longLived, ⟨"uuid-legacy", by decide⟩, true⟩]⟩

/-- The new branch is long-lived by its name on a host of version 7.9, and unified on one of 8.4. -/
theorem resolve_upgraded_newBranch :
    ∃ d d', resolve ⟨.ofVersion ⟨7, 9⟩, none⟩
      ⟨[("branch.name", "release")]⟩ legacyRegistry = .ok d ∧
      d.type = .longLived ∧
      resolve ⟨.ofVersion ⟨8, 4⟩, none⟩ ⟨[("branch.name", "release")]⟩ legacyRegistry = .ok d' ∧
      Carried (.ofVersion ⟨7, 9⟩) (.ofVersion ⟨8, 4⟩) legacyRegistry d d' ∧ d'.type = .branch := by
  have hold : resolve ⟨.ofVersion ⟨7, 9⟩, none⟩ ⟨[("branch.name", "release")]⟩ legacyRegistry =
      .ok (.ofBranch ⟨"release", by decide⟩ .longLived (some conventionalMain)
        ⟨"uuid-legacy", by decide⟩ (by decide)) := by
    exact toOption_eq_some.mp (by decide +kernel)
  obtain ⟨d', hnew, hcarried⟩ :=
    resolve_upgraded.2 ⟨7, 9⟩ ⟨8, 4⟩ none _ _ _ (by decide) (by decide) hold
  exact ⟨_, d', hold, rfl, hnew, hcarried, hcarried.type⟩

end Resolver
end PullDecoration
