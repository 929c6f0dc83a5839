import PullDecoration.Branch.Kind
import PullDecoration.Json.Record
import PullDecoration.Text.Blank
import PullDecoration.Text.Slice

/-! The analysis host: its version, and which types of branches a host of that version knows. From 8.1 on
hosts know the one type `branch`; up to and without 9.0 they know long-lived and short-lived branches. -/
namespace PullDecoration

structure HostVersion where
  major : UInt32
  minor : UInt32
  deriving DecidableEq, Repr

namespace HostVersion

instance : Ord HostVersion :=
  ⟨fun v w => (compare v.major w.major).then (compare v.minor w.minor)⟩

def atLeast (v : HostVersion) (major minor : UInt32) : Bool :=
  major < v.major || (major = v.major && minor ≤ v.minor)

def text (v : HostVersion) : String :=
  String.ofList (Text.decimal v.major.toNat ++ '.' :: Text.decimal v.minor.toNat)

def component? (cs : List Char) : Option UInt32 := (Text.boundedNumeral? UInt32.size cs).map .ofNat

/-- Reads a major and, behind a point, a minor number; what follows a second point is ignored. -/
def ofString? (s : String) : Option HostVersion :=
  match Text.parts '.' (Text.trimChars s.toList) with
  | [] => none
  | [major] => (component? major).map fun m => ⟨m, 0⟩
  | major :: minor :: _ => do return ⟨← component? major, ← component? minor⟩

/-- What is said of a text that is no version. -/
def refusal (s : String) : String := "invalid host version '" ++ s ++ "'"

open Json in
def codec : Codec HostVersion :=
  .record "struct HostVersion" .skip
    (.cons (.required "major" .u32) (.cons (.required "minor" .u32) .nil))
    (fun v => (v.major, v.minor, ())) fun (major, minor, ()) => .ok { major, minor }

end HostVersion

/-- The types of branches that a host knows besides the main line and pull requests. -/
structure Capabilities where
  unified : Bool
  legacy : Bool
  deriving DecidableEq, Repr

namespace Capabilities

def ofVersion (v : HostVersion) : Capabilities := ⟨v.atLeast 8 1, !v.atLeast 9 0⟩

def legacyOnly : Capabilities := ⟨false, true⟩

def unifiedOnly : Capabilities := ⟨true, false⟩

/-- Those of the first host that knows both schemes. -/
def conventional : Capabilities := ofVersion ⟨8, 1⟩

def supports (c : Capabilities) : BranchType → Bool
  | .main | .pullRequest => true
  | .longLived | .shortLived => c.legacy
  | .branch => c.unified

/-- Whether branches and pull requests may go into a branch recorded with this type. -/
def isMergeTarget (c : Capabilities) : BranchType → Bool
  | .longLived => c.legacy
  | .branch => c.unified
  | .main | .shortLived | .pullRequest => false

def mergeTargets (c : Capabilities) : List BranchType :=
  [.longLived, .branch].filter c.isMergeTarget

/-- The merge targets as alternatives of a sentence. -/
def mergeTargetNames (c : Capabilities) : String :=
  " or ".intercalate (c.mergeTargets.map BranchType.name)

open Json in
def codec : Codec Capabilities :=
  .record "struct HostCapabilities" .skip
    (.cons (.required "unified_branch_type" .bool) (.cons (.required "legacy_branch_types" .bool) .nil))
    (fun c => (c.unified, c.legacy, ())) fun (unified, legacy, ()) => .ok { unified, legacy }

theorem isMergeTarget_iff {c : Capabilities} {t : BranchType} :
    c.isMergeTarget t = true ↔
      t = .longLived ∧ c.legacy = true ∨ t = .branch ∧ c.unified = true := by
  cases t <;> simp [isMergeTarget]

end Capabilities
end PullDecoration
