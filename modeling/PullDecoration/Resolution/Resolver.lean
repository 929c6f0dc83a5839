import PullDecoration.Branch.Descriptor
import PullDecoration.Host
import PullDecoration.Pattern.Basic
import PullDecoration.Resolution.Error
import PullDecoration.Resolution.Parameters

/-! From scan parameters and the registry to the descriptor of a run. Parameters of a branch come before
those of a pull request, and without either the main line is analysed. A branch on record keeps its
recorded type; a new one is classified by what the host knows and by a pattern for long-lived names. -/
namespace PullDecoration

/-- How a host resolves parameters; a pattern set here comes before that of the parameters. -/
structure Resolver where
  capabilities : Capabilities
  pattern : Option String
  deriving DecidableEq

namespace Resolver

def defaultPattern : String := "(branch|release).*"

/-- Whether the parameters ask for the main line of a project that has no records. -/
def addressesMain (name target : Option BranchName) : Bool :=
  name.all (· = conventionalMain) && (target.isNone || target = name)

/-- The record of a branch that others may be merged into. -/
def mergeTarget (r : Resolver) (g : Registry) (target : BranchName) :
    Except ResolutionError BranchRecord :=
  match g.find? target.text with
  | none => .error (.targetNotFound target.text)
  | some record =>
    if r.capabilities.isMergeTarget record.type then .ok record
    else .error (.targetWrongType target.text r.capabilities.mergeTargetNames record.type)

/-- The type of a branch without a record; the pattern has to match the whole name. -/
def classify (r : Resolver) (pattern : Option String) (name : BranchName) :
    Except ResolutionError BranchType :=
  if r.capabilities.unified then .ok .branch
  else
    let pattern := pattern.getD defaultPattern
    match Pattern.compile (Pattern.anchored pattern) with
    | .error e => .error (.invalidPattern pattern (e.message (Pattern.anchored pattern)))
    | .ok regex => .ok (if regex.occursIn name.text.toList then .longLived else .shortLived)

/-- A branch descriptor; types that need a key are refused. -/
def describe (name : BranchName) (type : BranchType) (target : Option BranchName)
    (reference : BranchUuid) : Except ResolutionError Descriptor :=
  (Descriptor.branch name type target (some reference)).mapError fun _ =>
    .invalidBranchType name.text type

def newBranch (r : Resolver) (g : Registry) (pattern : Option String) (name target : BranchName) :
    Except ResolutionError Descriptor := do
  let type ← r.classify pattern name
  let record ← r.mergeTarget g target
  describe name type (some target) record.uuid

/-- A long-lived branch is compared with itself, whatever the target. -/
def recordedBranch (r : Resolver) (g : Registry) (record : BranchRecord) (target : BranchName) :
    Except ResolutionError Descriptor :=
  if !r.capabilities.supports record.type then
    .error (.invalidBranchType record.name.text record.type)
  else match record.type with
    | .main => .ok (.main record.name)
    | .longLived => describe record.name .longLived none record.uuid
    | .shortLived | .branch => do
      let base ← r.mergeTarget g target
      describe record.name record.type (some target) base.uuid
    | .pullRequest => .error (.invalidBranchType record.name.text .pullRequest)

def branch (r : Resolver) (g : Registry) (p : Parameters) : Except ResolutionError Descriptor :=
  let name := (p.identifier? Parameters.branchName).getD g.defaultBranch
  let target := (p.identifier? Parameters.branchTarget).getD g.defaultBranch
  match g.find? name.text with
  | some record => r.recordedBranch g record target
  | none => r.newBranch g (r.pattern.or (p.value? Parameters.longLivedPattern)) name target

/-- Without the name of its source branch a pull request goes by its key. -/
def pullRequest (r : Resolver) (g : Registry) (p : Parameters) : Except ResolutionError Descriptor := do
  let source : Option BranchName := p.identifier? Parameters.pullRequestBranch
  let base := (p.identifier? Parameters.pullRequestBase).getD g.defaultBranch
  let record ← r.mergeTarget g base
  match p.identifier? Parameters.pullRequestKey with
  | none => throw (.missingKey ((source.map (·.text)).getD ""))
  | some key => return .pullRequest (source.getD ⟨key.text, key.text_ne_empty⟩) key base record.uuid

def resolve (r : Resolver) (p : Parameters) (g : Registry) : Except ResolutionError Descriptor :=
  if g.isEmpty then
    let name := p.identifier? Parameters.branchName
    if addressesMain name (p.identifier? Parameters.branchTarget) then
      .ok (.main (name.getD conventionalMain))
    else .error .noBranchesExist
  else if p.hasAny Parameters.branchKeys then r.branch g p
  else if p.hasAny Parameters.pullRequestKeys then r.pullRequest g p
  else .ok (.main g.defaultBranch)

def conventional : Resolver := ⟨.conventional, none⟩

end Resolver
end PullDecoration
