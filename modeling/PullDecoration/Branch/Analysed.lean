import PullDecoration.Branch.Descriptor

/-! The branch that a processed report belongs to. A report carries the names of a descriptor; where it is
processed they are looked up once more, in the registry as it is then. -/
namespace PullDecoration

/-- What a report says about its branch; one of the main line says nothing. -/
structure ReportMetadata where
  name : Option BranchName
  type : Option BranchType
  target : Option BranchName
  merge : Option BranchName
  key : Option PullRequestKey
  deriving DecidableEq

structure AnalysedBranch where
  name : BranchName
  type : BranchType
  isMain : Bool
  reference : Option BranchUuid
  key : Option PullRequestKey
  target : Option BranchName
  deriving DecidableEq

inductive LoadError
  | mainBranchNotFound
  | targetBranchMissing (branch : String)
  | invalidBranchType (found : String)
  deriving DecidableEq, Repr

namespace LoadError

def kind : LoadError → String
  | .mainBranchNotFound => "MainBranchNotFound"
  | .targetBranchMissing _ => "TargetBranchMissing"
  | .invalidBranchType _ => "InvalidBranchType"

def message : LoadError → String
  | .mainBranchNotFound => "Could not find main branch"
  | .targetBranchMissing branch => "Could not find target branch '" ++ branch ++ "' in project"
  | .invalidBranchType found => "Invalid branch type '" ++ found ++ "'"

end LoadError

namespace ReportMetadata

def ofDescriptor (d : Descriptor) : ReportMetadata :=
  if d.type = .main then ⟨none, none, none, none, none⟩
  else ⟨some d.name, some d.type, d.target, d.target, d.key⟩

open Json in
def codec : Codec ReportMetadata :=
  .record "struct ReportMetadata" .skip
    (.cons (.nullable "branch_name" Identifier.codec) (.cons (.nullable "branch_type" BranchType.codec)
      (.cons (.nullable "target_branch_name" Identifier.codec)
        (.cons (.nullable "merge_branch_name" Identifier.codec)
          (.cons (.nullable "pull_request_key" Identifier.codec) .nil)))))
    (fun m => (m.name, m.type, m.target, m.merge, m.key, ()))
    fun (name, type, target, merge, key, ()) => .ok { name, type, target, merge, key }

end ReportMetadata

namespace AnalysedBranch

/-- The main branch goes by the uuid of the project. -/
def loadMain (m : ReportMetadata) (project : BranchUuid) (g : Registry) :
    Except LoadError AnalysedBranch :=
  match g.findByUuid? project with
  | none => .error .mainBranchNotFound
  | some r => .ok ⟨r.name, r.type, r.isMain, none, none, m.target⟩

/-- The uuid of a branch on record. -/
def referenceOf (g : Registry) (branch : BranchName) : Except LoadError BranchUuid :=
  match g.find? branch.text with
  | none => .error (.targetBranchMissing branch.text)
  | some r => .ok r.uuid

def load (m : ReportMetadata) (project : BranchUuid) (g : Registry) :
    Except LoadError AnalysedBranch :=
  match m.name with
  | none => loadMain m project g
  | some name =>
    match m.type with
    | some .pullRequest => do
      let reference ← referenceOf g (m.merge.getD g.defaultBranch)
      return ⟨name, .pullRequest, false, some reference, m.key, m.target.or m.merge⟩
    | none => .error (.invalidBranchType "UNSET")
    | some type =>
      if type.isBranchAnalysis then do
        let reference ← match m.merge with
          | none => pure project
          | some merge => referenceOf g merge
        let isMain := (g.find? name.text).any (·.isMain)
        return ⟨name, type, isMain, some reference, none, m.target.or m.merge⟩
      else .error (.invalidBranchType type.name)

/-- Loads the branch of a descriptor, by way of what its report says. -/
def ofDescriptor (d : Descriptor) (project : BranchUuid) (g : Registry) :
    Except LoadError AnalysedBranch :=
  load (.ofDescriptor d) project g

open Json in
def codec : Codec AnalysedBranch :=
  .record "struct AnalysedBranch" .skip
    (.cons (.required "name" Identifier.codec) (.cons (.required "branch_type" BranchType.codec)
      (.cons (.required "is_main" .bool) (.cons (.nullable "reference_uuid" Identifier.codec)
        (.cons (.nullable "pull_request_key" Identifier.codec)
          (.cons (.nullable "target_branch_name" Identifier.codec) .nil))))))
    (fun b => (b.name, b.type, b.isMain, b.reference, b.key, b.target, ()))
    fun (name, type, isMain, reference, key, target, ()) =>
      .ok { name, type, isMain, reference, key, target }

end AnalysedBranch
end PullDecoration
