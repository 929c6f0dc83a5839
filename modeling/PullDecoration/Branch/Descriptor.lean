import PullDecoration.Branch.Registry

/-! What a run analyses: the main line, a branch or a pull request. A descriptor has a pull request key
exactly if its type is that of a pull request. -/
namespace PullDecoration

structure Descriptor where
  name : BranchName
  type : BranchType
  target : Option BranchName
  reference : Option BranchUuid
  key : Option PullRequestKey
  key_iff : key.isSome ↔ type = .pullRequest
  deriving DecidableEq

inductive DescriptorError
  | notAPullRequest
  | missingKey
  | unexpectedKey (type : BranchType)
  deriving DecidableEq, Repr

def DescriptorError.message : DescriptorError → String
  | .notAPullRequest => "Only a branch of type PULL_REQUEST can have a Pull Request key"
  | .missingKey => "A branch of type PULL_REQUEST requires a Pull Request key"
  | .unexpectedKey type => "A branch of type " ++ type.name ++ " cannot carry a Pull Request key"

namespace Descriptor

def main (name : BranchName) : Descriptor :=
  ⟨name, .main, none, none, none, by simp⟩

def pullRequest (name : BranchName) (key : PullRequestKey) (target : BranchName)
    (reference : BranchUuid) : Descriptor :=
  ⟨name, .pullRequest, some target, some reference, some key, by simp⟩

def ofParts (name : BranchName) (type : BranchType) (target : Option BranchName)
    (reference : Option BranchUuid) (key : Option PullRequestKey) :
    Except DescriptorError Descriptor :=
  if h : key.isSome ↔ type = .pullRequest then .ok ⟨name, type, target, reference, key, h⟩
  else if type = .pullRequest then .error .missingKey
  else .error (.unexpectedKey type)

def branch (name : BranchName) (type : BranchType) (target : Option BranchName)
    (reference : Option BranchUuid) : Except DescriptorError Descriptor :=
  ofParts name type target reference none

def isPullRequest (d : Descriptor) : Bool := d.type = .pullRequest

def pullRequestKey (d : Descriptor) : Except DescriptorError PullRequestKey :=
  match d.key with
  | some key => .ok key
  | none => .error .notAPullRequest

open Json in
def codec : Codec Descriptor :=
  .record "struct DescriptorFields" .skip
    (.cons (.required "name" Identifier.codec) (.cons (.required "type" BranchType.codec)
      (.cons (.optional "target_name" Identifier.codec)
        (.cons (.optional "reference_id" Identifier.codec)
          (.cons (.optional "pull_request_key" Identifier.codec) .nil)))))
    (fun d => (d.name, d.type, d.target, d.reference, d.key, ()))
    fun (name, type, target, reference, key, ()) =>
      (ofParts name type target reference key).mapError fun e => .refused e.message

@[simp] theorem ofParts_self (d : Descriptor) :
    ofParts d.name d.type d.target d.reference d.key = .ok d := by
  simp [ofParts, d.key_iff]

end Descriptor
end PullDecoration
