import PullDecoration.Branch.Kind
import PullDecoration.Json.Record

/-! Why scan parameters cannot be resolved. Users see a headline and, where the headline does not name the
cause, a detail. -/
namespace PullDecoration

inductive ResolutionError
  | noBranchesExist
  | targetNotFound (branch : String)
  | targetWrongType (branch expected : String) (actual : BranchType)
  | invalidBranchType (branch : String) (type : BranchType)
  | invalidPattern (pattern reason : String)
  | missingKey (branch : String)
  deriving DecidableEq, Repr

namespace ResolutionError

/-- The whole error in one text. -/
def message : ResolutionError → String
  | .noBranchesExist =>
    "No branches currently exist in this project. Please scan the main branch without passing any " ++
      "branch parameters."
  | .targetNotFound branch =>
    "Could not target requested branch: Target branch '" ++ branch ++ "' does not exist"
  | .targetWrongType _ expected actual =>
    "Could not target requested branch: Expected branch type of " ++ expected ++ " but got " ++ actual.name
  | .invalidBranchType branch type =>
    "Invalid branch type '" ++ type.name ++ "' for branch '" ++ branch ++ "'"
  | .invalidPattern pattern reason =>
    "Invalid long-lived branch pattern '" ++ pattern ++ "': " ++ reason
  | .missingKey branch =>
    "Pull request analysis of branch '" ++ branch ++ "' requires a pull request key"

def targetHeadline : String := "Could not target requested branch"

def headline : ResolutionError → String
  | .targetNotFound _ | .targetWrongType .. => targetHeadline
  | e => e.message

def detail : ResolutionError → Option String
  | .targetNotFound branch => some ("Target branch '" ++ branch ++ "' does not exist")
  | .targetWrongType _ expected actual =>
    some ("Expected branch type of " ++ expected ++ " but got " ++ actual.name)
  | _ => none

open Json

def branchField : RecordField String := .required "branch" .string

def branchFields : Fields (String × Unit) (Option String × Unit) := .cons branchField .nil

def wrongTypeFields : Fields (String × String × BranchType × Unit)
    (Option String × Option String × Option BranchType × Unit) :=
  .cons branchField (.cons (.required "expected" .string)
    (.cons (.required "actual" BranchType.codec) .nil))

def branchTypeFields : Fields (String × BranchType × Unit)
    (Option String × Option BranchType × Unit) :=
  .cons branchField (.cons (.required "branch_type" BranchType.codec) .nil)

def patternFields : Fields (String × String × Unit) (Option String × Option String × Unit) :=
  .cons (.required "pattern" .string) (.cons (.required "reason" .string) .nil)

def variants : List (Variant ResolutionError) :=
  [.unit "NoBranchesExist" .noBranchesExist,
    .record "TargetNotFound" "struct variant ResolutionError::TargetNotFound" branchFields
      fun (branch, ()) => .targetNotFound branch,
    .record "TargetWrongType" "struct variant ResolutionError::TargetWrongType" wrongTypeFields
      fun (branch, expected, actual, ()) => .targetWrongType branch expected actual,
    .record "InvalidBranchType" "struct variant ResolutionError::InvalidBranchType" branchTypeFields
      fun (branch, type, ()) => .invalidBranchType branch type,
    .record "InvalidLongLivedPattern" "struct variant ResolutionError::InvalidLongLivedPattern"
      patternFields fun (pattern, reason, ()) => .invalidPattern pattern reason,
    .record "MissingPullRequestKey" "struct variant ResolutionError::MissingPullRequestKey"
      branchFields fun (branch, ()) => .missingKey branch]

/-- The name of the kind of error. -/
def kind : ResolutionError → String
  | .noBranchesExist => "NoBranchesExist"
  | .targetNotFound _ => "TargetNotFound"
  | .targetWrongType .. => "TargetWrongType"
  | .invalidBranchType .. => "InvalidBranchType"
  | .invalidPattern .. => "InvalidLongLivedPattern"
  | .missingKey _ => "MissingPullRequestKey"

def payload : ResolutionError → List (String × Value)
  | .noBranchesExist => []
  | .targetNotFound branch | .missingKey branch => branchFields.write (branch, ())
  | .targetWrongType branch expected actual => wrongTypeFields.write (branch, expected, actual, ())
  | .invalidBranchType branch type => branchTypeFields.write (branch, type, ())
  | .invalidPattern pattern reason => patternFields.write (pattern, reason, ())

def codec : Codec ResolutionError where
  write e := match e with
    | .noBranchesExist => .string e.kind
    | e => .object [(e.kind, .object e.payload)]
  read := readVariant variants

end ResolutionError
end PullDecoration
