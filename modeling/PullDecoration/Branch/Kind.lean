import PullDecoration.Json.Codec

/-! The types of analysed branches. Hosts tell long-lived from short-lived branches, or put both under the
one type `branch`. -/
namespace PullDecoration

inductive BranchType
  | main | longLived | shortLived | branch | pullRequest
  deriving DecidableEq, Repr

namespace BranchType

def name : BranchType → String
  | .main => "MAIN"
  | .longLived => "LONG_LIVED"
  | .shortLived => "SHORT_LIVED"
  | .branch => "BRANCH"
  | .pullRequest => "PULL_REQUEST"

/-- The types that the analysis of a branch can have, as opposed to the main line or a pull request. -/
def isBranchAnalysis : BranchType → Bool
  | .longLived | .shortLived | .branch => true
  | .main | .pullRequest => false

/-- The names that are read, two short ones among them. -/
def names : List (String × BranchType) :=
  [("MAIN", .main), ("LONG", .longLived), ("LONG_LIVED", .longLived), ("SHORT", .shortLived),
    ("SHORT_LIVED", .shortLived), ("BRANCH", .branch), ("PULL_REQUEST", .pullRequest)]

def codec : Json.Codec BranchType := .ofNames names name

def all : List BranchType := [.main, .longLived, .shortLived, .branch, .pullRequest]

end BranchType
end PullDecoration
