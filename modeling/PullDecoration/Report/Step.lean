import PullDecoration.Provider.Error
import PullDecoration.Identifier

/-! The steps of a decoration pass and what became of each. -/
namespace PullDecoration

/-- A unit of work: removing old comments, posting the summary, or posting the comment on the issue at a
position of the analysis. -/
inductive Step
  | clear (deleted failed : List CommentId)
  | summary
  | issue (index : Nat) (path : Option SourcePath) (line : Option UInt32)
  deriving DecidableEq

/-- A step with the errors of its calls. -/
structure StepOutcome where
  step : Step
  errors : List ProviderError
  deriving DecidableEq

namespace Step

open Json

def clearFields : Fields (List CommentId × List CommentId × Unit)
    (Option (List CommentId) × Option (List CommentId) × Unit) :=
  .cons (.required "deleted" (.list Identifier.codec))
    (.cons (.optionalList "failed" Identifier.codec) .nil)

def issueFields : Fields (Nat × Option SourcePath × Option UInt32 × Unit)
    (Option Nat × Option (Option SourcePath) × Option (Option UInt32) × Unit) :=
  .cons (.required "issue_index" (.natural UInt64.size "usize"))
    (.cons (.optional "path" Identifier.codec) (.cons (.optional "line" .u32) .nil))

def alternatives : List (Alternative Step) :=
  [.record "clear_stale_comments" "struct variant DecorationStep::ClearStaleComments" clearFields
      fun (deleted, failed, ()) => .clear deleted failed,
    .unit "post_summary" .summary,
    .record "post_issue" "struct variant DecorationStep::PostIssue" issueFields
      fun (index, path, line, ()) => .issue index path line]

def members : Step → List (String × Value)
  | .clear deleted failed =>
    ("step", .string "clear_stale_comments") :: clearFields.write (deleted, failed, ())
  | .summary => [("step", .string "post_summary")]
  | .issue index path line =>
    ("step", .string "post_issue") :: issueFields.write (index, path, line, ())

def codec : Codec Step :=
  ⟨fun s => .object s.members, readTagged "step" "DecorationStep" alternatives⟩

end Step

namespace StepOutcome

def succeeded (o : StepOutcome) : Bool := o.errors.isEmpty

open Json

def errorField : Fields (List ProviderError × Unit) (Option (List ProviderError) × Unit) :=
  .cons (.optionalList "errors" ProviderError.codec) .nil

/-- The members of the step stand beside the errors. -/
def codec : Codec StepOutcome where
  write o := .object (o.step.members ++ errorField.write (o.errors, ()))
  read d := do
    let ((errors, ()), step) ← readWithTagged "struct StepOutcome" errorField "step" Step.alternatives d
    return { step, errors }

end StepOutcome
end PullDecoration
