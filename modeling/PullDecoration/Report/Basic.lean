import PullDecoration.Branch.Descriptor
import PullDecoration.Report.RunId
import PullDecoration.Report.Step
import PullDecoration.Report.Timestamp

/-! Reports of decoration passes. A pass that ran has a step for each unit of work; one for anything but
a pull request is skipped. -/
namespace PullDecoration

inductive ReportStatus
  | completed
  | completedWithFailures
  | skipped (reason : String)
  deriving DecidableEq, Repr

structure Report where
  runId : RunId
  pullRequest : Option PullRequestKey
  started : Timestamp
  finished : Timestamp
  status : ReportStatus
  steps : List StepOutcome
  deriving DecidableEq

namespace ReportStatus

open Json

def reasonField : Fields (String × Unit) (Option String × Unit) :=
  .cons (.required "reason" .string) .nil

def alternatives : List (Alternative ReportStatus) :=
  [.unit "completed" .completed, .unit "completed_with_failures" .completedWithFailures,
    .record "skipped" "struct variant DecorationStatus::Skipped" reasonField
      fun (reason, ()) => .skipped reason]

def members : ReportStatus → List (String × Value)
  | .completed => [("status", .string "completed")]
  | .completedWithFailures => [("status", .string "completed_with_failures")]
  | .skipped reason => [("status", .string "skipped"), ("reason", .string reason)]

def codec : Codec ReportStatus :=
  ⟨fun s => .object s.members, readTagged "status" "DecorationStatus" alternatives⟩

/-- The verdict over steps that were all done. -/
def ofSteps (steps : List StepOutcome) : ReportStatus :=
  if steps.all StepOutcome.succeeded then .completed else .completedWithFailures

/-- Why there is nothing to decorate. -/
def ofOther (d : Descriptor) : ReportStatus :=
  .skipped ("branch '" ++ d.name.text ++ "' is of type " ++ d.type.name ++ ", not a pull request")

end ReportStatus

namespace Report

/-- The positions of the steps that have errors. -/
def failures (r : Report) : List Nat :=
  (r.steps.zipIdx.filter fun p => !p.1.succeeded).map (·.2)

def isSkipped (r : Report) : Bool :=
  match r.status with
  | .skipped _ => true
  | .completed | .completedWithFailures => false

open Json

def headFields : Fields (RunId × Option PullRequestKey × Timestamp × Timestamp × Unit)
    (Option RunId × Option (Option PullRequestKey) × Option Timestamp × Option Timestamp × Unit) :=
  .cons (.required "run_id" RunId.codec) (.cons (.nullable "pull_request" Identifier.codec)
    (.cons (.required "started_at" Timestamp.codec)
      (.cons (.required "finished_at" Timestamp.codec) .nil)))

def stepField : RecordField (List StepOutcome) := .required "steps" (.list StepOutcome.codec)

def fields : Fields (RunId × Option PullRequestKey × Timestamp × Timestamp × List StepOutcome × Unit)
    (Option RunId × Option (Option PullRequestKey) × Option Timestamp × Option Timestamp ×
      Option (List StepOutcome) × Unit) :=
  .cons (.required "run_id" RunId.codec) (.cons (.nullable "pull_request" Identifier.codec)
    (.cons (.required "started_at" Timestamp.codec)
      (.cons (.required "finished_at" Timestamp.codec) (.cons stepField .nil))))

/-- The members of the status stand before the steps. -/
def members (r : Report) : List (String × Value) :=
  headFields.write (r.runId, r.pullRequest, r.started, r.finished, ()) ++ r.status.members ++
    [(stepField.name, stepField.codec.write r.steps)]

def codec : Codec Report where
  write r := .object r.members
  read d := do
    let ((runId, pullRequest, started, finished, steps, ()), status) ←
      readWithTagged "struct DecorationReport" fields "status" ReportStatus.alternatives d
    return { runId, pullRequest, started, finished, status, steps }

end Report
end PullDecoration
