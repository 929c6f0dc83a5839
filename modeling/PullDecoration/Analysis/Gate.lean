import PullDecoration.Json.Record

/-! The verdict of the quality gate, with the conditions that it rests on. -/
namespace PullDecoration

inductive GateStatus
  | passed | failed
  deriving DecidableEq, Repr

namespace GateStatus

def name : GateStatus → String
  | .passed => "PASSED"
  | .failed => "FAILED"

def codec : Json.Codec GateStatus := .ofNames [("PASSED", .passed), ("FAILED", .failed)] name

end GateStatus

/-- What was measured for a metric, and the value that it was held against. -/
structure GateCondition where
  metric : String
  actual : String
  threshold : String
  passed : Bool
  deriving DecidableEq, Repr

structure Gate where
  status : GateStatus
  conditions : List GateCondition
  dashboard : Option String
  deriving DecidableEq, Repr

open Json in
def GateCondition.codec : Codec GateCondition :=
  .record "struct QualityGateCondition" .skip
    (.cons (.required "metric" .string) (.cons (.required "actual" .string)
      (.cons (.required "threshold" .string) (.cons (.required "passed" .bool) .nil))))
    (fun c => (c.metric, c.actual, c.threshold, c.passed, ()))
    fun (metric, actual, threshold, passed, ()) => .ok { metric, actual, threshold, passed }

namespace Gate

def failedConditions (g : Gate) : List GateCondition := g.conditions.filter (!·.passed)

open Json in
def codec : Codec Gate :=
  .record "struct QualityGateSummary" .skip
    (.cons (.required "status" GateStatus.codec)
      (.cons (.defaulted "conditions" (.list GateCondition.codec) [])
        (.cons (.optional "dashboard_url" .string) .nil)))
    (fun g => (g.status, g.conditions, g.dashboard, ()))
    fun (status, conditions, dashboard, ()) => .ok { status, conditions, dashboard }

end Gate
end PullDecoration
