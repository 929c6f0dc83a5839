import PullDecoration.Analysis.Result

/-! What the comments on a pull request say: one summary of the analysis, and a text for each issue. -/
namespace PullDecoration

def GateStatus.verdict : GateStatus → String
  | .passed => "**Quality Gate passed**"
  | .failed => "**Quality Gate failed**"

def GateCondition.line (c : GateCondition) : String :=
  "- `" ++ c.metric ++ "`: " ++ c.actual ++ " (threshold " ++ c.threshold ++ ")"

namespace Analysis

def failedConditionLines (a : Analysis) : List String :=
  match a.gate.failedConditions with
  | [] => []
  | conditions => ["### Failed conditions", ""] ++ conditions.map GateCondition.line ++ [""]

def totalLine (total : Nat) : String :=
  "### " ++ String.ofList (Text.decimal total) ++ " open issue" ++ if total = 1 then "" else "s"

def countLine (s : Severity) (count : Nat) : String :=
  "| " ++ s.name ++ " | " ++ String.ofList (Text.decimal count) ++ " |"

/-- A row for each severity of which there are open issues. -/
def countLines (a : Analysis) : List String :=
  if a.openIssues.isEmpty then []
  else ["| Severity | Count |", "|---|---:|"] ++
    (Severity.all.filter fun s => 0 < a.openCount s).map (fun s => countLine s (a.openCount s)) ++
    [""]

def summaryLines (a : Analysis) : List String :=
  ["## Analysis Details", "", a.gate.status.verdict, ""] ++ a.failedConditionLines ++
    [totalLine a.openIssues.length, ""] ++ a.countLines ++
    a.gate.dashboard.toList.map fun url => "[View the full report](" ++ url ++ ")"

/-- The summary ends without blank characters. -/
def summary (a : Analysis) : String :=
  String.ofList (Text.trimEndChars (a.summaryLines.flatMap fun line => line.toList ++ ['\n']))

end Analysis

def Issue.text (i : Issue) : String :=
  let finding := "**" ++ i.severity.name ++ "**: " ++ Text.trim i.message
  match i.rule with
  | none => finding
  | some rule => finding ++ "\n\nRule: `" ++ rule.text ++ "`"

end PullDecoration
