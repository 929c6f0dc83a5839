import PullDecoration.Analysis.Gate
import PullDecoration.Analysis.Issue

/-! The outcome of an analysis: its issues, in the order in which they were found, and the gate. -/
namespace PullDecoration

structure Analysis where
  issues : List Issue
  gate : Gate
  deriving DecidableEq

namespace Analysis

def openIssues (a : Analysis) : List Issue := a.issues.filter Issue.isOpen

/-- The open issues, each with its position among all issues. -/
def openPositions (a : Analysis) : List (Issue × Nat) :=
  a.issues.zipIdx.filter fun p => p.1.isOpen

def openCount (a : Analysis) (s : Severity) : Nat := a.openIssues.countP (·.severity = s)

open Json in
def codec : Codec Analysis :=
  .record "struct AnalysisResult" .skip
    (.cons (.required "issues" (.list Issue.codec)) (.cons (.required "summary" Gate.codec) .nil))
    (fun a => (a.issues, a.gate, ())) fun (issues, gate, ()) => .ok { issues, gate }

end Analysis
end PullDecoration
