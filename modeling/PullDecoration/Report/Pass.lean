import PullDecoration.Analysis.Wording
import PullDecoration.Provider.Marker
import PullDecoration.Provider.Sweep
import PullDecoration.Report.Basic
import PullDecoration.Settings.Toggles

/-! Decorating a pull request: old comments are cleared, the summary is posted, and then a comment on each
open issue. A failure is written into the report and the pass goes on. -/
namespace PullDecoration
namespace Decoration

def errorsOf {α : Type} : Except ProviderError α → List ProviderError
  | .ok _ => []
  | .error e => [e]

/-- The outcome of a sweep as a step; one without a listing has that error only. -/
def sweepOutcome : Except ProviderError Sweep → StepOutcome
  | .ok s => ⟨.clear s.deleted (s.failed.map (·.id)), s.failed.map (·.error)⟩
  | .error e => ⟨.clear [] [], [e]⟩

def clearStep : Pass StepOutcome := Sweep.pass.bind fun r => .done (sweepOutcome r)

def summaryStep (a : Analysis) : Pass StepOutcome :=
  .ask (.create (Marker.put a.summary) none none) fun reply => .done ⟨.summary, errorsOf reply⟩

def issueStep (i : Issue) (index : Nat) : Pass StepOutcome :=
  .ask (.create (Marker.put i.text) i.sourcePath i.anchoredLine) fun reply =>
    .done ⟨.issue index i.sourcePath i.anchoredLine, errorsOf reply⟩

/-- The steps that the toggles leave, each of them still to be done. -/
def plan (toggles : Toggles) (a : Analysis) : List (Pass StepOutcome) :=
  (if toggles.clear then [clearStep] else []) ++
    (if toggles.summary then [summaryStep a] else []) ++
    (if toggles.issues then a.openPositions.map fun p => issueStep p.1 p.2 else [])

/-- One after the other. -/
def inTurn {α : Type} : List (Pass α) → Pass (List α)
  | [] => .done []
  | p :: ps => p.bind fun a => (inTurn ps).bind fun as => .done (a :: as)

def steps (toggles : Toggles) (a : Analysis) : Pass (List StepOutcome) := inTurn (plan toggles a)

/-- The identity of a pass and the times between which it ran. -/
structure Occasion where
  runId : RunId
  started : Timestamp
  finished : Timestamp

def skipped (o : Occasion) (d : Descriptor) : Report :=
  ⟨o.runId, none, o.started, o.finished, .ofOther d, []⟩

/-- A pass over the pull request of the descriptor. -/
def pass (o : Occasion) (toggles : Toggles) (a : Analysis) (d : Descriptor) : Pass Report :=
  match d.key with
  | none => .done (skipped o d)
  | some key => (steps toggles a).bind fun steps =>
    .done ⟨o.runId, some key, o.started, o.finished, .ofSteps steps, steps⟩

end Decoration
end PullDecoration
