import PullDecoration.Text.Natural
import PullDecoration.Text.Slice

/-! Properties of code points given by runs: a run starts where the one before it ends, and a code point
belongs to the last run that starts at or below it. -/
namespace PullDecoration
namespace Unicode

/-- How many entries of `a`, ascending from `low` to below `high`, are at most `n`, `low` included. -/
def countUpTo (a : Array Nat) (n low high : Nat) : Nat :=
  if h : low < high then
    let middle := (low + high) / 2
    if (a[middle]?).getD 0 ≤ n then countUpTo a n (middle + 1) high else countUpTo a n low middle
  else low
termination_by high - low
decreasing_by all_goals omega

/-- The entries of a table, which stand between blanks on each of its lines. -/
def entries (lines : List String) : List (List Char) :=
  lines.flatMap fun line => Text.parts ' ' line.toList

/-- Runs that carry a value each. -/
structure Runs (α : Type) where
  starts : Array Nat
  values : Array α

def hexOrZero (cs : List Char) : Nat := (Text.hexDigitsValue? (cs.map Char.toLower)).getD 0

/-- Runs from entries of a length and a value. -/
def Runs.ofLengths {α : Type} (entries : List (Nat × α)) : Runs α :=
  let step (acc : Nat × Runs α) (e : Nat × α) : Nat × Runs α :=
    (acc.1 + e.1, ⟨acc.2.starts.push acc.1, acc.2.values.push e.2⟩)
  (entries.foldl step (0, ⟨#[], #[]⟩)).2

def Runs.get? {α : Type} (r : Runs α) (n : Nat) : Option α :=
  r.values[countUpTo r.starts n 0 r.starts.size - 1]?

/-- The ends of runs that alternate between outside and inside. -/
def boundaries (lengths : List String) : Array Nat :=
  let step (acc : Nat × Array Nat) (w : List Char) : Nat × Array Nat :=
    let next := acc.1 + hexOrZero w
    (next, acc.2.push next)
  ((entries lengths).foldl step (0, #[])).2

def insideRuns (ends : Array Nat) (n : Nat) : Bool := countUpTo ends n 0 ends.size % 2 = 1

end Unicode
end PullDecoration
