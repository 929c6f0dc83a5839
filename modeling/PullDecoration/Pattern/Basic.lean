import PullDecoration.Pattern.Meaning
import PullDecoration.Pattern.Parser

/-! Patterns that a text is searched for. -/
namespace PullDecoration
namespace Pattern

/-- The greatest size of an automaton, in octets. -/
def sizeLimit : Nat := 10485760

/-- A pattern compiles if it can be read, has a meaning and is not too great. Greatness is the
assumed `Regex.weight`. -/
def compile (s : String) : Except PatternError Regex := do
  let (r, _) ← (← parse s).regex .initial
  if sizeLimit < r.weight then throw .tooLarge
  return r

/-- The text of a pattern that is to match from start to end. -/
def anchored (s : String) : String := "^(?:" ++ s ++ ")$"

end Pattern
end PullDecoration
