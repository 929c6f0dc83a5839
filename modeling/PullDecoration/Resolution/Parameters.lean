import PullDecoration.Identifier
import PullDecoration.Text.Blank
import PullDecoration.Text.Slice

/-! Scan parameters: keys with values, of which the last one counts for each key. -/
namespace PullDecoration

structure Parameters where
  entries : List (String × String)
  deriving DecidableEq

namespace Parameters

def branchName : String := "branch.name"
def branchTarget : String := "branch.target"
def pullRequestBranch : String := "pullrequest.branch"
def pullRequestBase : String := "pullrequest.base"
def pullRequestKey : String := "pullrequest.key"
def longLivedPattern : String := "branch.longLivedBranches.regex"

/-- The keys that ask for the analysis of a branch. -/
def branchKeys : List String := [branchName, branchTarget]

/-- The keys that ask for the analysis of a pull request. -/
def pullRequestKeys : List String := [pullRequestBranch, pullRequestKey, pullRequestBase]

def get? (p : Parameters) (key : String) : Option String :=
  (p.entries.reverse.find? (·.1 = key)).map (·.2)

def has (p : Parameters) (key : String) : Bool := (p.get? key).isSome

def hasAny (p : Parameters) (keys : List String) : Bool := keys.any p.has

/-- The trimmed value; a blank one counts as none. -/
def value? (p : Parameters) (key : String) : Option String := (p.get? key).bind Text.nonBlank?

/-- The trimmed value as an identifier. -/
def identifier? {kind : IdentifierKind} (p : Parameters) (key : String) : Option (Identifier kind) :=
  (p.get? key).bind fun v => Identifier.ofString? (Text.trim v)

/-- What is said of a text that is no parameter. -/
def refusal (s : String) : String := "expected KEY=VALUE, got '" ++ s ++ "'"

/-- A key that is not blank and, behind the first equals sign, its value. The key is trimmed. -/
def ofText? (s : String) : Option (String × String) := do
  let (key, value) ← Text.cut? '=' s.toList
  let key ← Text.nonBlank? (String.ofList key)
  return (key, String.ofList value)

/-- The trimmed value that is not blank is the text of the identifier. -/
theorem value?_eq (p : Parameters) (kind : IdentifierKind) (key : String) :
    p.value? key = (p.identifier? key : Option (Identifier kind)).map (·.text) := by
  unfold value? identifier?
  cases p.get? key with
  | none => rfl
  | some v => by_cases h : Text.trim v = "" <;> simp [Text.nonBlank?, Identifier.ofString?, h]

theorem identifier?_getD_text {kind : IdentifierKind} (p : Parameters) (key : String)
    (other : Identifier kind) :
    ((p.identifier? key).getD other).text = (p.value? key).getD other.text := by
  rw [p.value?_eq kind]
  cases (p.identifier? key : Option (Identifier kind)) <;> rfl

theorem identifier?_eq_none {kind : IdentifierKind} {p : Parameters} {key : String}
    (h : p.value? key = none) : (p.identifier? key : Option (Identifier kind)) = none := by
  rw [p.value?_eq kind] at h
  exact Option.map_eq_none_iff.mp h

theorem hasAny_of_value? {p : Parameters} {keys : List String} {key value : String}
    (hmem : key ∈ keys) (h : p.value? key = some value) : p.hasAny keys = true := by
  have hhas : p.has key = true := by
    unfold has
    unfold value? at h
    obtain ⟨given, hgiven, -⟩ := Option.bind_eq_some_iff.mp h
    rw [hgiven]
    rfl
  exact List.any_eq_true.mpr ⟨key, hmem, hhas⟩

end Parameters
end PullDecoration
