import PullDecoration.Json.Codec

/-! Names and keys that other systems assign. Every one is a text that is not empty; what it identifies
is part of its type, so that a branch name never stands for a branch uuid. -/
namespace PullDecoration

inductive IdentifierKind
  | branchName | branchUuid | pullRequestKey | commentId | sourcePath | ruleKey
  deriving DecidableEq, Repr

def IdentifierKind.title : IdentifierKind → String
  | .branchName => "BranchName"
  | .branchUuid => "BranchUuid"
  | .pullRequestKey => "PullRequestKey"
  | .commentId => "CommentId"
  | .sourcePath => "SourcePath"
  | .ruleKey => "RuleKey"

structure Identifier (kind : IdentifierKind) where
  text : String
  text_ne_empty : text ≠ ""
  deriving DecidableEq

abbrev BranchName := Identifier .branchName
abbrev BranchUuid := Identifier .branchUuid
abbrev PullRequestKey := Identifier .pullRequestKey
abbrev CommentId := Identifier .commentId
abbrev SourcePath := Identifier .sourcePath
abbrev RuleKey := Identifier .ruleKey

namespace Identifier

variable {kind : IdentifierKind}

def ofString? (s : String) : Option (Identifier kind) :=
  if h : s = "" then none else some ⟨s, h⟩

/-- Why the empty text is no identifier. -/
def emptyRefusal (kind : IdentifierKind) : String := kind.title ++ " must not be empty"

def ofString (s : String) : Except String (Identifier kind) :=
  match ofString? s with
  | some id => .ok id
  | none => .error (emptyRefusal kind)

def codec : Json.Codec (Identifier kind) := .refine .string text ofString

instance : Ord (Identifier kind) := ⟨fun a b => compare a.text b.text⟩

@[simp] theorem ofString?_text (id : Identifier kind) : ofString? id.text = some id := by
  simp [ofString?, id.text_ne_empty]

@[simp] theorem ofString_text (id : Identifier kind) : ofString id.text = .ok id := by
  simp [ofString]

theorem ofString?_eq_some {s : String} {id : Identifier kind} :
    ofString? s = some id ↔ s = id.text := by
  constructor
  · intro h
    unfold ofString? at h
    split at h
    · cases h
    · cases h; rfl
  · rintro rfl
    exact ofString?_text id

theorem ofString?_eq_none {s : String} : (ofString? s : Option (Identifier kind)) = none ↔ s = "" := by
  by_cases h : s = "" <;> simp [ofString?, h]

@[ext] theorem ext {a b : Identifier kind} (h : a.text = b.text) : a = b := by
  cases a; cases b; cases h; rfl

end Identifier

/-- The name of the main line where nothing else is known. -/
def conventionalMain : BranchName := ⟨"master", by decide⟩

end PullDecoration
