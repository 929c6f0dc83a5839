import PullDecoration.Identifier
import PullDecoration.Json.Record
import PullDecoration.Text.Blank

/-! Findings of an analysis. An issue is open until it is resolved or closed, and it may point to a file;
the path of that file is brought into the form that code hosts use. -/
namespace PullDecoration

inductive Severity
  | blocker | critical | major | minor | info
  deriving DecidableEq, Repr

namespace Severity

def name : Severity → String
  | .blocker => "BLOCKER"
  | .critical => "CRITICAL"
  | .major => "MAJOR"
  | .minor => "MINOR"
  | .info => "INFO"

/-- All severities, the worst one first. -/
def all : List Severity := [.blocker, .critical, .major, .minor, .info]

def rank : Severity → Nat
  | .blocker => 0
  | .critical => 1
  | .major => 2
  | .minor => 3
  | .info => 4

instance : Ord Severity := ⟨fun a b => compare a.rank b.rank⟩

def codec : Json.Codec Severity := .ofNames (all.map fun s => (s.name, s)) name

theorem mem_all (s : Severity) : s ∈ all := by cases s <;> decide

end Severity

inductive IssueStatus
  | opened | confirmed | reopened | resolved | closed
  deriving DecidableEq, Repr

namespace IssueStatus

def name : IssueStatus → String
  | .opened => "OPEN"
  | .confirmed => "CONFIRMED"
  | .reopened => "REOPENED"
  | .resolved => "RESOLVED"
  | .closed => "CLOSED"

def all : List IssueStatus := [.opened, .confirmed, .reopened, .resolved, .closed]

def isOpen : IssueStatus → Bool
  | .opened | .confirmed | .reopened => true
  | .resolved | .closed => false

def codec : Json.Codec IssueStatus := .ofNames (all.map fun s => (s.name, s)) name

end IssueStatus

structure Issue where
  message : String
  severity : Severity
  status : IssueStatus
  rule : Option RuleKey
  file : Option String
  line : Option UInt32
  deriving DecidableEq

namespace Issue

def isOpen (i : Issue) : Bool := i.status.isOpen

/-- The path without the pieces `/` and `./` at its start. -/
def dropRootPieces : List Char → List Char
  | '/' :: cs => dropRootPieces cs
  | '.' :: '/' :: cs => dropRootPieces cs
  | cs => cs

def forwardSlash (c : Char) : Char := if c = '\\' then '/' else c

/-- The characters of a file's path, trimmed, with forward slashes and seen from the root. -/
def pathChars (file : String) : List Char :=
  dropRootPieces ((Text.trimChars file.toList).map forwardSlash)

/-- The path of the issue's file; none if nothing is left of it. -/
def sourcePath (i : Issue) : Option SourcePath :=
  i.file.bind fun file => Identifier.ofString? (String.ofList (pathChars file))

/-- The line is kept only with a path that it is a line of. -/
def anchoredLine (i : Issue) : Option UInt32 := i.sourcePath.bind fun _ => i.line

open Json in
def codec : Codec Issue :=
  .record "struct Issue" .skip
    (.cons (.required "message" .string) (.cons (.required "severity" Severity.codec)
      (.cons (.required "status" IssueStatus.codec) (.cons (.optional "rule" Identifier.codec)
        (.cons (.optional "file_path" .string) (.cons (.optional "line" .u32) .nil))))))
    (fun i => (i.message, i.severity, i.status, i.rule, i.file, i.line, ()))
    fun (message, severity, status, rule, file, line, ()) =>
      .ok { message, severity, status, rule, file, line }

end Issue
end PullDecoration
