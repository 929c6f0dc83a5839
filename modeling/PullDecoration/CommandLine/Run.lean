import PullDecoration.Branch.Analysed
import PullDecoration.Cloud.Decoration
import PullDecoration.CommandLine.Command
import PullDecoration.Resolution.Resolver
import PullDecoration.Settings.File

/-! Running commands. Documents are read from files and results are printed as JSON; the exit code tells
unreadable input from parameters that cannot be resolved and from settings that are not valid. Failures
while decorating are part of the result. -/
namespace PullDecoration
namespace CommandLine

/-- Why a file is not read. -/
inductive FileError
  | missing | denied | notDirectory | directory | nameTooLong | notText
  deriving DecidableEq, Repr

def FileError.message : FileError → String
  | .missing => "No such file or directory (os error 2)"
  | .denied => "Permission denied (os error 13)"
  | .notDirectory => "Not a directory (os error 20)"
  | .directory => "Is a directory (os error 21)"
  | .nameTooLong => "File name too long (os error 36)"
  | .notText => "stream did not contain valid UTF-8"

/-- The error of that number. -/
def FileError.ofNumber? (n : UInt32) : Option FileError :=
  if n = 2 then some .missing
  else if n = 13 then some .denied
  else if n = 20 then some .notDirectory
  else if n = 21 then some .directory
  else if n = 36 then some .nameTooLong
  else none

/-- What a run finds around it: files by path, and the password of the environment. -/
structure Surroundings where
  file : String → Except FileError String
  password : Option String

/-- How a run ends, and what it has written to its two outputs. -/
structure Ending where
  code : UInt32
  output : String
  complaint : String
  deriving DecidableEq

namespace Ending

def inputCode : UInt32 := 1

def resolutionCode : UInt32 := 2

def settingsCode : UInt32 := 3

def printed (v : Json.Value) : Ending := ⟨0, v.prettyText ++ "\n", ""⟩

def failed (code : UInt32) (message : String) : Ending := ⟨code, "", "error: " ++ message ++ "\n"⟩

def ofResolutionError (e : ResolutionError) : Ending :=
  let detail := match e.detail with
    | some detail => "\n  caused by: " ++ detail
    | none => ""
  failed resolutionCode (e.headline ++ detail)

def ofLoadError (e : LoadError) : Ending := failed resolutionCode e.message

def ofSettingsError (e : SettingsError) : Ending := failed settingsCode e.message

/-- A report is printed whatever failed in it. -/
def ofReport : Except SettingsError Report → Ending
  | .ok r => printed (Report.codec.write r)
  | .error e => ofSettingsError e

end Ending

namespace Surroundings

/-- The text of a file; `what` says what it should hold. -/
def text (s : Surroundings) (what path : String) : Except Ending String :=
  (s.file path).mapError fun e =>
    .failed Ending.inputCode ("failed to read " ++ what ++ " file " ++ path ++ ": " ++ e.message)

/-- What a file should hold and does not. -/
def invalid (what path reason : String) : String :=
  "invalid " ++ what ++ " file " ++ path ++ ": " ++ reason

def document {α : Type} (s : Surroundings) (c : Json.Codec α) (what path : String) :
    Except Ending α := do
  (c.decode (← s.text what path)).mapError fun e =>
    .failed Ending.inputCode (invalid what path e.message)

def settings (s : Surroundings) (path : String) : Except Ending Settings := do
  let what := "configuration"
  (SettingsFile.load (← s.text what path) s.password).mapError fun
    | .notToml e => .failed Ending.inputCode (invalid what path e.message)
    | .notValid e => .failed Ending.settingsCode (invalid what path e.message)

def registry (s : Surroundings) (path : String) : Except Ending Registry :=
  s.document Registry.codec "branch registry" path

def descriptor (s : Surroundings) (path : String) : Except Ending Descriptor :=
  s.document Descriptor.codec "descriptor" path

def analysis (s : Surroundings) (path : String) : Except Ending Analysis :=
  s.document Analysis.codec "analysis" path

def resolve (s : Surroundings) (path : String) (parameters : Parameters) (host : HostVersion)
    (pattern : Option String) : Except Ending Ending := do
  let g ← s.registry path
  let d ← (Resolver.resolve ⟨.ofVersion host, pattern⟩ parameters g).mapError .ofResolutionError
  return .printed (Descriptor.codec.write d)

def load (s : Surroundings) (registry descriptor : String) (project : BranchUuid) :
    Except Ending Ending := do
  let g ← s.registry registry
  let d ← s.descriptor descriptor
  let b ← (AnalysedBranch.ofDescriptor d project g).mapError .ofLoadError
  return .printed (AnalysedBranch.codec.write b)

/-- What the files of a decoration hold. -/
def inputs (s : Surroundings) (config analysis descriptor : String) :
    Except Ending (Settings × Analysis × Descriptor) := do
  return (← s.settings config, ← s.analysis analysis, ← s.descriptor descriptor)

def decorate (s : Surroundings) (limit : Nat) (o : Decoration.Occasion)
    (config analysis descriptor : String) : Http.Exchange (Option Ending) :=
  match s.inputs config analysis descriptor with
  | .error ending => .done (some ending)
  | .ok (settings, a, d) => (Cloud.decorateSupported limit o settings a d).bind fun r =>
    .done (r.map .ofReport)

end Surroundings

def outcome : Except Ending Ending → Ending
  | .ok ending | .error ending => ending

/-- More pages than a listing can have. -/
def pageLimit : Nat := UInt64.size

/-- The run of a command. There is no ending if a listing goes on for more than `limit` pages. -/
def Command.run (limit : Nat) (o : Decoration.Occasion) (s : Surroundings) :
    Command → Http.Exchange (Option Ending)
  | .resolve registry parameters host pattern =>
    .done (some (outcome (s.resolve registry parameters host pattern)))
  | .load registry descriptor project =>
    .done (some (outcome (s.load registry descriptor project)))
  | .decorate config analysis descriptor => s.decorate limit o config analysis descriptor

def programName : String := "pr-decorator"

def programVersion : String := "0.1.0"

def usage : String := "\n".intercalate
  ["Resolve analysis branches and decorate pull requests",
    "",
    "Usage: pr-decorator [OPTIONS] <COMMAND>",
    "",
    "Commands:",
    "  resolve   Resolve the branch descriptor for an analysis run",
    "  load      Load the analysed branch for a resolved descriptor",
    "  decorate  Decorate a pull request with the results of an analysis",
    "  help      Print this message or the help of the given subcommand(s)",
    "",
    "Options:",
    "      --log-json               Emit JSON-formatted log lines",
    "      --log-level <LOG_LEVEL>  Default log level [default: info]",
    "  -h, --help                   Print help",
    "  -V, --version                Print version",
    ""]

/-- What is printed instead of a run. -/
def Stop.ending : Stop → Ending
  | .help => ⟨0, usage, ""⟩
  | .version => ⟨0, programName ++ " " ++ programVersion ++ "\n", ""⟩
  | .misuse => ⟨2, "", usage⟩

end CommandLine
end PullDecoration
