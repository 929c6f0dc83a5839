import PullDecoration.Host
import PullDecoration.Resolution.Parameters
import PullDecoration.Text.Blank

/-! Commands and how they are written: options first of the program, then the name of a command and the
options of that command. Arguments are read from left to right; asking for help or for the version ends the
reading, and so does the first argument that does not fit. -/
namespace PullDecoration
namespace CommandLine

/-- Files go by their paths. -/
inductive Command
  | resolve (registry : String) (parameters : Parameters) (host : HostVersion)
      (pattern : Option String)
  | load (registry descriptor : String) (project : BranchUuid)
  | decorate (config analysis descriptor : String)
  deriving DecidableEq

/-- The files that a command reads. -/
def Command.paths : Command → List String
  | .resolve registry .. => [registry]
  | .load registry descriptor _ => [registry, descriptor]
  | .decorate config analysis descriptor => [config, analysis, descriptor]

/-- Why there is nothing to run. -/
inductive Stop
  | help | version | misuse
  deriving DecidableEq, Repr

/-- An option: whether it may be given more than once, and the values that it accepts. An option without
such a test is a flag and has no value. -/
structure Rule where
  name : String
  repeats : Bool
  accepts : Option (String → Bool)

namespace Rule

def flag (name : String) : Rule := ⟨name, false, none⟩

def single (name : String) (accepts : String → Bool) : Rule := ⟨name, false, some accepts⟩

def path (name : String) : Rule := single name (· ≠ "")

end Rule

/-- Options that may stand before and behind the command. -/
def commonRules : List Rule := [.flag "log-json", .single "log-level" fun _ => true]

def project? (s : String) : Option BranchUuid := Identifier.ofString? (Text.trim s)

def resolveRules : List Rule :=
  [.path "registry", ⟨"param", true, some fun s => (Parameters.ofText? s).isSome⟩,
    .single "host-version" fun s => (HostVersion.ofString? s).isSome,
    .single "long-lived-pattern" fun _ => true]

def loadRules : List Rule :=
  [.path "registry", .path "descriptor", .single "project-uuid" fun s => (project? s).isSome]

def decorateRules : List Rule := [.path "config", .path "analysis", .path "descriptor"]

/-- The options given, each with its value; a flag has the empty one. -/
abbrev Given := List (String × String)

/-- Adds an option with its value. -/
def give (rule : Rule) (value : String) (given : Given) : Except Stop Given :=
  if !rule.repeats ∧ given.any (·.1 = rule.name) then .error .misuse
  else if rule.accepts.all fun accepts => accepts value then .ok (given ++ [(rule.name, value)])
  else .error .misuse

/-- What an argument is: a word, the mark behind which there are only words, a whole option, an option whose
value follows, or a reason to stop. -/
inductive Argument
  | word
  | mark
  | whole (rule : Rule) (value : String)
  | begun (rule : Rule)
  | stop (reason : Stop)

/-- The option of that name, with the value that stands behind an equals sign. -/
def option (rules : List Rule) (name : String) (value : Option String) : Argument :=
  match rules.find? (·.name = name), value with
  | none, _ => .stop .misuse
  | some rule, some value => if rule.accepts.isSome then .whole rule value else .stop .misuse
  | some rule, none => if rule.accepts.isSome then .begun rule else .whole rule ""

/-- Only the program itself, not a command, has a version. -/
def classify (versioned : Bool) (rules : List Rule) (argument : String) : Argument :=
  match argument.toList with
  | ['-', '-'] => .mark
  | '-' :: '-' :: cs =>
    if argument = "--help" then .stop .help
    else if argument = "--version" ∧ versioned then .stop .version
    else match Text.cut? '=' cs with
      | some (name, value) => option rules (String.ofList name) (some (String.ofList value))
      | none => option rules (String.ofList cs) none
  | '-' :: 'h' :: _ => .stop .help
  | '-' :: 'V' :: _ => .stop (if versioned then .version else .misuse)
  | '-' :: _ :: _ => .stop .misuse
  | _ => .word

/-- The options up to the first word that is not the value of one, and the arguments from there on. An
option that is `begun` has the next argument as its value, which must be a word. -/
def scan (versioned : Bool) (rules : List Rule) (begun : Option Rule) (given : Given) :
    List String → Except Stop (Given × List String)
  | [] => if begun.isSome then .error .misuse else .ok (given, [])
  | argument :: rest =>
    match classify versioned rules argument, begun with
    | .word, some rule => do scan versioned rules none (← give rule argument given) rest
    | _, some _ => .error .misuse
    | .word, none => .ok (given, argument :: rest)
    | .mark, none => if rest.isEmpty then .ok (given, []) else .error .misuse
    | .whole rule value, none => do scan versioned rules none (← give rule value given) rest
    | .begun rule, none => scan versioned rules (some rule) given rest
    | .stop reason, none => .error reason

/-- All options of a command; there may be nothing else. -/
def options (rules : List Rule) (arguments : List String) : Except Stop Given := do
  let (given, rest) ← scan false (commonRules ++ rules) none [] arguments
  if rest.isEmpty then return given else throw .misuse

def value? (given : Given) (name : String) : Option String := (given.find? (·.1 = name)).map (·.2)

/-- The values of an option that may be given more than once. -/
def values (given : Given) (name : String) : List String :=
  (given.filter (·.1 = name)).map (·.2)

def defaultHost : String := "8.1"

def resolve? (given : Given) : Option Command := do
  let registry ← value? given "registry"
  let parameters ← (values given "param").mapM Parameters.ofText?
  let host ← HostVersion.ofString? ((value? given "host-version").getD defaultHost)
  return .resolve registry ⟨parameters⟩ host (value? given "long-lived-pattern")

def load? (given : Given) : Option Command := do
  let registry ← value? given "registry"
  let descriptor ← value? given "descriptor"
  let project ← (value? given "project-uuid").bind project?
  return .load registry descriptor project

def decorate? (given : Given) : Option Command := do
  let config ← value? given "config"
  let analysis ← value? given "analysis"
  let descriptor ← value? given "descriptor"
  return .decorate config analysis descriptor

/-- The commands by name, with their options and what is made of these. -/
def commands : List (String × List Rule × (Given → Option Command)) :=
  [("resolve", resolveRules, resolve?), ("load", loadRules, load?),
    ("decorate", decorateRules, decorate?)]

/-- Behind `help` the name of one command may stand. -/
def helpStop : List String → Stop
  | [] => .help
  | [name] => if name = "help" ∨ commands.any (·.1 = name) then .help else .misuse
  | _ => .misuse

/-- The command in the arguments of the program. -/
def Command.ofArguments (arguments : List String) : Except Stop Command := do
  let (_, rest) ← scan true commonRules none [] arguments
  match rest with
  | [] => throw .misuse
  | "help" :: names => throw (helpStop names)
  | name :: arguments =>
    match commands.find? (·.1 = name) with
    | none => throw .misuse
    | some (_, rules, command?) =>
      match command? (← options rules arguments) with
      | some command => return command
      | none => throw .misuse

end CommandLine
end PullDecoration
