import PullDecoration.Settings.Raw
import PullDecoration.Settings.Toggles
import PullDecoration.Text.Blank
import PullDecoration.Text.Slice

/-! Settings that a pass can run with. Blank texts count as missing. A user name with a password comes
before a token; a token holds both, and its first colon ends the user name. -/
namespace PullDecoration

structure Credentials where
  username : String
  password : String
  deriving DecidableEq

structure Settings where
  baseUrl : Option String
  workspace : String
  repository : String
  credentials : Credentials
  timeout : UInt64
  toggles : Toggles
  deriving DecidableEq

/-- Settings go by their section and key. -/
inductive SettingsError
  | missing (setting : String)
  | invalid (setting reason : String)
  deriving DecidableEq, Repr

namespace SettingsError

def kind : SettingsError → String
  | .missing _ => "MissingSetting"
  | .invalid .. => "InvalidSetting"

def setting : SettingsError → String
  | .missing s | .invalid s _ => s

def message : SettingsError → String
  | .missing s => "Missing mandatory setting '" ++ s ++ "'"
  | .invalid s reason => "Invalid value for setting '" ++ s ++ "': " ++ reason

end SettingsError

def Credentials.ofToken (token : String) : Except SettingsError Credentials :=
  match Text.cut? ':' token.toList with
  | some (c :: user, d :: password) => .ok ⟨String.ofList (c :: user), String.ofList (d :: password)⟩
  | _ => .error (.invalid "provider.token" "expected the form 'username:password'")

namespace RawSettings

def nonBlank? (value : Option String) : Option String := value.bind Text.nonBlank?

def required {α : Type} (setting : String) : Option α → Except SettingsError α
  | some a => .ok a
  | none => .error (.missing setting)

def credentials (s : ProviderSection) : Except SettingsError Credentials :=
  match nonBlank? s.username, nonBlank? s.password, nonBlank? s.token with
  | some user, some password, _ => .ok ⟨user, password⟩
  | _, _, some token => Credentials.ofToken token
  | none, _, none => .error (.missing "provider.username")
  | some _, none, none => .error (.missing "provider.password")

/-- The seconds that a request may take if nothing is said. -/
def defaultTimeout : UInt64 := 30

def timeout : Option UInt64 → Except SettingsError UInt64
  | none => .ok defaultTimeout
  | some n =>
    if n = 0 then .error (.invalid "provider.request_timeout_secs" "must be greater than zero")
    else .ok n

/-- The first setting that is missing or wrong is reported. -/
def validate (s : RawSettings) : Except SettingsError Settings := do
  let workspace ← required "provider.workspace" (nonBlank? s.provider.workspace)
  let repository ← required "provider.repository" (nonBlank? s.provider.repository)
  let credentials ← credentials s.provider
  let timeout ← timeout s.provider.timeout
  let summary ← required "decoration.summary_comment" s.decoration.summary
  let issues ← required "decoration.file_comments" s.decoration.issues
  let clear ← required "decoration.delete_old_comments" s.decoration.clear
  return ⟨nonBlank? s.provider.baseUrl, workspace, repository, credentials, timeout,
    ⟨summary, issues, clear⟩⟩

/-- Takes the password from the environment if the settings have neither a password nor a token. -/
def withEnvironment (s : RawSettings) (password : Option String) : RawSettings :=
  if s.provider.password.isNone ∧ s.provider.token.isNone then
    { s with provider := { s.provider with password } }
  else s

end RawSettings
end PullDecoration
