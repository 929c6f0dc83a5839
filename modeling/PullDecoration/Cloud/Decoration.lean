import PullDecoration.Cloud.Client
import PullDecoration.Report.Pass

/-! Decorating through the service. What is no pull request is skipped without a request; settings that
give no endpoint are refused before any. -/
namespace PullDecoration
namespace Cloud

def name : String := "BitbucketCloud"

/-- Whether the URL lies under the default base. -/
def isSupported (url : String) : Bool :=
  match Text.dropLead? defaultBase.toList (Text.trim url).toList with
  | some ('/' :: _) => true
  | _ => false

def baseKey : String := "provider.base_url"

/-- Settings whose base URL, if there is one, lies at the service. -/
def checkBase (s : Settings) : Except SettingsError Unit :=
  match s.baseUrl with
  | none => .ok ()
  | some url =>
    if isSupported (withoutSlashes url ++ "/") then .ok ()
    else .error (.invalid baseKey ("'" ++ url ++ "' is not supported by " ++ name))

/-- Why there is no endpoint. -/
def refusal : ProviderError → SettingsError
  | .configuration reason => .invalid baseKey reason
  | e => .invalid baseKey e.message

/-- A decoration pass. There is no result if a listing goes on for more than `limit` pages. -/
def decorate (limit : Nat) (o : Decoration.Occasion) (s : Settings) (a : Analysis) (d : Descriptor) :
    Http.Exchange (Option (Except SettingsError Report)) :=
  match d.key with
  | none => .done (some (.ok (Decoration.skipped o d)))
  | some key => match Endpoint.ofSettings s key with
    | .error e => .done (some (.error (refusal e)))
    | .ok e => (e.perform limit (Decoration.pass o s.toggles a d)).bind fun r => .done (r.map .ok)

/-- A decoration pass that is only made at the service itself. -/
def decorateSupported (limit : Nat) (o : Decoration.Occasion) (s : Settings) (a : Analysis)
    (d : Descriptor) : Http.Exchange (Option (Except SettingsError Report)) :=
  match checkBase s with
  | .error e => .done (some (.error e))
  | .ok () => decorate limit o s a d

end Cloud
end PullDecoration
