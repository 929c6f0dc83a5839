import PullDecoration.Json.Tagged

/-! How a call to the provider of a pull request fails: the client is set up wrongly, no answer comes,
the answer is a refusal, or the answer cannot be read. -/
namespace PullDecoration

inductive ProviderError
  | configuration (message : String)
  | transport (message : String)
  | api (status : UInt16) (message : String)
  | parse (message : String)
  deriving DecidableEq, Repr

namespace ProviderError

def message : ProviderError → String
  | .configuration m => "provider configuration error: " ++ m
  | .transport m => "provider transport error: " ++ m
  | .api status m =>
    "provider API error (" ++ String.ofList (Text.decimal status.toNat) ++ "): " ++ m
  | .parse m => "provider parse error: " ++ m

open Json

def messageField : RecordField String := .required "message" .string

def alternatives : List (Alternative ProviderError) :=
  [.record "configuration" "struct variant ProviderError::Configuration" (.cons messageField .nil)
      fun (m, ()) => .configuration m,
    .record "transport" "struct variant ProviderError::Transport" (.cons messageField .nil)
      fun (m, ()) => .transport m,
    .record "api" "struct variant ProviderError::Api"
      (.cons (.required "status" .u16) (.cons messageField .nil))
      fun (status, m, ()) => .api status m,
    .record "parse" "struct variant ProviderError::Parse" (.cons messageField .nil)
      fun (m, ()) => .parse m]

def members : ProviderError → List (String × Value)
  | .configuration m => [("kind", .string "configuration"), ("message", .string m)]
  | .transport m => [("kind", .string "transport"), ("message", .string m)]
  | .api status m =>
    [("kind", .string "api"), ("status", .number status.toNat), ("message", .string m)]
  | .parse m => [("kind", .string "parse"), ("message", .string m)]

def codec : Codec ProviderError :=
  ⟨fun e => .object e.members, readTagged "kind" "ProviderError" alternatives⟩

end ProviderError
end PullDecoration
