import PullDecoration.Json.Record
import PullDecoration.Text.Quoted

/-! Settings as they stand in a file. Every one may be missing, and there are no others. -/
namespace PullDecoration

structure ProviderSection where
  baseUrl : Option String
  workspace : Option String
  repository : Option String
  username : Option String
  password : Option String
  token : Option String
  timeout : Option UInt64
  deriving DecidableEq, Repr

structure DecorationSection where
  summary : Option Bool
  issues : Option Bool
  clear : Option Bool
  deriving DecidableEq, Repr

structure RawSettings where
  provider : ProviderSection
  decoration : DecorationSection
  deriving DecidableEq, Repr

def ProviderSection.empty : ProviderSection := ⟨none, none, none, none, none, none, none⟩

def DecorationSection.empty : DecorationSection := ⟨none, none, none⟩

open Json

def ProviderSection.codec : Codec ProviderSection :=
  .record "struct RawProviderSection" .refuse
    (.cons (.nullable "base_url" .string) (.cons (.nullable "workspace" .string)
      (.cons (.nullable "repository" .string) (.cons (.nullable "username" .string)
        (.cons (.nullable "password" .string) (.cons (.nullable "token" .string)
          (.cons (.nullable "request_timeout_secs" .u64) .nil)))))))
    (fun s => (s.baseUrl, s.workspace, s.repository, s.username, s.password, s.token, s.timeout, ()))
    fun (baseUrl, workspace, repository, username, password, token, timeout, ()) =>
      .ok { baseUrl, workspace, repository, username, password, token, timeout }

def DecorationSection.codec : Codec DecorationSection :=
  .record "struct RawDecorationSection" .refuse
    (.cons (.nullable "summary_comment" .bool) (.cons (.nullable "file_comments" .bool)
      (.cons (.nullable "delete_old_comments" .bool) .nil)))
    (fun s => (s.summary, s.issues, s.clear, ()))
    fun (summary, issues, clear, ()) => .ok { summary, issues, clear }

namespace RawSettings

def codec : Codec RawSettings :=
  .record "struct RawDecoratorConfig" .refuse
    (.cons (.defaulted "provider" ProviderSection.codec .empty)
      (.cons (.defaulted "decoration" DecorationSection.codec .empty) .nil))
    (fun s => (s.provider, s.decoration, ())) fun (provider, decoration, ()) =>
      .ok { provider, decoration }

end RawSettings
end PullDecoration
