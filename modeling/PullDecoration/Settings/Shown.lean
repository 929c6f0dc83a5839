import PullDecoration.Settings.Basic
import PullDecoration.Text.Quoted

/-! Settings in words for logs. Passwords and tokens are never shown. -/
namespace PullDecoration
namespace Shown

def fieldList : List (String × String) → String
  | [] => ""
  | fields => ", ".intercalate (fields.map fun f => f.1 ++ ": " ++ f.2)

def record (title : String) (fields : List (String × String)) : String :=
  title ++ " \x7b " ++ fieldList fields ++ " \x7d"

def option : Option String → String
  | none => "None"
  | some s => "Some(" ++ s ++ ")"

def bool (b : Bool) : String := if b then "true" else "false"

def redacted : String := Text.quoted "<redacted>"

def string? (s : Option String) : String := option (s.map Text.quoted)

def secret? (s : Option String) : String := option (s.map fun _ => redacted)

def bool? (b : Option Bool) : String := option (b.map bool)

def number (n : UInt64) : String := String.ofList (Text.decimal n.toNat)

end Shown

open Shown

def ProviderSection.shown (s : ProviderSection) : String :=
  record "RawProviderSection"
    [("base_url", string? s.baseUrl), ("workspace", string? s.workspace),
      ("repository", string? s.repository), ("username", string? s.username),
      ("password", secret? s.password), ("token", secret? s.token),
      ("request_timeout_secs", option (s.timeout.map number))]

def DecorationSection.shown (s : DecorationSection) : String :=
  record "RawDecorationSection"
    [("summary_comment", bool? s.summary), ("file_comments", bool? s.issues),
      ("delete_old_comments", bool? s.clear)]

def RawSettings.shown (s : RawSettings) : String :=
  record "RawDecoratorConfig" [("provider", s.provider.shown), ("decoration", s.decoration.shown)]

def Credentials.shown (c : Credentials) : String :=
  record "Credentials" [("username", Text.quoted c.username), ("password", redacted)]

def Toggles.shown (t : Toggles) : String :=
  record "DecorationToggles"
    [("post_summary", Shown.bool t.summary), ("post_file_comments", Shown.bool t.issues),
      ("delete_stale_comments", Shown.bool t.clear)]

def Settings.shown (s : Settings) : String :=
  record "ProviderConfig"
    [("base_url", string? s.baseUrl), ("workspace", Text.quoted s.workspace),
      ("repository", Text.quoted s.repository), ("credentials", s.credentials.shown),
      ("request_timeout", number s.timeout ++ "s"), ("toggles", s.toggles.shown)]

end PullDecoration
