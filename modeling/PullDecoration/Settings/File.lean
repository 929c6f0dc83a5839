import PullDecoration.Settings.Basic
import PullDecoration.Toml.Parser

/-! Settings in a TOML file. A section is a table, or an array of all its values in order. -/
namespace PullDecoration
namespace SettingsFile

open Toml

/-- What is read of a value of one type. -/
abbrev Read (α : Type) := Value → Except TomlError α

def string : Read (Option String)
  | .string s => .ok (some s)
  | _ => .error (.wrongType "a string")

def boolean : Read (Option Bool)
  | .boolean b => .ok (some b)
  | _ => .error (.wrongType "a boolean")

def seconds : Read (Option UInt64)
  | .integer n => if 0 ≤ n then .ok (some (.ofNat n.toNat)) else .error (.wrongType "u64")
  | _ => .error (.wrongType "u64")

/-- The value of a key, and none if the table lacks it. -/
def keyed {α : Type} (t : List (String × Value)) (key : String) (read : Read (Option α)) :
    Except TomlError (Option α) :=
  match t.find? (·.1 = key) with
  | some (_, v) => read v
  | none => .ok none

/-- The item at a place, which must be there. -/
def placed {α : Type} (items : List Value) (index : Nat) (read : Read (Option α)) :
    Except TomlError (Option α) :=
  match items[index]? with
  | some v => read v
  | none => .error (.missing index)

/-- Refuses keys other than the known ones. -/
def checkKeys (known : List String) (t : List (String × Value)) : Except TomlError Unit :=
  match t.find? fun e => e.1 ∉ known with
  | some (key, _) => .error (.unknownKey key)
  | none => .ok ()

def providerKeys : List String :=
  ["base_url", "workspace", "repository", "username", "password", "token", "request_timeout_secs"]

def provider : Read ProviderSection
  | .table t => do
    checkKeys providerKeys t
    return ⟨← keyed t "base_url" string, ← keyed t "workspace" string, ← keyed t "repository" string,
      ← keyed t "username" string, ← keyed t "password" string, ← keyed t "token" string,
      ← keyed t "request_timeout_secs" seconds⟩
  | .array items => do
    return ⟨← placed items 0 string, ← placed items 1 string, ← placed items 2 string,
      ← placed items 3 string, ← placed items 4 string, ← placed items 5 string,
      ← placed items 6 seconds⟩
  | _ => .error (.wrongType "struct RawProviderSection")

def decorationKeys : List String := ["summary_comment", "file_comments", "delete_old_comments"]

def decoration : Read DecorationSection
  | .table t => do
    checkKeys decorationKeys t
    return ⟨← keyed t "summary_comment" boolean, ← keyed t "file_comments" boolean,
      ← keyed t "delete_old_comments" boolean⟩
  | .array items => do
    return ⟨← placed items 0 boolean, ← placed items 1 boolean, ← placed items 2 boolean⟩
  | _ => .error (.wrongType "struct RawDecorationSection")

/-- The settings in a file. -/
def read (text : String) : Except TomlError RawSettings := do
  let t ← Toml.parse text
  checkKeys ["provider", "decoration"] t
  let provider ← match t.find? (·.1 = "provider") with
    | some (_, v) => provider v
    | none => pure .empty
  let decoration ← match t.find? (·.1 = "decoration") with
    | some (_, v) => decoration v
    | none => pure .empty
  return { provider, decoration }

/-- Why a file gives no settings. -/
inductive Problem
  | notToml (e : TomlError)
  | notValid (e : SettingsError)
  deriving DecidableEq

def Problem.message : Problem → String
  | .notToml e => e.message
  | .notValid e => e.message

/-- Valid settings from a file and a password from the environment. -/
def load (text : String) (password : Option String) : Except Problem Settings := do
  let raw ← (read text).mapError .notToml
  ((raw.withEnvironment password).validate).mapError .notValid

end SettingsFile
end PullDecoration
