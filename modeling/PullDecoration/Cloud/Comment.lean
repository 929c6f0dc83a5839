import PullDecoration.Identifier
import PullDecoration.Json.Record
import PullDecoration.Provider.Marker
import PullDecoration.Text.Blank

/-! Comments as the service writes and reads them: those that it lists, and new ones. -/
namespace PullDecoration
namespace Cloud

open Json

/-- The id of a listed comment, as it stands there. -/
inductive EntryId
  | number (n : Nat)
  | text (s : String)
  deriving DecidableEq

namespace EntryId

/-- A number in decimal, a text without blanks around it; a blank text is no id. -/
def commentId? : EntryId → Option CommentId
  | .number n => Identifier.ofString? (String.ofList (Text.decimal n))
  | .text s => Identifier.ofString? (Text.trim s)

def refusal : ReadError := .refused "data did not match any variant of untagged enum WireId"

/-- A number of 64 bits or a string. -/
def read (d : Document) : Except ReadError EntryId := do
  d.check
  match d with
  | .number n => match n.number with
    | .ok (.natural k) => if k < UInt64.size then return .number k else throw refusal
    | _ => throw refusal
  | .string s => return .text (← readLiteral s)
  | _ => throw refusal

def codec : Codec EntryId where
  write
    | .number n => .number n
    | .text s => .string s
  read := read

end EntryId

/-- A listed comment; the body may be left out. -/
structure Entry where
  id : EntryId
  body : Option String
  deleted : Bool
  deriving DecidableEq

namespace Entry

/-- The text of a comment that may be left out. -/
def contentCodec : Codec (Option String) :=
  .record "struct CommentContent" .skip (.cons (.nullable "raw" .string) .nil)
    (fun raw => (raw, ())) fun (raw, ()) => .ok raw

def codec : Codec Entry :=
  .record "struct CommentEntry" .skip
    (.cons (.required "id" EntryId.codec) (.cons (.optional "content" contentCodec)
      (.cons (.defaulted "deleted" .bool false) .nil)))
    (fun e => (e.id, e.body.map some, e.deleted, ()))
    fun (id, content, deleted, ()) => .ok { id, body := content.join, deleted }

/-- A comment that is still there, and whose body, if it is given, carries the mark. -/
def isDecoration (e : Entry) : Bool := !e.deleted && e.body.all Marker.isIn

/-- The ids of the decoration comments among the entries. -/
def decorationIds (es : List Entry) : List CommentId :=
  (es.filter isDecoration).filterMap fun e => e.id.commentId?

end Entry

/-- A place in the changed files. -/
structure Anchor where
  line : Option UInt32
  path : SourcePath
  deriving DecidableEq

structure NewComment where
  text : String
  anchor : Option Anchor
  deriving DecidableEq

def Anchor.codec : Codec Anchor :=
  .record "struct Inline" .skip
    (.cons (.optional "to" .u32) (.cons (.required "path" Identifier.codec) .nil))
    (fun a => (a.line, a.path, ())) fun (line, path, ()) => .ok { line, path }

namespace NewComment

/-- A line counts only together with a path. -/
def of (text : String) (path : Option SourcePath) (line : Option UInt32) : NewComment :=
  ⟨text, path.map fun path => ⟨line, path⟩⟩

def textCodec : Codec String :=
  .record "struct RawContent" .skip (.cons (.required "raw" .string) .nil)
    (fun raw => (raw, ())) fun (raw, ()) => .ok raw

def codec : Codec NewComment :=
  .record "struct CreateComment" .skip
    (.cons (.required "content" textCodec) (.cons (.optional "inline" Anchor.codec) .nil))
    (fun c => (c.text, c.anchor, ())) fun (text, anchor, ()) => .ok { text, anchor }

end NewComment
end Cloud
end PullDecoration
