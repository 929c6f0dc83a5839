import PullDecoration.Provider.Marker
import PullDecoration.Provider.Pass

/-! A provider that holds comments in memory. It numbers them in the order of their creation and lists
those that carry the marker. -/
namespace PullDecoration

structure Comment where
  id : CommentId
  body : String
  path : Option SourcePath
  line : Option UInt32
  deriving DecidableEq

/-- A comment as a reader sees it, apart from its number. -/
def Comment.content (c : Comment) : String × Option SourcePath × Option UInt32 :=
  (c.body, c.path, c.line)

structure Store where
  comments : List Comment
  lastNumber : Nat
  deriving DecidableEq

theorem decimal_text_ne (n : Nat) : String.ofList (Text.decimal n) ≠ "" := by
  intro h
  have : Text.decimal n = [] := by simpa using congrArg String.toList h
  exact Text.decimal_ne_nil n this

def CommentId.ofNat (n : Nat) : CommentId := ⟨String.ofList (Text.decimal n), decimal_text_ne n⟩

namespace Store

def empty : Store := ⟨[], 0⟩

def post (s : Store) (body : String) (path : Option SourcePath) (line : Option UInt32) : Store :=
  ⟨s.comments ++ [⟨.ofNat (s.lastNumber + 1), body, path, line⟩], s.lastNumber + 1⟩

/-- The ids of the comments that carry the marker. -/
def marked (s : Store) : List CommentId :=
  (s.comments.filter fun c => Marker.isIn c.body).map (·.id)

def remove (s : Store) (id : CommentId) : Store :=
  { s with comments := s.comments.filter (·.id ≠ id) }

def provider : Provider Store where
  answer
    | .list, s => (.ok s.marked, s)
    | .create text path line, s => (.ok (), s.post text path line)
    | .delete id, s => (.ok (), s.remove id)

end Store

/-- Failures to come: of the listing, of deletions by id, and of creations by a part of the text. Of
several that fit the first one counts. -/
structure Failures where
  list : Option ProviderError
  delete : List (String × ProviderError)
  create : List (String × ProviderError)
  deriving DecidableEq

namespace Failures

def none : Failures := ⟨.none, [], []⟩

def failure? (f : Failures) : Call → Option ProviderError
  | .list => f.list
  | .delete id => (f.delete.find? fun p => p.1 = id.text).map (·.2)
  | .create text _ _ => (f.create.find? fun p => Text.contains p.1 text).map (·.2)

end Failures
end PullDecoration
