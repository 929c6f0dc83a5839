import PullDecoration.Provider.Pass
import PullDecoration.Json.Record

/-! Removing the comments of earlier passes: all marked comments are listed and then deleted one by one.
A deletion that fails is noted and does not hold up the others. -/
namespace PullDecoration

structure FailedDeletion where
  id : CommentId
  error : ProviderError
  deriving DecidableEq

/-- The comments that are gone and those that could not be deleted. -/
structure Sweep where
  deleted : List CommentId
  failed : List FailedDeletion
  deriving DecidableEq

open Json in
def FailedDeletion.codec : Codec FailedDeletion :=
  .record "struct FailedDeletion" .skip
    (.cons (.required "id" Identifier.codec) (.cons (.required "error" ProviderError.codec) .nil))
    (fun f => (f.id, f.error, ())) fun (id, error, ()) => .ok { id, error }

namespace Sweep

def none : Sweep := ⟨[], []⟩

/-- Notes what became of a comment ahead of the others. -/
def note (id : CommentId) (reply : Except ProviderError Unit) (s : Sweep) : Sweep :=
  match reply with
  | .ok () => { s with deleted := id :: s.deleted }
  | .error error => { s with failed := ⟨id, error⟩ :: s.failed }

def deleteAll : List CommentId → Pass Sweep
  | [] => .done none
  | id :: ids => .ask (.delete id) fun reply => (deleteAll ids).bind fun s => .done (s.note id reply)

/-- Without a listing nothing is deleted. -/
def pass : Pass (Except ProviderError Sweep) :=
  .ask .list fun
    | .error e => .done (.error e)
    | .ok ids => (deleteAll ids).bind fun s => .done (.ok s)

open Json in
def codec : Codec Sweep :=
  .record "struct ClearOutcome" .skip
    (.cons (.required "deleted" (.list Identifier.codec))
      (.cons (.required "failed" (.list FailedDeletion.codec)) .nil))
    (fun s => (s.deleted, s.failed, ())) fun (deleted, failed, ()) => .ok { deleted, failed }

end Sweep
end PullDecoration
