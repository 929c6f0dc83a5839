import PullDecoration.Json.Record

/-! Which parts of a decoration pass are done. -/
namespace PullDecoration

structure Toggles where
  summary : Bool
  issues : Bool
  clear : Bool
  deriving DecidableEq, Repr

namespace Toggles

def all : Toggles := ⟨true, true, true⟩

open Json in
def codec : Codec Toggles :=
  .record "struct DecorationToggles" .skip
    (.cons (.required "post_summary" .bool) (.cons (.required "post_file_comments" .bool)
      (.cons (.required "delete_stale_comments" .bool) .nil)))
    (fun t => (t.summary, t.issues, t.clear, ()))
    fun (summary, issues, clear, ()) => .ok { summary, issues, clear }

end Toggles
end PullDecoration
