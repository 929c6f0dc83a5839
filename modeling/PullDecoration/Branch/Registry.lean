import PullDecoration.Branch.Kind
import PullDecoration.Identifier
import PullDecoration.Json.Record

/-! The branches that the host has on record. Records are looked up by name or by uuid, and the first one
that fits counts. -/
namespace PullDecoration

structure BranchRecord where
  name : BranchName
  type : BranchType
  uuid : BranchUuid
  isMain : Bool
  deriving DecidableEq

structure Registry where
  defaultBranch : BranchName
  records : List BranchRecord
  deriving DecidableEq

namespace BranchRecord

open Json in
def codec : Codec BranchRecord :=
  .record "struct BranchRecord" .skip
    (.cons (.required "name" Identifier.codec) (.cons (.required "type" BranchType.codec)
      (.cons (.required "uuid" Identifier.codec) (.cons (.defaulted "is_main" .bool false) .nil))))
    (fun r => (r.name, r.type, r.uuid, r.isMain, ()))
    fun (name, type, uuid, isMain, ()) => .ok { name, type, uuid, isMain }

end BranchRecord

namespace Registry

/-- The registry of a project that was never analysed. -/
def empty : Registry := ⟨conventionalMain, []⟩

def isEmpty (g : Registry) : Bool := g.records.isEmpty

def find? (g : Registry) (name : String) : Option BranchRecord :=
  g.records.find? (·.name.text = name)

def findByUuid? (g : Registry) (uuid : BranchUuid) : Option BranchRecord :=
  g.records.find? (·.uuid = uuid)

/-- The registry with further records behind its own. -/
def append (g : Registry) (more : List BranchRecord) : Registry :=
  { g with records := g.records ++ more }

open Json in
def codec : Codec Registry :=
  .record "struct KnownBranches" .skip
    (.cons (.required "default_branch" Identifier.codec)
      (.cons (.defaulted "branches" (.list BranchRecord.codec) []) .nil))
    (fun g => (g.defaultBranch, g.records, ()))
    fun (defaultBranch, records, ()) => .ok { defaultBranch, records }

theorem find?_name {g : Registry} {name : String} {r : BranchRecord} (h : g.find? name = some r) :
    r.name.text = name := by
  simpa using List.find?_some h

theorem find?_append (g : Registry) (more : List BranchRecord) (name : String) :
    (g.append more).find? name = (g.find? name).or (more.find? (·.name.text = name)) := by
  simp [find?, append, List.find?_append]

end Registry
end PullDecoration
