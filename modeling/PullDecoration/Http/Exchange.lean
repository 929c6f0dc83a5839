import PullDecoration.Dialogue
import PullDecoration.Text.Utf8
import PullDecoration.Url.Basic

/-! Exchanges of HTTP requests and replies. A server may leave a request without a reply, and a reply may
break off before its body is complete. -/
namespace PullDecoration
namespace Http

inductive Method
  | get | post | delete
  deriving DecidableEq, Repr

def Method.name : Method → String
  | .get => "GET"
  | .post => "POST"
  | .delete => "DELETE"

/-- Headers go by their names in small letters; a name may stand there more than once. -/
structure Request where
  method : Method
  url : Url
  headers : List (String × String)
  body : String
  deriving DecidableEq

namespace Request

/-- The values of all headers of that name. -/
def values (r : Request) (name : String) : List String :=
  (r.headers.filter (·.1 = name)).map (·.2)

end Request

/-- There is no body where it breaks off. -/
structure Response where
  status : UInt16
  body : Option (List UInt8)
  deriving DecidableEq

/-- The text of the whole body. -/
def Response.text? (r : Response) : Option String := r.body.map Utf8.decode

abbrev Outcome := Option Response

/-- Work done through requests. -/
abbrev Exchange (α : Type) : Type := Dialogue (fun _ : Request => Outcome) α

abbrev Server (σ : Type) : Type := Partner (fun _ : Request => Outcome) σ

/-- A server that is never reached. -/
def Server.unreachable : Server Unit := ⟨fun _ s => (none, s)⟩

end Http
end PullDecoration
