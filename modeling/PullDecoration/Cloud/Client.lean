import PullDecoration.Cloud.Comment
import PullDecoration.Cloud.Endpoint
import PullDecoration.Cloud.Page
import PullDecoration.Http.Status
import PullDecoration.Provider.Marker
import PullDecoration.Provider.Pass

/-! The service as a provider: each call becomes one request, and a listing one request for every page. A
reply whose status is no success is an error with the text of its body. -/
namespace PullDecoration
namespace Cloud

open Http

/-- The query for comments that carry the mark. -/
def markedFilter : String := "(deleted = false AND content.raw ~ \"" ++ Marker.token ++ "\")"

/-- What a refusal says: its body, or the phrase of its status if the body is blank or incomplete. -/
def complaint (r : Response) : String :=
  match r.text?.filter fun body => !Text.isBlank body with
  | some body => body
  | none => (reason? r.status).getD "request failed"

/-- The reply to a request, if there is one and it is a success. -/
def judge (url : Url) : Outcome → Except ProviderError Response
  | none => .error (.transport ("error sending request for url (" ++ url.text ++ ")"))
  | some r => if isSuccess r.status then .ok r else .error (.api r.status (complaint r))

/-- What the codec reads in the body of a reply. -/
def content {α : Type} (c : Json.Codec α) (r : Response) : Except ProviderError α :=
  match r.text? with
  | none => .error (.parse "error decoding response body")
  | some body => (c.decode body).mapError fun e => .parse e.message

/-- A request that cannot be made is not sent. -/
def send (request : Except ProviderError Request) : Exchange (Except ProviderError Response) :=
  match request with
  | .error e => .done (.error e)
  | .ok r => .ask r fun outcome => .done (judge r.url outcome)

namespace Endpoint

def listRequest (e : Endpoint) : Link → Except ProviderError Request
  | .first => do e.request .get ((← address e.commentsUrl).addParameter "q" markedFilter) none
  | .next link => do e.request .get (← e.nextPage link) none

def createRequest (e : Endpoint) (c : NewComment) : Except ProviderError Request := do
  e.request .post (← address e.commentsUrl) (some (NewComment.codec.write c))

def deleteRequest (e : Endpoint) (id : CommentId) : Except ProviderError Request := do
  e.request .delete (← address (e.commentsUrl ++ "/" ++ id.text)) none

def fetch (e : Endpoint) (link : Link) : Exchange (Except ProviderError (Page Entry)) :=
  (send (e.listRequest link)).bind fun reply => .done (reply.bind (content (Page.codec Entry.codec)))

/-- The entries of all pages. There is no result after `limit` pages. -/
def entries (e : Endpoint) (limit : Nat) : Exchange (Option (Except ProviderError (List Entry))) :=
  (Page.collect limit).through e.fetch

/-- The requests behind a call. -/
def reply (e : Endpoint) (limit : Nat) : (call : Call) → Exchange (Option (Reply call))
  | .list => (e.entries limit).bind fun found => .done (found.map fun r => r.map Entry.decorationIds)
  | .create text path line => (send (e.createRequest (.of text path line))).bind fun r =>
    .done (some (r.map fun _ => ()))
  | .delete id => (send (e.deleteRequest id)).bind fun r => .done (some (r.map fun _ => ()))

/-- A pass through the service. There is no result if a listing goes on for more than `limit` pages. -/
def perform {α : Type} (e : Endpoint) (limit : Nat) : Pass α → Exchange (Option α)
  | .done a => .done (some a)
  | .ask call next => (e.reply limit call).bind fun
    | none => .done none
    | some r => e.perform limit (next r)

end Endpoint
end Cloud
end PullDecoration
