import PullDecoration.Proofs.Cloud.Clearing
import PullDecoration.Proofs.Url.Origin

/-! Where requests go. Every request carries the credentials, and every one goes to the scheme, host
and port of the base URL, whatever the service sends as a link to a further page: a link that leads
elsewhere, or nowhere, ends the listing. -/
namespace PullDecoration
namespace Cloud

open Http

namespace Endpoint

variable {σ α : Type} {server : Server σ} {settings : Settings}
  {key : PullRequestKey} {e : Endpoint}

theorem ofSettings_eq_ok (h : ofSettings settings key = .ok e) :
    Url.parse (withoutSlashes (settings.baseUrl.getD defaultBase)) = .ok e.base ∧ e.base.isWeb ∧
      e.commentsUrl = resource
        (withoutSlashes (settings.baseUrl.getD defaultBase)) settings.workspace
        settings.repository key := by
  obtain ⟨url, hparse, hweb, rfl⟩ := ofSettings_eq_ok_iff.mp h
  exact ⟨hparse, hweb, rfl⟩

/-- The URL of the comments, and all below it, begin with the base URL and a slash. -/
theorem commentsUrl_below (h : ofSettings settings key = .ok e) :
    ∃ tail, e.commentsUrl = withoutSlashes (settings.baseUrl.getD defaultBase) ++ "/" ++ tail := by
  obtain ⟨-, -, hcomments⟩ := ofSettings_eq_ok h
  refine ⟨"repositories/" ++ settings.workspace ++ "/" ++ settings.repository ++
    "/pullrequests/" ++ key.text ++
    "/comments", ?_⟩
  rw [hcomments, resource]
  have hslash : "/repositories/" = "/" ++ "repositories/" := by decide
  simp only [hslash, String.append_assoc]

theorem address_sharesOrigin (he : ofSettings settings key = .ok e) {tail : String} {url : Url}
    (hparse : Url.parse (e.commentsUrl ++ tail) = .ok url) : url.SharesOrigin e.base := by
  obtain ⟨hbase, hweb, -⟩ := ofSettings_eq_ok he
  obtain ⟨before, hcomments⟩ := commentsUrl_below he
  rw [hcomments, String.append_assoc] at hparse
  exact .of_front (Url.parse_below_front hbase hweb _ hparse)

theorem detach_sharesOrigin {u v : Url} (h : u.SharesOrigin v) : (detach u).1.SharesOrigin v := by
  unfold detach
  split
  · exact ⟨h.scheme, h.host, h.port⟩
  · exact h

section Requests

variable (he : ofSettings settings key = .ok e)
include he

theorem listRequest_sharesOrigin {link : Link} {r : Request} (h : e.listRequest link = .ok r) :
    r.url.SharesOrigin e.base := by
  cases link with
  | first =>
    obtain ⟨url, hurl, hrequest⟩ := bind_eq_ok.mp h
    obtain ⟨-, hsent, -⟩ := request_eq_ok hrequest
    have hparse : Url.parse (e.commentsUrl ++ "") = .ok url := by simpa using mapError_eq_ok.mp hurl
    have hshares := address_sharesOrigin he hparse
    rw [hsent]
    exact detach_sharesOrigin ⟨hshares.scheme, hshares.host, hshares.port⟩
  | next text =>
    obtain ⟨url, hurl, hrequest⟩ := bind_eq_ok.mp h
    obtain ⟨-, hsent, -⟩ := request_eq_ok hrequest
    obtain ⟨-, horigin⟩ := nextPage_eq_ok hurl
    have hweb : url.isWeb := by
      have hsendable := request_isOk e .get url none
      rw [hrequest] at hsendable
      exact (isSendable_detach.mp hsendable.symm).1
    obtain ⟨-, hbase, -⟩ := ofSettings_eq_ok he
    rw [hsent]
    exact detach_sharesOrigin (Url.sharesOrigin_of_sameOrigin hweb hbase horigin)

theorem createRequest_sharesOrigin {c : NewComment} {r : Request} (h : e.createRequest c = .ok r) :
    r.url.SharesOrigin e.base := by
  obtain ⟨url, hparse, hsent⟩ := (creates_of_createRequest h).url
  have hparse : Url.parse (e.commentsUrl ++ "") = .ok url := by simpa using hparse
  rw [hsent]
  exact detach_sharesOrigin (address_sharesOrigin he hparse)

theorem deleteRequest_sharesOrigin {id : CommentId} {r : Request} (h : e.deleteRequest id = .ok r) :
    r.url.SharesOrigin e.base := by
  obtain ⟨url, hparse, hsent⟩ := (deletes_of_deleteRequest h).url
  rw [String.append_assoc] at hparse
  rw [hsent]
  exact detach_sharesOrigin (address_sharesOrigin he hparse)

/-- Whatever replies come, an exchange sends requests to the origin of the base URL only. -/
theorem perform_puts (limit : Nat) (d : Pass α) :
    (e.perform limit d).Puts fun r => r.url.SharesOrigin e.base :=
  puts_of_requests (fun _ _ => listRequest_sharesOrigin he)
  (fun _ _ => createRequest_sharesOrigin he)
    (fun _ _ => deleteRequest_sharesOrigin he) limit d

end Requests

theorem pageFails_of_origin {text : String} (server : Server σ) (s : σ)
    (h : ∀ url, Url.parse text = .ok url → url.origin? ≠ e.base.origin?) :
    ∃ message, PageFails server e (.next text) s [] (.parse message) s := by
  cases hparse : Url.parse text with
  | error err => exact ⟨_, .malformed hparse⟩
  | ok url =>
    have hforeign : url.sameOrigin e.base = false := by
      have hne := h url hparse
      unfold Url.sameOrigin
      split
      · rename_i hu hbase
        rw [hu, hbase] at hne
        simpa using hne
      · rfl
    exact ⟨_, .foreign hparse hforeign⟩

end Endpoint

open Endpoint in
/-- Credentials never leave the origin. Whatever a pass does and the service replies, every request
has the scheme, the host and the port of the base URL; and where a page has a link that is neither
blank nor followed before and that is no URL of that origin, the listing ends with an error and
nothing is sent for the link. -/
theorem requests_share_origin {σ α : Type} {settings : Settings}
    {key : PullRequestKey} {e : Endpoint} (he : Endpoint.ofSettings settings key = .ok e)
    (server : Server σ) (limit : Nat) (d : Pass α) (s : σ) :
    Url.parse (withoutSlashes (settings.baseUrl.getD defaultBase)) = .ok e.base ∧
      (∀ r ∈ server.requests (e.perform limit d) s, r.url.SharesOrigin e.base) ∧
      ∀ fetches pages followed text between,
        Reads server e (.start s) fetches pages ⟨followed, some (.next text), between⟩ →
        pages.length < limit → (∀ url, Url.parse text = .ok url → url.origin? ≠ e.base.origin?) →
        ∃ message, server.run (e.reply limit .list) s = (some (.error (.parse message)), between) ∧
          server.requests (e.reply limit .list) s = fetches := by
  refine ⟨(ofSettings_eq_ok he).1, fun r hr => ?_, ?_⟩
  · obtain ⟨t, ht, rfl⟩ := List.mem_map.mp hr
    exact server.transcript_puts (perform_puts he limit d) s t ht
  · intro fetches pages followed text between hreads hlimit horigin
    obtain ⟨message, hfails⟩ := pageFails_of_origin server between horigin
    obtain ⟨hrun, hsent⟩ := reply_of_fails hreads hfails hlimit
    exact ⟨message, hrun, hsent.trans (List.append_nil fetches)⟩

def luringPage : Page Entry :=
  ⟨[⟨.number 3, some (Marker.put "stale"), false⟩],
    some "https://api.bitbucket.org@bitbucket.example.com/2.0/comments?page=2"⟩

def luringServer : Server Unit := ⟨fun _ s => (some (sampleReply luringPage), s)⟩

open Endpoint in
theorem luringPage_not_followed :
    Endpoint.ofSettings sampleSettings ⟨"7", by decide⟩ = .ok sampleEndpoint ∧
      (∀ r ∈ luringServer.requests (sampleEndpoint.perform 2 Sweep.pass) (),
        r.url.SharesOrigin sampleEndpoint.base) ∧
      ∃ r message, Reads luringServer sampleEndpoint (.start ()) [r] [luringPage]
          ⟨luringPage.next.toList, luringPage.next.map .next, ()⟩ ∧
        luringServer.run (sampleEndpoint.reply 2 .list) () = (some (.error (.parse message)), ()) ∧
        luringServer.requests (sampleEndpoint.reply 2 .list) () = [r] := by
  obtain ⟨-, hshares, hending⟩ :=
    requests_share_origin sampleEndpoint_eq luringServer 2 Sweep.pass ()
  obtain ⟨r, hr⟩ := sampleEndpoint_first
  have hpage : Delivers (luringServer.answer r ()).1 luringPage :=
    (isPage_sampleReply (by simp [luringPage, UInt64.size])).delivers
  have hreads : Reads luringServer sampleEndpoint (.start ()) [r] [luringPage]
      ⟨luringPage.next.toList, luringPage.next.map .next, ()⟩ :=
    .more hr hpage rfl (by decide) List.not_mem_nil (.here _)
  have helsewhere :
    (Url.parse "https://api.bitbucket.org@bitbucket.example.com/2.0/comments?page=2").map
      (fun url => decide (url.origin? = sampleEndpoint.base.origin?)) =
        .ok false := by decide +kernel
  obtain ⟨message, hrun, hsent⟩ := hending _ _ _ _ _ hreads (by decide) fun url hparse => by
    rw [hparse] at helsewhere
    simpa [Except.map] using helsewhere
  exact ⟨sampleEndpoint_eq, hshares, r, message, hreads, hrun, hsent⟩

end Cloud
end PullDecoration
