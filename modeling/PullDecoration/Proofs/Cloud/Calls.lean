import PullDecoration.Proofs.Cloud.Requests
import PullDecoration.Proofs.Decoration.Schedule

/-! Passes as the service sees them. Every call but a listing is one request, which is left out
where it cannot be made. A pass without listings therefore runs through the service as it runs with
a provider, and the service gets the requests of its calls in their order. -/
namespace PullDecoration

def Http.Server.requests {σ α : Type} (server : Http.Server σ) (d : Http.Exchange α) (s : σ) :
    List Http.Request :=
  (server.transcript d s).map (·.1)

abbrev Pass.IsUnlisted {α : Type} (d : Pass α) : Prop := d.Puts (· ≠ .list)

theorem Sweep.deleteAll_unlisted (ids : List CommentId) : (deleteAll ids).IsUnlisted := by
  induction ids with
  | nil => exact .done _
  | cons id ids ih => exact .ask Call.noConfusion fun reply => ih.bind fun s => .done _

namespace Cloud
namespace Endpoint

open Http

variable {σ α β : Type} {server : Server σ} {e : Endpoint} {limit : Nat}

theorem perform_bind (e : Endpoint) (limit : Nat) (d : Pass α) (f : α → Pass β) :
    e.perform limit (d.bind f) = (e.perform limit d).bind fun
      | none => .done none
      | some a => e.perform limit (f a) := by
  induction d with
  | done a => rfl
  | ask call next ih =>
    simp only [Dialogue.ask_bind, perform, Dialogue.bind_assoc]
    congr
    funext r
    cases r with
    | none => rfl
    | some r => exact ih r

@[simp] theorem requests_done (a : α) (s : σ) : server.requests (.done a) s = [] := rfl

theorem requests_bind (d : Exchange α) (f : α → Exchange β) (s : σ) :
    server.requests (d.bind f) s =
      server.requests d s ++ server.requests (f (server.run d s).1) (server.run d s).2 := by
  simp only [Server.requests, Partner.transcript_bind, List.map_append]

/-- Whatever the replies are, the requests are of the kind that the exchange can come to. -/
theorem requests_puts (server : Server σ) {P : Request → Prop} {d : Exchange α}
    (h : d.Puts P) (s : σ) :
    ∀ r ∈ server.requests d s, P r := by
  intro r hr
  obtain ⟨t, ht, rfl⟩ := List.mem_map.mp hr
  exact server.transcript_puts h s t ht

theorem requests_send (server : Server σ) (request : Except ProviderError Request) (s : σ) :
    (server.requests (send request) s).map .ok = [request].filter Except.isOk := by
  cases request with
  | error e => rfl
  | ok r => rfl

def callRequest (e : Endpoint) : Call → Except ProviderError Request
  | .list => e.listRequest .first
  | .create text path line => e.createRequest (.of text path line)
  | .delete id => e.deleteRequest id

/-- The service as a provider whose listings are empty. -/
def unlisted (server : Server σ) (e : Endpoint) : Provider σ where
  answer
    | .list, s => (.ok [], s)
    | .create text path line, s =>
      let (r, s') := server.run (send (e.createRequest (.of text path line))) s
      (r.map fun _ => (), s')
    | .delete id, s =>
      let (r, s') := server.run (send (e.deleteRequest id)) s
      (r.map fun _ => (), s')

theorem run_reply {call : Call} (hcall : call ≠ .list) (s : σ) :
    server.run (e.reply limit call) s =
      (some ((unlisted server e).answer call s).1, ((unlisted server e).answer call s).2) := by
  cases call with
  | list => exact absurd rfl hcall
  | create text path line => simp [reply, unlisted, Partner.run_bind]
  | delete id => simp [reply, unlisted, Partner.run_bind]

theorem requests_reply (server : Server σ) (e : Endpoint) (limit : Nat) {call : Call}
    (hcall : call ≠ .list) (s : σ) :
    (server.requests (e.reply limit call) s).map .ok = [e.callRequest call].filter Except.isOk := by
  cases call with
  | list => exact absurd rfl hcall
  | create text path line =>
    simp only [reply, requests_bind, requests_done, List.append_nil, requests_send, callRequest]
  | delete id =>
    simp only [reply, requests_bind, requests_done, List.append_nil, requests_send, callRequest]

theorem run_perform {d : Pass α} (hd : d.IsUnlisted) (s : σ) :
    server.run (e.perform limit d) s =
      (some ((unlisted server e).run d s).1, ((unlisted server e).run d s).2) := by
  induction hd generalizing s with
  | done a => rfl
  | ask hcall _ ih => simp only [perform, Partner.run_bind, run_reply hcall, ih, Partner.run_ask]

theorem requests_perform (server : Server σ) (e : Endpoint) (limit : Nat)
    {d : Pass α} (hd : d.IsUnlisted) (s : σ) :
    (server.requests (e.perform limit d) s).map .ok =
      ((((unlisted server e).transcript d s).map (·.1)).map e.callRequest).filter Except.isOk := by
  induction hd generalizing s with
  | done a => rfl
  | @ask call next hcall _ ih =>
    have hfirst := requests_reply server e limit hcall s
    simp only [perform, requests_bind, List.map_append, hfirst, run_reply hcall, ih,
      Partner.transcript_ask, List.map_cons]
    exact (List.filter_append _ _).symm

theorem deleteAll_requests (server : Server σ) (e : Endpoint) (limit : Nat) (ids : List CommentId)
    (s : σ) :
    (∃ result, (server.run (e.perform limit (Sweep.deleteAll ids)) s).1 = some result) ∧
      (server.requests (e.perform limit (Sweep.deleteAll ids)) s).map .ok =
        (ids.map e.deleteRequest).filter Except.isOk := by
  have hunlisted := Sweep.deleteAll_unlisted ids
  obtain ⟨hcalls, -⟩ := Decoration.deleteAll_turns (unlisted server e) ids s
  refine ⟨⟨_, congrArg Prod.fst (run_perform hunlisted s)⟩, ?_⟩
  rw [requests_perform server e limit hunlisted, hcalls, List.map_map]
  rfl

/-- Where the comments can be listed, a deletion is sent for every id whose URL is not too long. -/
theorem deleteAll_deletes {settings : Settings} {key : PullRequestKey} {r : Request}
    (he : ofSettings settings key = .ok e) (hlist : e.listRequest .first = .ok r)
    (server : Server σ) (limit : Nat) (ids : List CommentId) (s : σ) :
    List.Forall₂ e.Deletes (ids.filter fun id => !e.isTooLong id)
      (server.requests (e.perform limit (Sweep.deleteAll ids)) s) := by
  have hsent : Except.isOk ∘ e.deleteRequest = fun id => !e.isTooLong id :=
    funext (deleteRequest_isOk (ofSettings_end he) (by decide) hlist)
  refine forall₂_of_map_ok (fun _ _ => deletes_of_deleteRequest) ?_
  rw [(deleteAll_requests server e limit ids s).2, List.filter_map, hsent]

theorem deleteAll_split {ids : List CommentId} {s : σ} {result : Sweep}
    (h : (server.run (e.perform limit (Sweep.deleteAll ids)) s).1 = some result) :
    result.deleted.Sublist ids ∧ (result.failed.map (·.id)).Sublist ids ∧
      (result.deleted ++ result.failed.map (·.id)).Perm ids := by
  rw [run_perform (Sweep.deleteAll_unlisted ids)] at h
  cases h
  obtain ⟨hcalls, hdeleted, hkept, -⟩ := Decoration.deleteAll_turns (unlisted server e) ids s
  rw [hdeleted, hkept]
  exact Decoration.deletions_split hcalls

end Endpoint
end Cloud
end PullDecoration
