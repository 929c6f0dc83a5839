import PullDecoration.Proofs.Cloud.Script
import PullDecoration.Proofs.Cloud.Wire
import PullDecoration.Proofs.Provider.Marker
import PullDecoration.Proofs.Text.Trim
import PullDecoration.Proofs.Text.Utf8

/-! Clearing through the service. However the listing is cut into pages, every page is fetched once,
and then the deletion of every comment that counts as a decoration is attempted once, in the order
of the listing. An id that makes the URL too long to be sent is reported as a deletion that
failed. -/
namespace PullDecoration

namespace Cloud

open Http

/-- The comment of the entry is to go, under this id: it is not deleted yet, a body that is given
holds the token, and the id is the entry's number in decimal or its text without blanks around
it. -/
structure Entry.IsTarget (e : Entry) (id : CommentId) : Prop where
  live : e.deleted = false
  marked : ∀ body, e.body = some body → Marker.token.toList <:+: body.toList
  named : (∃ n, e.id = .number n ∧ id.text = String.ofList (Text.decimal n)) ∨
    ∃ s, e.id = .text s ∧ id.text = Text.trim s

/-- The ids under which the comments of the entries are to go, in the order of the entries. -/
inductive Entry.Targets : List Entry → List CommentId → Prop
  | nil : Targets [] []
  | target {e : Entry} {id : CommentId} {es : List Entry} {ids : List CommentId}
      (he : e.IsTarget id) (h : Targets es ids) : Targets (e :: es) (id :: ids)
  | other {e : Entry} {es : List Entry} {ids : List CommentId} (he : ∀ id, ¬ e.IsTarget id)
      (h : Targets es ids) : Targets (e :: es) ids

namespace Entry

theorem isTarget_iff {e : Entry} {id : CommentId} :
    e.IsTarget id ↔ e.isDecoration = true ∧ e.id.commentId? = some id := by
  have hnamed : ((∃ n, e.id = .number n ∧ id.text = String.ofList (Text.decimal n)) ∨
      ∃ s, e.id = .text s ∧ id.text = Text.trim s) ↔ e.id.commentId? = some id := by
    cases e.id <;> simp [EntryId.commentId?, Identifier.ofString?_eq_some, eq_comm (a := id.text)]
  have hmarked : (∀ body, e.body = some body → Marker.token.toList <:+: body.toList) ↔
      e.body.all Marker.isIn = true := by
    cases e.body <;> simp [Marker.isIn_iff]
  rw [← hnamed, isDecoration, Bool.and_eq_true, Bool.not_eq_true', ← hmarked]
  exact ⟨fun h => ⟨⟨h.live, h.marked⟩, h.named⟩, fun h => ⟨h.1.1, h.1.2, h.2⟩⟩

theorem targets_decorationIds (es : List Entry) : Targets es (decorationIds es) := by
  induction es with
  | nil => exact .nil
  | cons e es ih =>
    cases hdecoration : e.isDecoration with
    | false =>
      have hother : ∀ id, ¬ e.IsTarget id := by simp [isTarget_iff, hdecoration]
      simpa [decorationIds, hdecoration] using ih.other hother
    | true =>
      cases hid : e.id.commentId? with
      | none =>
        have hother : ∀ id, ¬ e.IsTarget id := by simp [isTarget_iff, hid]
        simpa [decorationIds, hdecoration, hid] using ih.other hother
      | some id =>
        have htarget : e.IsTarget id := isTarget_iff.mpr ⟨hdecoration, hid⟩
        simpa [decorationIds, hdecoration, hid] using ih.target htarget

end Entry

namespace Endpoint

variable {σ : Type} {server : Server σ} {e : Endpoint} {s s' : σ}

/-- The reply is a page: a success, whose body is a text of the page. -/
def IsPage (reply : Outcome) (page : Page Entry) : Prop :=
  ∃ r body v, reply = some r ∧ isSuccess r.status = true ∧ r.text? = some body ∧
    Json.IsTextOf body v ∧ page.Represented v

theorem IsPage.delivers {reply : Outcome} {page : Page Entry} (h : IsPage reply page) :
    Delivers reply page := by
  obtain ⟨r, body, v, hreply, hstatus, htext, hbody, hv⟩ := h
  exact ⟨r, body, hreply, hstatus, htext, hv.decode hbody⟩

/-- From this state on the server has the pages behind a link: each is sent for the link to it,
which is one that can be requested, and the last one names no further page, or a blank one. -/
inductive Serves (server : Server σ) (e : Endpoint) :
    Link → σ → List Link → List (Page Entry) → σ → Prop
  | last {link : Link} {s : σ} {r : Request} {page : Page Entry}
      (hrequest : e.listRequest link = .ok r) (hpage : IsPage (server.answer r s).1 page)
      (hend : ∀ text, page.next = some text → Text.isBlank text = true) :
      Serves server e link s [link] [page] (server.answer r s).2
  | more {link : Link} {s s' : σ} {r : Request} {page : Page Entry}
      {text : String} {links : List Link} {pages : List (Page Entry)}
      (hrequest : e.listRequest link = .ok r) (hpage : IsPage (server.answer r s).1 page)
      (hnext : page.next = some text) (htext : Text.isBlank text = false)
      (h : Serves server e (.next text) (server.answer r s).2 links pages s') :
      Serves server e link s (link :: links) (page :: pages) s'

theorem Serves.links_eq {link : Link} {links : List Link} {pages : List (Page Entry)}
    (h : Serves server e link s links pages s') : links = link :: links.tail := by
  cases h <;> rfl

theorem Serves.reads {link : Link} {links : List Link} {pages : List (Page Entry)}
    (h : Serves server e link s links pages s') {followed : List String}
    (hfollowed : ∀ text ∈ followed, Link.next text ∉ links.tail) (hdistinct : links.Nodup) :
    ∃ requests followed',
    Reads server e ⟨followed, some link, s⟩ requests pages ⟨followed', none, s'⟩ ∧
      requests.map .ok = links.map e.listRequest := by
  induction h generalizing followed with
  | @last link s r page hrequest hpage hend =>
    have hlast : Reads server e ⟨followed, some link, s⟩ [r] [page]
        ⟨followed, none, (server.answer r s).2⟩ :=
      .last hrequest hpage.delivers fun text htext => .inl (hend text htext)
    exact ⟨[r], followed, hlast, by simp [hrequest]⟩
  | @more link s s' r page text links pages hrequest hpage hnext htext h ih =>
    have hfresh : text ∉ followed := by
      intro hmem
      have hnotMem := hfollowed text hmem
      rw [List.tail_cons, h.links_eq] at hnotMem
      exact hnotMem List.mem_cons_self
    obtain ⟨-, hdistinct⟩ := List.nodup_cons.mp hdistinct
    -- The link that is followed now comes first among those that are left, and so not again.
    have hrest : ∀ t ∈ text :: followed, Link.next t ∉ links.tail := by
      intro t ht hmem
      rcases List.mem_cons.mp ht with rfl | ht
      · rw [h.links_eq] at hdistinct
        exact (List.nodup_cons.mp hdistinct).1 hmem
      · exact hfollowed t ht (List.mem_of_mem_tail hmem)
    obtain ⟨requests, followed', hreads, hrequests⟩ := ih hrest hdistinct
    exact ⟨r :: requests, followed', .more hrequest hpage.delivers hnext htext hfresh hreads,
      by simp [hrequest, hrequests]⟩

theorem perform_sweep (e : Endpoint) (limit : Nat) :
    e.perform limit Sweep.pass = ((Page.walk limit [] .first).through e.fetch).bind fun
      | none => .done none
      | some (.error err) => .done (some (.error err))
      | some (.ok es) =>
        (e.perform limit (Sweep.deleteAll (Entry.decorationIds es))).bind fun result =>
        .done (result.map .ok) := by
  simp only [Sweep.pass, perform, reply, entries, Page.collect, Dialogue.bind_assoc]
  congr
  funext found
  rcases found with - | (err | es)
  · rfl
  · rfl
  · simp only [Dialogue.done_bind, Option.map_some, Except.map, perform_bind]
    congr
    funext result
    cases result <;> rfl

theorem sweep_of_reads {limit : Nat} {fetches : List Request} {pages : List (Page Entry)}
    {followed : List String} (hreads : Reads server e (.start s) fetches pages ⟨followed, none, s'⟩)
    (hlimit : pages.length ≤ limit) :
    let deletions :=
      e.perform limit (Sweep.deleteAll (Entry.decorationIds (pages.flatMap (·.values))))
    server.run (e.perform limit Sweep.pass) s =
        ((server.run deletions s').1.map .ok, (server.run deletions s').2) ∧
      server.requests (e.perform limit Sweep.pass) s = fetches ++ server.requests deletions s' := by
  intro deletions
  obtain ⟨hrun, hsent⟩ := entries_of_reads hreads hlimit
  have hentries : (Page.walk limit [] .first).through e.fetch = e.entries limit := rfl
  rw [perform_sweep, hentries]
  simp only [Partner.run_bind, requests_bind, hrun, hsent, Partner.run_done,
    requests_done, List.append_nil]
  exact ⟨rfl, rfl⟩

/-- Comments are deleted one after the other, with these requests and this result. Each request has
its reply before the next one; a comment whose URL is too long goes without one. -/
inductive Deletions (server : Server σ) (e : Endpoint) :
    List CommentId → σ → List Request → Sweep → σ → Prop
  | nil (s : σ) : Deletions server e [] s [] ⟨[], []⟩ s
  | gone {id : CommentId} {ids : List CommentId} {s s' : σ} {r : Request} {reply : Response}
      {requests : List Request} {w : Sweep} (hdeletes : e.Deletes id r)
      (hlength : r.url.chars.length ≤ urlLimit) (hreply : (server.answer r s).1 = some reply)
      (hstatus : isSuccess reply.status = true)
      (h : Deletions server e ids (server.answer r s).2 requests w s') :
      Deletions server e (id :: ids) s (r :: requests) ⟨id :: w.deleted, w.failed⟩ s'
  | kept {id : CommentId} {ids : List CommentId} {s s' : σ} {r : Request} {err : ProviderError}
      {requests : List Request} {w : Sweep} (hdeletes : e.Deletes id r)
      (hlength : r.url.chars.length ≤ urlLimit)
      (herr : judge r.url (server.answer r s).1 = .error err)
      (h : Deletions server e ids (server.answer r s).2 requests w s') :
      Deletions server e (id :: ids) s (r :: requests) ⟨w.deleted, ⟨id, err⟩ :: w.failed⟩ s'
  | tooLong {id : CommentId} {ids : List CommentId} {s s' : σ} {url : Url} {requests : List Request}
      {w : Sweep} (hparse : Url.parse (e.commentsUrl ++ "/" ++ id.text) = .ok url)
      (hlength : urlLimit < (detach url).1.chars.length)
      (h : Deletions server e ids s requests w s') :
      Deletions server e (id :: ids) s requests ⟨w.deleted,
        ⟨id, .transport ("builder error for url (" ++ (detach url).1.text ++ ")")⟩ :: w.failed⟩ s'

/-- A deletion comes first, and its outcome is noted ahead of those of the others. -/
theorem perform_deleteAll_cons (e : Endpoint) (limit : Nat) (id : CommentId)
    (ids : List CommentId) :
    e.perform limit (Sweep.deleteAll (id :: ids)) = (send (e.deleteRequest id)).bind fun reply =>
      (e.perform limit (Sweep.deleteAll ids)).bind fun result =>
        .done (result.map (·.note id (reply.map fun _ => ()))) := by
  simp only [Sweep.deleteAll, perform, reply, Dialogue.bind_assoc, Dialogue.done_bind, perform_bind]
  congr
  funext reply
  congr
  funext result
  cases result <;> rfl

/-- Where the comments can be listed, a pass that deletes some comes to an end with each of them. -/
theorem deleteAll_deletions {settings : Settings} {key : PullRequestKey} {r : Request}
    (he : ofSettings settings key = .ok e) (hlist : e.listRequest .first = .ok r)
    (server : Server σ) (limit : Nat) (ids : List CommentId) (s : σ) :
    let deletions := e.perform limit (Sweep.deleteAll ids)
    ∃ result final, server.run deletions s = (some result, final) ∧
      Deletions server e ids s (server.requests deletions s) result final := by
  induction ids generalizing s with
  | nil => exact ⟨_, _, rfl, .nil s⟩
  | cons id ids ih =>
    simp only [perform_deleteAll_cons, Partner.run_bind, requests_bind,
      Partner.run_done, requests_done, List.append_nil]
    cases hrequest : e.deleteRequest id with
    | error err =>
      obtain ⟨url, hparse, hlength, rfl⟩ :=
        deleteRequest_eq_error (ofSettings_end he) (by decide) hlist hrequest
      obtain ⟨w, final, hothers, h⟩ := ih s
      simp only [send, Partner.run_done, requests_done, hothers, List.nil_append]
      exact ⟨_, _, rfl, .tooLong hparse hlength h⟩
    | ok r =>
      obtain ⟨w, final, hothers, h⟩ := ih (server.answer r s).2
      have hdeletes := deletes_of_deleteRequest hrequest
      have hlength := deleteRequest_length hrequest
      have hsent : server.requests (send (.ok r)) s = [r] := rfl
      have hrun : server.run (send (.ok r)) s =
        (judge r.url (server.answer r s).1, (server.answer r s).2) := rfl
      simp only [hsent, hrun, hothers]
      cases hreply : judge r.url (server.answer r s).1 with
      | error err => exact ⟨_, _, rfl, .kept hdeletes hlength hreply h⟩
      | ok reply =>
        obtain ⟨hanswer, hstatus⟩ := judge_eq_ok.mp hreply
        exact ⟨_, _, rfl, .gone hdeletes hlength hanswer hstatus h⟩

/-- A sweep that has a result has read the pages of a listing to their end. -/
theorem reads_of_sweep {limit : Nat} {result : Sweep}
    (h : (server.run (e.perform limit Sweep.pass) s).1 = some (.ok result)) :
    ∃ fetches pages followed s', Reads server e (.start s) fetches pages ⟨followed, none, s'⟩ ∧
      pages.length ≤ limit := by
  rw [perform_sweep, Partner.run_bind] at h
  cases hfound : (server.run ((Page.walk limit [] .first).through e.fetch) s).1 with
  | none => simp [hfound] at h
  | some found =>
    cases found with
    | error err => simp [hfound] at h
    | ok es =>
      have hrest : (server.run (e.rest limit (.start s)) (Standing.start s).state).1 =
        some (.ok es) := hfound
      exact reads_of_rest hrest

end Endpoint

open Endpoint in
/-- However the entries of a listing are cut into pages, every page is fetched once and in turn, and
then the deletion of every target among the entries is attempted, once and in their order, and none
besides. It is sent for each whose URL is not too long; the others are reported with what keeps them
from being sent. -/
theorem sweep_attempts_targets {σ : Type} {server : Server σ} {settings : Settings}
    {key : PullRequestKey} {e : Endpoint} {s s' : σ} {links : List Link} {pages : List (Page Entry)}
    {limit : Nat} (he : Endpoint.ofSettings settings key = .ok e)
    (hpages : Serves server e .first s links pages s') (hdistinct : links.Nodup)
    (hlimit : pages.length ≤ limit) :
    let ids := Entry.decorationIds (pages.flatMap (·.values))
    Entry.Targets (pages.flatMap (·.values)) ids ∧
      ∃ result final fetches deletions,
        server.run (e.perform limit Sweep.pass) s = (some (.ok result), final) ∧
        server.requests (e.perform limit Sweep.pass) s = fetches ++ deletions ∧
        List.Forall₂ e.Fetches links fetches ∧
        List.Forall₂ e.Deletes (ids.filter fun id => !e.isTooLong id) deletions ∧
        Deletions server e ids s' deletions result final := by
  intro ids
  obtain ⟨fetches, followed, hreads, hfetches⟩ := hpages.reads (List.forall_mem_nil _) hdistinct
  obtain ⟨hrun, hsent⟩ := sweep_of_reads hreads hlimit
  obtain ⟨r, hr⟩ := hreads.first_sent
  obtain ⟨result, final, hresult, hdeletions⟩ := deleteAll_deletions he hr server limit ids s'
  refine ⟨Entry.targets_decorationIds _, result, final, fetches, _, ?_, hsent,
    forall₂_of_map_ok (fun _ _ => fetches_of_listRequest) hfetches,
    deleteAll_deletes he hr server limit ids s', hdeletions⟩
  rw [hrun, hresult]
  rfl

/-- A pull request with two pages of comments. On the first there is one comment of this system and
one of a reviewer, on the second one without a body under a text, and others that are deleted or
have no id. -/
def samplePages : List (Page Entry) :=
  [⟨[⟨.number 3, some (Marker.put "stale"), false⟩, ⟨.number 4, some "LGTM", false⟩],
      some "https://api.bitbucket.org/2.0/comments?page=2"⟩,
    ⟨[⟨.text " c5 ", none, false⟩, ⟨.number 6, none, true⟩, ⟨.text "  ", none, false⟩], some " "⟩]

def sampleSettings : Settings := ⟨none, "team", "app", ⟨"bot", "secret"⟩, 30, .all⟩

def sampleEndpoint : Endpoint where
  base :=
    ⟨Url.https, [], [], some (.name "api.bitbucket.org".toList), none,
      .segments [['2', '.', '0']], none, none⟩
  commentsUrl := "https://api.bitbucket.org/2.0/repositories/team/app/pullrequests/7/comments"
  credentials := ⟨"bot", "secret"⟩

def sampleReply (page : Page Entry) : Response :=
  ⟨200, some (Utf8.encode ((Page.codec Entry.codec).write page).text.toList)⟩

theorem isPage_sampleReply {page : Page Entry}
    (hsize : ∀ e ∈ page.values, ∀ n, e.id = .number n → n < UInt64.size) :
    Endpoint.IsPage (some (sampleReply page)) page := by
  have htext : (sampleReply page).text? = some ((Page.codec Entry.codec).write page).text := by
    rw [sampleReply, Response.text?, Option.map_some, Utf8.decode_encode, String.ofList_toList]
  exact ⟨_, _, _, rfl, rfl, htext, Json.Value.isTextOf_text _, Page.represented_write hsize⟩

theorem sampleReply_isPage {page : Page Entry} (hpage : page ∈ samplePages) :
    Endpoint.IsPage (some (sampleReply page)) page := by
  have hsize : ∀ page ∈ samplePages, ∀ e ∈ page.values, ∀ n, e.id = .number n →
      n < UInt64.size := by
    simp [samplePages, UInt64.size]
  exact isPage_sampleReply (hsize page hpage)

def sampleServer : Server Nat where
  answer _ n := (samplePages[n]?.map sampleReply, n + 1)

theorem sampleEndpoint_eq :
    Endpoint.ofSettings sampleSettings ⟨"7", by decide⟩ = .ok sampleEndpoint := by
  decide +kernel

theorem sampleEndpoint_first : ∃ r, sampleEndpoint.listRequest .first = .ok r :=
  isOk_iff.mp (by decide +kernel)

theorem sampleEndpoint_second :
    ∃ r, sampleEndpoint.listRequest (.next "https://api.bitbucket.org/2.0/comments?page=2") =
      .ok r :=
  isOk_iff.mp (by decide +kernel)

theorem samplePages_served :
    sampleEndpoint.Serves sampleServer .first 0
      [.first, .next "https://api.bitbucket.org/2.0/comments?page=2"] samplePages 2 := by
  obtain ⟨r, hr⟩ := sampleEndpoint_first
  obtain ⟨r', hr'⟩ := sampleEndpoint_second
  exact .more hr (sampleReply_isPage (by simp [samplePages])) rfl (by decide)
    (.last hr' (sampleReply_isPage (by simp [samplePages])) (by simp; decide))

theorem samplePages_ids :
    Entry.decorationIds (samplePages.flatMap (·.values)) =
      [⟨"3", by decide⟩, ⟨"c5", by decide⟩] := by
  decide +kernel

theorem sampleIds_short :
    ([⟨"3", by decide⟩, ⟨"c5", by decide⟩] : List CommentId).filter
      (fun id => !sampleEndpoint.isTooLong id) = [⟨"3", by decide⟩, ⟨"c5", by decide⟩] := by
  decide +kernel

theorem samplePages_swept :
    Endpoint.ofSettings sampleSettings ⟨"7", by decide⟩ = .ok sampleEndpoint ∧
      sampleEndpoint.Serves sampleServer .first 0
        [.first, .next "https://api.bitbucket.org/2.0/comments?page=2"] samplePages 2 ∧
      ∃ result final fetches deletions,
        sampleServer.run (sampleEndpoint.perform 2 Sweep.pass) 0 = (some (.ok result), final) ∧
        sampleServer.requests (sampleEndpoint.perform 2 Sweep.pass) 0 = fetches ++ deletions ∧
        List.Forall₂ sampleEndpoint.Fetches
          [.first, .next "https://api.bitbucket.org/2.0/comments?page=2"] fetches ∧
        List.Forall₂ sampleEndpoint.Deletes [⟨"3", by decide⟩, ⟨"c5", by decide⟩] deletions ∧
        Endpoint.Deletions sampleServer sampleEndpoint
          [⟨"3", by decide⟩, ⟨"c5", by decide⟩] 2 deletions
          result final := by
  obtain ⟨-, result, final, fetches, deletions, hrun, hrequests, hfetches, hdeletes, hdeletions⟩ :=
    sweep_attempts_targets sampleEndpoint_eq samplePages_served (by decide)
      (by decide : samplePages.length ≤ 2)
  rw [samplePages_ids] at hdeletes hdeletions
  rw [sampleIds_short] at hdeletes
  exact ⟨sampleEndpoint_eq, samplePages_served, result, final, fetches, deletions, hrun,
    hrequests, hfetches, hdeletes, hdeletions⟩

def textReply (status : UInt16) (body : String) : Outcome :=
  some ⟨status, some (Utf8.encode body.toList)⟩

/-- Two pages with a comment of a reviewer and two without a body, then a success and a refusal. -/
def sampleReplies : List Outcome :=
  [textReply 200
      ("\x7b\"values\":[\x7b\"id\":4,\"content\":\x7b\"raw\":\"LGTM\"\x7d\x7d,\x7b\"id\":5\x7d]," ++
        "\"next\":\"https://api.bitbucket.org/2\"\x7d"),
    textReply 200 "\x7b\"values\":[\x7b\"id\":\"6\"\x7d]\x7d", textReply 204 "",
    textReply 403 "kept"]

example : (Server.scripted none).run (sampleEndpoint.perform 2 Sweep.pass) sampleReplies =
    (some (.ok ⟨[⟨"5", by decide⟩], [⟨⟨"6", by decide⟩, .api 403 "kept"⟩]⟩), []) := by
  decide +kernel

/-- The id that is the letter a, written once and then so many times more. -/
def lettersId (n : Nat) : CommentId where
  text := String.ofList (List.replicate (n + 1) 'a')
  text_ne_empty h := by simpa using congrArg String.toList h

def lettersPage (n : Nat) : Page Entry :=
  ⟨[⟨.text (lettersId n).text, some (Marker.put "stale"), false⟩], none⟩

/-- The page is sent for every request, and so as a success for a deletion too. -/
def lettersServer (n : Nat) : Server Unit := ⟨fun _ s => (some (sampleReply (lettersPage n)), s)⟩

theorem lettersId_toList (n : Nat) : (lettersId n).text.toList = List.replicate (n + 1) 'a' :=
  String.toList_ofList

theorem lettersPage_ids (n : Nat) : Entry.decorationIds (lettersPage n).values = [lettersId n] := by
  have hmarked : Marker.isIn (Marker.put "stale") = true := by decide +kernel
  have hvisible : ∀ c ∈ List.replicate (n + 1) 'a', Text.isBlankChar c = false := by
    intro c hc
    rw [List.eq_of_mem_replicate hc]
    decide
  have hends : Text.trimChars (List.replicate (n + 1) 'a') = List.replicate (n + 1) 'a' := by
    have hend := Text.trimEndChars_append hvisible []
    rw [List.append_nil] at hend
    rw [Text.trimChars, Text.trimStartChars_of_head fun c hc => hvisible c
      (List.mem_of_head? hc), hend]
    exact List.append_nil _
  have htrim : Text.trim (lettersId n).text = (lettersId n).text := by
    rw [Text.trim, lettersId_toList, hends, lettersId]
  simp [Entry.decorationIds, lettersPage, Entry.isDecoration, hmarked, EntryId.commentId?, htrim]

def sampleRoot : List (List Char) :=
  ["2.0", "repositories", "team", "app", "pullrequests", "7", "comments"].map String.toList

theorem sampleEndpoint_isRoot :
    Url.IsRoot sampleEndpoint.commentsUrl
      (sampleEndpoint.base.withPath (sampleRoot ++ [[]])) sampleRoot :=
  ⟨by decide +kernel, .inr rfl, rfl, rfl, rfl⟩

theorem lettersId_isTooLong {n : Nat} (hn : Endpoint.urlLimit ≤ n) :
    sampleEndpoint.isTooLong (lettersId n) = true := by
  have hplain : Url.IsPlain (lettersId n).text.toList := by
    rw [lettersId_toList]
    refine ⟨fun c hc => ?_, by simp [List.replicate_succ], by simp [List.replicate_succ]⟩
    rw [List.eq_of_mem_replicate hc]
    decide
  refine Endpoint.isTooLong_of_plain sampleEndpoint_isRoot rfl hplain ?_
  rw [lettersId_toList, List.length_replicate]
  omega

theorem lettersPage_served (n : Nat) :
    sampleEndpoint.Serves (lettersServer n) .first () [.first] [lettersPage n] () := by
  obtain ⟨r, hr⟩ := sampleEndpoint_first
  exact .last hr (isPage_sampleReply (by simp [lettersPage])) (by simp [lettersPage])

/-- Only the page is fetched, and the comment is reported as one that is left. -/
theorem lettersPage_left {n : Nat} (hn : Endpoint.urlLimit ≤ n) :
    ∃ r err, (lettersServer n).requests (sampleEndpoint.perform 1 Sweep.pass) () = [r] ∧
      ((lettersServer n).run (sampleEndpoint.perform 1 Sweep.pass) ()).1 =
        some (.ok ⟨[], [⟨lettersId n, err⟩]⟩) := by
  obtain ⟨r, hr⟩ := sampleEndpoint_first
  obtain ⟨fetches, followed, hreads, hfetches⟩ :=
    (lettersPage_served n).reads (List.forall_mem_nil _) (List.nodup_singleton _)
  obtain ⟨hrun, hsent⟩ := Endpoint.sweep_of_reads hreads (Nat.le_refl 1)
  obtain ⟨result, final, hresult, hdeletions⟩ :=
    Endpoint.deleteAll_deletions sampleEndpoint_eq hr (lettersServer n) 1 [lettersId n] ()
  have hnone : (lettersServer n).requests (sampleEndpoint.perform 1 (Sweep.deleteAll [lettersId n]))
      () = [] := by
    have hdeletes := Endpoint.deleteAll_deletes sampleEndpoint_eq hr
      (lettersServer n) 1 [lettersId n] ()
    simpa [lettersId_isTooLong hn] using hdeletes
  have hfetched : fetches = [r] := by
    simpa [hr] using hfetches
  rw [List.flatMap_singleton, lettersPage_ids] at hrun hsent
  rw [hresult] at hrun
  rw [hnone] at hsent hdeletions
  cases hdeletions with
  | tooLong _ _ h =>
    cases h
    exact ⟨r, _, by rw [hsent, hfetched]; rfl, by rw [hrun]; rfl⟩

/-- The one comment is a target and its deletion is attempted, but none is sent. -/
theorem longId_not_deleted :
    Endpoint.ofSettings sampleSettings ⟨"7", by decide⟩ = .ok sampleEndpoint ∧
      sampleEndpoint.Serves (lettersServer 69999) .first () [.first] [lettersPage 69999] () ∧
      Entry.Targets (lettersPage 69999).values [lettersId 69999] ∧
      (∃ err, ((lettersServer 69999).run (sampleEndpoint.perform 1 Sweep.pass) ()).1 =
        some (.ok ⟨[], [⟨lettersId 69999, err⟩]⟩)) ∧
      ¬ ∃ fetches deletions,
        (lettersServer 69999).requests (sampleEndpoint.perform 1 Sweep.pass) () =
          fetches ++ deletions ∧
        List.Forall₂ sampleEndpoint.Fetches [.first] fetches ∧
        List.Forall₂ sampleEndpoint.Deletes [lettersId 69999] deletions := by
  have hlong : Endpoint.urlLimit ≤ 69999 := by decide
  obtain ⟨r, err, hsent, hleft⟩ := lettersPage_left hlong
  refine ⟨sampleEndpoint_eq, lettersPage_served _,
    lettersPage_ids _ ▸ Entry.targets_decorationIds _, ⟨err, hleft⟩, ?_⟩
  rintro ⟨fetches, deletions, hall, hfetches, hdeletes⟩
  have hcount := congrArg List.length (hsent.symm.trans hall)
  rw [List.length_append, ← hfetches.length_eq, ← hdeletes.length_eq] at hcount
  cases hcount

end Cloud
end PullDecoration
