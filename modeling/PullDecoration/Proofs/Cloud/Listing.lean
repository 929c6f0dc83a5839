import PullDecoration.Proofs.Cloud.Calls
import PullDecoration.Proofs.Cloud.Walk

/-! Listings page by page, whatever the server. A listing gets on from page to page until one names
no further page; the first page that cannot be had ends it, and its error is all that is left of the
listing. -/
namespace PullDecoration
namespace Cloud

open Http

def Delivers (reply : Outcome) (page : Page Entry) : Prop :=
  ∃ r body, reply = some r ∧ isSuccess r.status = true ∧ r.text? = some body ∧
    (Page.codec Entry.codec).decode body = .ok page

theorem judge_eq_ok {url : Url} {outcome : Outcome} {reply : Response} :
    judge url outcome = .ok reply ↔ outcome = some reply ∧ isSuccess reply.status = true := by
  cases outcome with
  | none => simp [judge]
  | some r =>
    by_cases hstatus : isSuccess r.status = true
    · simp only [judge, if_pos hstatus, Except.ok.injEq, Option.some.injEq]
      refine ⟨?_, And.left⟩
      rintro rfl
      exact ⟨rfl, hstatus⟩
    · simp only [judge, if_neg hstatus, reduceCtorEq, Option.some.injEq, false_iff]
      rintro ⟨rfl, hsuccess⟩
      exact hstatus hsuccess

theorem content_eq_ok {α : Type} {c : Json.Codec α} {r : Response} {a : α} :
    content c r = .ok a ↔ ∃ body, r.text? = some body ∧ c.decode body = .ok a := by
  unfold content
  cases r.text? with
  | none => simp
  | some body => simp [mapError_eq_ok]

theorem delivers_iff {url : Url} {reply : Outcome} {page : Page Entry} :
    (judge url reply).bind (content (Page.codec Entry.codec)) = .ok page ↔ Delivers reply page := by
  refine bind_eq_ok.trans ?_
  simp only [judge_eq_ok, content_eq_ok, Delivers]
  constructor
  · rintro ⟨r, ⟨hreply, hstatus⟩, body, htext, hdecode⟩
    exact ⟨r, body, hreply, hstatus, htext, hdecode⟩
  · rintro ⟨r, body, hreply, hstatus, htext, hdecode⟩
    exact ⟨r, ⟨hreply, hstatus⟩, body, htext, hdecode⟩

namespace Endpoint

variable {σ : Type} {server : Server σ} {e : Endpoint} {s s' : σ}

theorem fetch_sent {link : Link} {r : Request} (h : e.listRequest link = .ok r) (s : σ) :
    server.run (e.fetch link) s =
        ((judge r.url (server.answer r s).1).bind (content (Page.codec Entry.codec)),
          (server.answer r s).2) ∧
      server.requests (e.fetch link) s = [r] := by
  simp [fetch, send, h, Server.requests]

theorem fetch_unsent {link : Link} {err : ProviderError}
    (h : e.listRequest link = .error err) (s : σ) :
    server.run (e.fetch link) s = (.error err, s) ∧ server.requests (e.fetch link) s = [] := by
  have hfetch : e.fetch link = .done (.error err) := by
    simp [fetch, send, h, Except.bind]
  rw [hfetch]
  exact ⟨rfl, rfl⟩

theorem fetch_eq_ok {link : Link} {page : Page Entry}
    (h : (server.run (e.fetch link) s).1 = .ok page) :
    ∃ r, e.listRequest link = .ok r ∧ Delivers (server.answer r s).1 page := by
  cases hrequest : e.listRequest link with
  | error err =>
    rw [(fetch_unsent hrequest s).1] at h
    cases h
  | ok r =>
    rw [(fetch_sent hrequest s).1] at h
    exact ⟨r, rfl, delivers_iff.mp h⟩

/-- How far a listing has come: the links it has followed, the one whose page is next, if any is
left, and the state of the server. -/
structure Standing (σ : Type) where
  followed : List String
  link : Option Link
  state : σ

def Standing.start (s : σ) : Standing σ := ⟨[], some .first, s⟩

/-- A listing gets from one standing to another with these requests for these pages. A page that
names no further one, or a blank one, or one already followed, is the last. -/
inductive Reads (server : Server σ) (e : Endpoint) :
    Standing σ → List Request → List (Page Entry) → Standing σ → Prop
  | here (st : Standing σ) : Reads server e st [] [] st
  | last {followed : List String} {link : Link} {s : σ} {r : Request} {page : Page Entry}
      (hrequest : e.listRequest link = .ok r) (hpage : Delivers (server.answer r s).1 page)
      (hend : ∀ text, page.next = some text → Text.isBlank text = true ∨ text ∈ followed) :
      Reads server e ⟨followed, some link, s⟩ [r] [page] ⟨followed, none, (server.answer r s).2⟩
  | more {followed : List String} {link : Link} {s : σ} {r : Request}
      {page : Page Entry} {text : String} {requests : List Request}
      {pages : List (Page Entry)} {st : Standing σ} (hrequest : e.listRequest link = .ok r)
      (hpage : Delivers (server.answer r s).1 page) (hnext : page.next = some text)
      (hblank : Text.isBlank text = false) (hfresh : text ∉ followed)
      (h : Reads server e ⟨text :: followed, some (.next text), (server.answer r s).2⟩
        requests pages st) :
      Reads server e ⟨followed, some link, s⟩ (r :: requests) (page :: pages) st

/-- The page behind a link cannot be had, with what is sent for it, the error, and the state that it
leaves. -/
inductive PageFails (server : Server σ) (e : Endpoint) :
    Link → σ → List Request → ProviderError → σ → Prop
  | malformed {text : String} {s : σ} {err : Url.UrlError} (h : Url.parse text = .error err) :
      PageFails server e (.next text) s []
        (.parse ("invalid next page link '" ++ text ++ "': " ++ err.message)) s
  | foreign {text : String} {s : σ} {url : Url} (hparse : Url.parse text = .ok url)
      (horigin : url.sameOrigin e.base = false) :
      PageFails server e (.next text) s []
        (.parse ("next page link '" ++ text ++ "' points outside the API origin")) s
  | unsent {link : Link} {s : σ} {message : String}
      (h : e.listRequest link = .error (.transport message)) :
      PageFails server e link s [] (.transport message) s
  | unanswered {link : Link} {s : σ} {r : Request} (hrequest : e.listRequest link = .ok r)
      (hreply : (server.answer r s).1 = none) :
      PageFails server e link s [r]
      (.transport ("error sending request for url (" ++ r.url.text ++ ")"))
        (server.answer r s).2
  | refused {link : Link} {s : σ} {r : Request} {reply : Response}
      (hrequest : e.listRequest link = .ok r) (hreply : (server.answer r s).1 = some reply)
      (hstatus : isSuccess reply.status = false) :
      PageFails server e link s [r] (.api reply.status (complaint reply)) (server.answer r s).2
  | brokenOff {link : Link} {s : σ} {r : Request} {reply : Response}
      (hrequest : e.listRequest link = .ok r) (hreply : (server.answer r s).1 = some reply)
      (hstatus : isSuccess reply.status = true) (htext : reply.text? = none) :
      PageFails server e link s [r] (.parse "error decoding response body") (server.answer r s).2
  | unreadable {link : Link} {s : σ} {r : Request} {reply : Response} {body : String}
      {err : Json.ReadError} (hrequest : e.listRequest link = .ok r)
      (hreply : (server.answer r s).1 = some reply) (hstatus : isSuccess reply.status = true)
      (htext : reply.text? = some body)
      (hdecode : (Page.codec Entry.codec).decode body = .error err) :
      PageFails server e link s [r] (.parse err.message) (server.answer r s).2

theorem PageFails.fetch {link : Link} {sent : List Request} {err : ProviderError}
    (h : PageFails server e link s sent err s') :
    server.run (e.fetch link) s = (.error err, s') ∧ server.requests (e.fetch link) s = sent := by
  cases h with
  | @malformed text _ err hparse =>
    refine fetch_unsent ?_ s
    simp [listRequest, nextPage, hparse, bind, Except.bind]
  | @foreign text _ url hparse horigin =>
    refine fetch_unsent ?_ s
    simp [listRequest, nextPage, hparse, horigin, bind, Except.bind]
  | unsent hrequest => exact fetch_unsent hrequest s
  | unanswered hrequest hreply =>
    obtain ⟨hrun, hrequests⟩ := fetch_sent hrequest s
    exact ⟨by rw [hrun, hreply]; rfl, hrequests⟩
  | refused hrequest hreply hstatus =>
    obtain ⟨hrun, hrequests⟩ := fetch_sent hrequest s
    exact ⟨by rw [hrun, hreply]; simp [judge, hstatus, Except.bind], hrequests⟩
  | brokenOff hrequest hreply hstatus htext =>
    obtain ⟨hrun, hrequests⟩ := fetch_sent hrequest s
    exact ⟨by rw [hrun, hreply]; simp [judge, hstatus, content, htext, Except.bind], hrequests⟩
  | unreadable hrequest hreply hstatus htext hdecode =>
    obtain ⟨hrun, hrequests⟩ := fetch_sent hrequest s
    exact ⟨by rw [hrun, hreply]; simp [judge, hstatus, content, htext, hdecode,
      mapError_error, Except.bind], hrequests⟩

def rest (e : Endpoint) (limit : Nat) (st : Standing σ) :
    Exchange (Option (Except ProviderError (List Entry))) :=
  match st.link with
  | none => .done (some (.ok []))
  | some link => (Page.walk limit st.followed link).through e.fetch

def behind (es : List Entry) (found : Option (Except ProviderError (List Entry))) :
    Option (Except ProviderError (List Entry)) :=
  found.map fun r => r.map (es ++ ·)

@[simp] theorem behind_nil (found : Option (Except ProviderError (List Entry))) :
      behind [] found = found := by
  rcases found with - | (err | es) <;> rfl

@[simp] theorem behind_behind (es fs : List Entry)
    (found : Option (Except ProviderError (List Entry))) :
    behind es (behind fs found) = behind (es ++ fs) found := by
  rcases found with - | (err | gs) <;> simp [behind, Except.map]

theorem behind_eq_ok {es fs : List Entry} {found : Option (Except ProviderError (List Entry))}
    (h : behind es found = some (.ok fs)) : ∃ gs, found = some (.ok gs) := by
  rcases found with - | (err | gs)
  · cases h
  · cases h
  · exact ⟨gs, rfl⟩

theorem rest_succ (e : Endpoint) (limit : Nat) (followed : List String) (link : Link) (s s' : σ) :
    e.rest (limit + 1) ⟨followed, some link, s⟩ = (e.fetch link).bind fun
      | .error err => .done (some (.error err))
      | .ok page => match page.onward? followed with
        | none => .done (some (.ok page.values))
        | some text => (e.rest limit ⟨text :: followed, some (.next text), s'⟩).bind fun found =>
          .done (behind page.values found) := by
  simp only [rest, Page.walk, Dialogue.through]
  congr
  funext reply
  cases reply with
  | error err => rfl
  | ok page =>
    cases honward : page.onward? followed with
    | none => simp [honward, Dialogue.through]
    | some text => simp [honward, Dialogue.through_bind, Dialogue.through, behind]

theorem rest_of_fails (followed : List String) {link : Link} {sent : List Request}
    {err : ProviderError} (h : PageFails server e link s sent err s') (limit : Nat) :
    server.run (e.rest (limit + 1) ⟨followed, some link, s⟩) s = (some (.error err), s') ∧
      server.requests (e.rest (limit + 1) ⟨followed, some link, s⟩) s = sent := by
  obtain ⟨hrun, hsent⟩ := h.fetch
  rw [rest_succ e limit followed link s s]
  simp [Partner.run_bind, requests_bind, hrun, hsent]

section Step

variable {followed : List String} {link : Link} {r : Request} {page : Page Entry}

variable (hrequest : e.listRequest link = .ok r) (hpage : Delivers (server.answer r s).1 page)
include hrequest hpage

theorem rest_of_last (hend : page.onward? followed = none) (limit : Nat) :
    server.run (e.rest (limit + 1) ⟨followed, some link, s⟩) s =
      (some (.ok page.values), (server.answer r s).2) ∧
      server.requests (e.rest (limit + 1) ⟨followed, some link, s⟩) s = [r] := by
  obtain ⟨hrun, hfetch⟩ := fetch_sent hrequest s
  rw [delivers_iff.mpr hpage] at hrun
  rw [rest_succ e limit followed link s s]
  simp [Partner.run_bind, requests_bind, hrun, hfetch, hend]

theorem rest_of_more {text : String} (hnext : page.onward? followed = some text) (limit : Nat) :
    let next : Standing σ := ⟨text :: followed, some (.next text), (server.answer r s).2⟩
    server.run (e.rest (limit + 1) ⟨followed, some link, s⟩) s =
        (behind page.values (server.run (e.rest limit next) next.state).1,
          (server.run (e.rest limit next) next.state).2) ∧
      server.requests (e.rest (limit + 1) ⟨followed, some link, s⟩) s =
        r :: server.requests (e.rest limit next) next.state := by
  intro next
  obtain ⟨hrun, hfetch⟩ := fetch_sent hrequest s
  rw [delivers_iff.mpr hpage] at hrun
  rw [rest_succ e limit followed link s next.state]
  simp [Partner.run_bind, requests_bind, hrun, hfetch, hnext, next]

end Step

theorem Reads.rest {st st' : Standing σ} {requests : List Request} {pages : List (Page Entry)}
    (h : Reads server e st requests pages st') (limit : Nat) :
    server.run (e.rest (pages.length + limit) st) st.state =
        (behind (pages.flatMap (·.values)) (server.run (e.rest limit st') st'.state).1,
          (server.run (e.rest limit st') st'.state).2) ∧
      server.requests (e.rest (pages.length + limit) st) st.state =
        requests ++ server.requests (e.rest limit st') st'.state := by
  induction h with
  | here st => simp
  | last hrequest hpage hend =>
    obtain ⟨hrun, hsent⟩ := rest_of_last hrequest hpage (Page.onward?_eq_none.mpr hend) limit
    rw [List.length_singleton, Nat.add_comm, hrun, hsent]
    simp [Endpoint.rest, behind, Except.map]
  | @more followed link s r page text requests pages st hrequest hpage hnext hblank hfresh h ih =>
    have honward : page.onward? followed = some text :=
      Page.onward?_eq_some.mpr ⟨hnext, hblank, hfresh⟩
    obtain ⟨hrun, hsent⟩ := rest_of_more hrequest hpage honward (pages.length + limit)
    obtain ⟨hrest, hrequests⟩ := ih
    rw [List.length_cons, Nat.add_right_comm, hrun, hsent, hrest, hrequests]
    simp

/-- A listing that comes to an end has read pages up to a last one. -/
theorem reads_of_rest {limit : Nat} {st : Standing σ} {es : List Entry}
    (h : (server.run (e.rest limit st) st.state).1 = some (.ok es)) :
    ∃ requests pages followed s', Reads server e st requests pages ⟨followed, none, s'⟩ ∧
      pages.length ≤ limit := by
  induction limit generalizing st es with
  | zero =>
    obtain ⟨followed, link, s⟩ := st
    cases link with
    | none => exact ⟨[], [], followed, s, .here _, Nat.le_refl 0⟩
    | some link => cases h
  | succ limit ih =>
    obtain ⟨followed, link, s⟩ := st
    cases link with
    | none => exact ⟨[], [], followed, s, .here _, Nat.zero_le _⟩
    | some link =>
      obtain ⟨page, hfetch⟩ : ∃ page, (server.run (e.fetch link) s).1 = .ok page := by
        cases hfetch : (server.run (e.fetch link) s).1 with
        | error err =>
          rw [rest_succ e limit followed link s s, Partner.run_bind, hfetch] at h
          cases h
        | ok page => exact ⟨page, rfl⟩
      obtain ⟨r, hrequest, hpage⟩ := fetch_eq_ok hfetch
      cases honward : page.onward? followed with
      | none =>
        have hlast := Reads.last hrequest hpage (Page.onward?_eq_none.mp honward)
        exact ⟨[r], [page], followed, _, hlast, Nat.succ_le_succ (Nat.zero_le _)⟩
      | some text =>
        obtain ⟨hnext, hblank, hfresh⟩ := Page.onward?_eq_some.mp honward
        rw [(rest_of_more hrequest hpage honward limit).1] at h
        obtain ⟨gs, hgs⟩ := behind_eq_ok h
        obtain ⟨requests, pages, followed', s', hreads, hlength⟩ := ih hgs
        exact ⟨_, _, followed', s', .more hrequest hpage hnext hblank hfresh hreads,
          Nat.succ_le_succ hlength⟩

theorem Reads.first_sent {requests : List Request} {pages : List (Page Entry)}
    {followed : List String} (h : Reads server e (.start s) requests pages ⟨followed, none, s'⟩) :
    ∃ r, e.listRequest .first = .ok r := by
  cases h with
  | last hrequest => exact ⟨_, hrequest⟩
  | more hrequest => exact ⟨_, hrequest⟩

section Entries

variable {requests sent : List Request} {pages : List (Page Entry)}
  {followed : List String} {limit : Nat}

theorem entries_of_reads (h : Reads server e (.start s) requests pages ⟨followed, none, s'⟩)
    (hlimit : pages.length ≤ limit) :
    server.run (e.entries limit) s = (some (.ok (pages.flatMap (·.values))), s') ∧
      server.requests (e.entries limit) s = requests := by
  obtain ⟨left, rfl⟩ := Nat.exists_eq_add_of_le hlimit
  obtain ⟨hrun, hsent⟩ := h.rest left
  have hentries : e.entries (pages.length + left) = e.rest (pages.length + left) (.start s) := rfl
  rw [hentries]
  exact ⟨hrun.trans (by simp [Endpoint.rest, behind, Except.map]),
    hsent.trans (by simp [Endpoint.rest])⟩

/-- The error of a page is all that there is of the listing, and nothing is asked for behind that
page. -/
theorem entries_of_fails {between : σ} {link : Link} {err : ProviderError}
    (h : Reads server e (.start s) requests pages ⟨followed, some link, between⟩)
    (hfails : PageFails server e link between sent err s') (hlimit : pages.length < limit) :
    server.run (e.entries limit) s = (some (.error err), s') ∧
      server.requests (e.entries limit) s = requests ++ sent := by
  obtain ⟨left, rfl⟩ := Nat.exists_eq_add_of_lt hlimit
  obtain ⟨hrun, hsent⟩ := h.rest (left + 1)
  obtain ⟨hlast, hlastSent⟩ := rest_of_fails followed hfails left
  rw [hlast] at hrun
  rw [hlastSent] at hsent
  exact ⟨hrun, hsent⟩

theorem reply_of_fails {between : σ} {link : Link} {err : ProviderError}
    (h : Reads server e (.start s) requests pages ⟨followed, some link, between⟩)
    (hfails : PageFails server e link between sent err s') (hlimit : pages.length < limit) :
    server.run (e.reply limit .list) s = (some (.error err), s') ∧
      server.requests (e.reply limit .list) s = requests ++ sent := by
  obtain ⟨hrun, hsent⟩ := entries_of_fails h hfails hlimit
  simp only [reply, Partner.run_bind, requests_bind, hrun, hsent]
  exact ⟨rfl, List.append_nil _⟩

end Entries

theorem get_of_listRequest {link : Link} {r : Request} (h : e.listRequest link = .ok r) :
    r.method = .get := by
  cases fetches_of_listRequest h with
  | first hmethod => exact hmethod
  | next hmethod => exact hmethod

theorem Reads.get {st st' : Standing σ} {requests : List Request} {pages : List (Page Entry)}
    (h : Reads server e st requests pages st') : ∀ r ∈ requests, r.method = .get := by
  induction h with
  | here st => exact List.forall_mem_nil _
  | last hrequest => exact List.forall_mem_singleton.mpr (get_of_listRequest hrequest)
  | more hrequest _ _ _ _ _ ih => exact List.forall_mem_cons.mpr ⟨get_of_listRequest hrequest, ih⟩

theorem PageFails.get {link : Link} {sent : List Request} {err : ProviderError}
    (h : PageFails server e link s sent err s') : ∀ r ∈ sent, r.method = .get := by
  cases h with
  | malformed | foreign | unsent => exact List.forall_mem_nil _
  | unanswered hrequest | refused hrequest | brokenOff hrequest | unreadable hrequest =>
    exact List.forall_mem_singleton.mpr (get_of_listRequest hrequest)

end Endpoint
end Cloud
end PullDecoration
