import PullDecoration.Proofs.Cloud.Failure

/-! What a pass attempts at the service, and how its report says so. Every call is one attempt, but
for a listing, which is one for each page. Attempts stand in the order of their requests, each
belongs to one step of the report, and the steps with errors are those with an attempt that
failed. -/
namespace PullDecoration
namespace Cloud

open Http Decoration

/-- What is wanted of the service: the page behind a link, a new comment, or the end of one. -/
inductive Aim
  | fetch (link : Link)
  | post (c : NewComment)
  | delete (id : CommentId)

def Aim.request (e : Endpoint) : Aim → Except ProviderError Request
  | .fetch link => e.listRequest link
  | .post c => e.createRequest c
  | .delete id => e.deleteRequest id

structure Attempt where
  aim : Aim
  turn : Option (Turn fun _ : Request => Outcome)

namespace Attempt

variable {σ : Type} {server : Server σ} {e : Endpoint} {aim : Aim} {s : σ}

def Made (e : Endpoint) (a : Attempt) : Prop := a.turn.map (·.1) = (a.aim.request e).toOption

/-- The attempt comes to nothing: a further page lies outside the origin or nowhere, no request can
be made or none is answered, the answer is no success, or it is one that holds no page. -/
inductive Fails (e : Endpoint) : Attempt → Prop
  | offOrigin {text : String}
      (h : ∀ url, Url.parse text = .ok url → url.sameOrigin e.base = false) :
      Fails e ⟨.fetch (.next text), none⟩
  | unsent {aim : Aim} {message : String} (h : aim.request e = .error (.transport message)) :
      Fails e ⟨aim, none⟩
  | unanswered {aim : Aim} {r : Request} : Fails e ⟨aim, some ⟨r, none⟩⟩
  | refused {aim : Aim} {r : Request} {reply : Response} (h : isSuccess reply.status = false) :
      Fails e ⟨aim, some ⟨r, some reply⟩⟩
  | undecodable {link : Link} {r : Request} {reply : Response}
      (h : ∀ page, ¬ Delivers (some reply) page) :
      Fails e ⟨.fetch link, some ⟨r, some reply⟩⟩

def of (server : Server σ) (e : Endpoint) (aim : Aim) (s : σ) : Attempt :=
  ⟨aim, (aim.request e).toOption.map fun r => ⟨r, (server.answer r s).1⟩⟩

theorem of_made (server : Server σ) (e : Endpoint) (aim : Aim) (s : σ) :
    (of server e aim s).Made e := by
  rw [Made, of, Option.map_map]
  exact Option.map_id'

theorem of_sent {r : Request} (h : aim.request e = .ok r) :
    of server e aim s = ⟨aim, some ⟨r, (server.answer r s).1⟩⟩ := by
  simp [of, h, Except.toOption]

theorem of_unsent {err : ProviderError} (h : aim.request e = .error err) :
    of server e aim s = ⟨aim, none⟩ := by
  simp [of, h, Except.toOption]

theorem transcript_send (aim : Aim) :
    server.transcript (send (aim.request e)) s = (of server e aim s).turn.toList := by
  cases h : aim.request e with
  | error err =>
    rw [of_unsent h]
    rfl
  | ok r =>
    rw [of_sent h]
    rfl

theorem filterMap_turn_cons (a : Attempt) (attempts : List Attempt) :
    (a :: attempts).filterMap turn = a.turn.toList ++ attempts.filterMap turn := by
  rw [List.filterMap_cons]
  cases a.turn <;> rfl

end Attempt

namespace Endpoint

variable {σ α : Type} {server : Server σ} {e : Endpoint} {s : σ} {limit : Nat}

theorem request_eq_error {method : Method} {url : Url} {body : Option Json.Value}
    {err : ProviderError} (h : e.request method url body = .error err) :
    ∃ message, err = .transport message := by
  simp only [request] at h
  split at h
  · cases h
  · cases h
    exact ⟨_, rfl⟩

theorem address_eq_error {text : String} {err : ProviderError} (h : address text = .error err) :
    ∃ message, err = .transport message := by
  unfold address at h
  cases hparse : Url.parse text with
  | ok url => simp [hparse, mapError_ok] at h
  | error reason =>
    rw [hparse, mapError_error] at h
    cases h
    exact ⟨_, rfl⟩

theorem nextPage_eq_error {text : String} {err : ProviderError} (h : e.nextPage text = .error err) :
    ∀ url, Url.parse text = .ok url → url.sameOrigin e.base = false := by
  intro url hparse
  simp only [nextPage, hparse] at h
  split at h
  · cases h
  · rename_i horigin
    exact Bool.eq_false_iff.mpr horigin

theorem fails_of_request_error {aim : Aim} {err : ProviderError} (h : aim.request e = .error err) :
    Attempt.Fails e ⟨aim, none⟩ := by
  have hunsent (htransport : ∃ message, err = .transport message) :
      Attempt.Fails e ⟨aim, none⟩ := by
    obtain ⟨message, rfl⟩ := htransport
    exact .unsent h
  cases aim with
  | fetch link =>
    cases link with
    | first =>
      rcases bind_eq_error.mp h with h | ⟨url, -, h⟩
      · exact hunsent (address_eq_error h)
      · exact hunsent (request_eq_error h)
    | next text =>
      rcases bind_eq_error.mp h with h | ⟨url, -, h⟩
      · exact .offOrigin (nextPage_eq_error h)
      · exact hunsent (request_eq_error h)
  | post c =>
    rcases bind_eq_error.mp h with h | ⟨url, -, h⟩
    · exact hunsent (address_eq_error h)
    · exact hunsent (request_eq_error h)
  | delete id =>
    rcases bind_eq_error.mp h with h | ⟨url, -, h⟩
    · exact hunsent (address_eq_error h)
    · exact hunsent (request_eq_error h)

theorem judge_eq_error {url : Url} {outcome : Outcome} :
    (∃ err, judge url outcome = .error err) ↔
      outcome = none ∨ ∃ reply, outcome = some reply ∧ isSuccess reply.status = false := by
  cases outcome with
  | none => simp [judge]
  | some reply => cases h : isSuccess reply.status <;> simp [judge, h]

/-- Outside a listing an attempt fails exactly if its call is refused or gets no answer. -/
theorem send_fails {aim : Aim} (haim : ∀ link, aim ≠ .fetch link) (s : σ) :
    (∃ err, (server.run (send (aim.request e)) s).1 = .error err) ↔
      (Attempt.of server e aim s).Fails e := by
  cases h : aim.request e with
  | error err =>
    rw [Attempt.of_unsent h]
    exact ⟨fun _ => fails_of_request_error h, fun _ => ⟨err, rfl⟩⟩
  | ok r =>
    have hrun : (server.run (send (.ok r)) s).1 = judge r.url (server.answer r s).1 := rfl
    rw [Attempt.of_sent h, hrun, judge_eq_error]
    constructor
    · rintro (hnone | ⟨reply, hreply, hstatus⟩)
      · rw [hnone]
        exact .unanswered
      · rw [hreply]
        exact .refused hstatus
    · generalize (server.answer r s).1 = outcome
      intro hfails
      cases hfails with
      | unanswered => exact .inl rfl
      | refused hstatus => exact .inr ⟨_, rfl, hstatus⟩
      | undecodable => exact absurd rfl (haim _)

theorem fetch_fails (link : Link) (s : σ) :
    (∃ err, (server.run (e.fetch link) s).1 = .error err) ↔
      (Attempt.of server e (.fetch link) s).Fails e := by
  cases h : e.listRequest link with
  | error err =>
    have hrequest : (Aim.fetch link).request e = .error err := h
    rw [Attempt.of_unsent hrequest, (fetch_unsent h s).1]
    exact ⟨fun _ => fails_of_request_error hrequest, fun _ => ⟨err, rfl⟩⟩
  | ok r =>
    have hrequest : (Aim.fetch link).request e = .ok r := h
    rw [Attempt.of_sent hrequest, (fetch_sent h s).1]
    generalize houtcome : (server.answer r s).1 = outcome
    cases hpage : (judge r.url outcome).bind (content (Page.codec Entry.codec)) with
    | ok page =>
      obtain ⟨reply, body, rfl, hstatus, -, -⟩ := delivers_iff.mp hpage
      constructor
      · rintro ⟨err, herr⟩
        cases herr
      · intro hfails
        cases hfails with
        | refused hrefused => exact absurd (hstatus.symm.trans hrefused) (by decide)
        | undecodable hnone => exact absurd (delivers_iff.mp hpage) (hnone page)
    | error err =>
      refine ⟨fun _ => ?_, fun _ => ⟨err, rfl⟩⟩
      cases outcome with
      | none => exact .unanswered
      | some reply =>
        refine .undecodable fun page hdelivers => ?_
        rw [delivers_iff.mpr hdelivers] at hpage
        cases hpage

theorem transcript_fetch (link : Link) (s : σ) :
    server.transcript (e.fetch link) s = (Attempt.of server e (.fetch link) s).turn.toList := by
  rw [fetch, Partner.transcript_bind, Partner.transcript_done, List.append_nil]
  exact Attempt.transcript_send (.fetch link)

/-- The attempts of what is left of a listing: pages are fetched up to the last one or to one that
fails. -/
theorem rest_attempts {limit : Nat} {st : Standing σ} {found : Except ProviderError (List Entry)}
    (h : (server.run (e.rest limit st) st.state).1 = some found) :
    ∃ (links : List Link) (attempts : List Attempt), attempts.map Attempt.aim =
      links.map Aim.fetch ∧
      links.head? = st.link ∧ server.transcript (e.rest limit st) st.state =
        attempts.filterMap Attempt.turn ∧
      (∀ a ∈ attempts, a.Made e) ∧ ((∃ err, found = .error err) ↔ ∃ a ∈ attempts, a.Fails e) := by
  induction limit generalizing st found with
  | zero =>
    obtain ⟨followed, link, s⟩ := st
    cases link with
    | none =>
      cases h
      exact ⟨[], [], rfl, rfl, rfl, List.forall_mem_nil _, by simp⟩
    | some link => cases h
  | succ limit ih =>
    obtain ⟨followed, link, s⟩ := st
    cases link with
    | none =>
      cases h
      exact ⟨[], [], rfl, rfl, rfl, List.forall_mem_nil _, by simp⟩
    | some link =>
      have hmade := Attempt.of_made server e (.fetch link) s
      have hfails : (∃ err, (server.run (e.fetch link) s).1 = .error err) ↔
          (Attempt.of server e (.fetch link) s).Fails e := fetch_fails link s
      rw [rest_succ e limit followed link s (server.run (e.fetch link) s).2, Partner.run_bind] at h
      rw [rest_succ e limit followed link s (server.run (e.fetch link) s).2,
        Partner.transcript_bind, transcript_fetch]
      cases hfetch : (server.run (e.fetch link) s).1 with
      | error err =>
        rw [hfetch] at h hfails
        cases h
        refine ⟨[link], [.of server e (.fetch link) s], rfl, rfl, ?_,
          List.forall_mem_singleton.mpr hmade, ?_⟩
        · simp [Attempt.filterMap_turn_cons]
        · simpa using hfails
      | ok page =>
        rw [hfetch] at h hfails
        have hhere : ¬ (Attempt.of server e (.fetch link) s).Fails e := by
          simpa using hfails
        cases honward : page.onward? followed with
        | none =>
          simp only [honward] at h
          cases h
          refine ⟨[link], [.of server e (.fetch link) s], rfl, rfl, ?_,
            List.forall_mem_singleton.mpr hmade, ?_⟩
          · simp [Attempt.filterMap_turn_cons, honward]
          · simpa using hhere
        | some text =>
          simp only [honward, Partner.run_bind, Partner.run_done] at h
          obtain ⟨later, hlater, hfound⟩ := Option.map_eq_some_iff.mp h
          obtain ⟨links, attempts, haims, -, hturns, hall, hlast⟩ := ih hlater
          refine ⟨link :: links, .of server e (.fetch link) s :: attempts, ?_, rfl, ?_,
            List.forall_mem_cons.mpr ⟨hmade, hall⟩, ?_⟩
          · rw [List.map_cons, haims]
            rfl
          · simp [Attempt.filterMap_turn_cons, honward, Partner.transcript_bind, hturns]
          · have hsame : (∃ err, found = .error err) ↔ ∃ err, later = .error err := by
              rw [← hfound]
              cases later <;> simp [Except.map]
            simp [hsame, hlast, hhere]

end Endpoint
end Cloud
end PullDecoration
