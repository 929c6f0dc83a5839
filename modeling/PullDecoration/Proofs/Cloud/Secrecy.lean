import PullDecoration.Cloud.Decoration
import PullDecoration.Proofs.Cloud.Clearing
import PullDecoration.Settings.Shown

/-! Where the password goes. Two endpoints that differ in nothing but the password go through the
same exchange: whatever the answers are, both are done with the same result, or both send a request
next, and the two requests differ only in what authorizes them. Nor does the password come up where
settings are put into words. -/
namespace PullDecoration

namespace Http

def Request.anonymous (r : Request) : Request :=
  { r with headers := r.headers.map fun h => if h.1 = "authorization" then (h.1, "") else h }

def Server.IgnoresAuthorization {σ : Type} (server : Server σ) : Prop :=
  ∀ (r r' : Request) (s : σ), r.anonymous = r'.anonymous → server.answer r s = server.answer r' s

/-- Whatever the answers are, the exchanges send the same requests up to the authorization, one
after the other, and come to results that are related. -/
inductive Parallel {α β : Type} (R : α → β → Prop) : Exchange α → Exchange β → Prop
  | done {a : α} {b : β} (h : R a b) : Parallel R (.done a) (.done b)
  | ask {r r' : Request} {next : Outcome → Exchange α} {next' : Outcome → Exchange β}
      (hr : r.anonymous = r'.anonymous)
      (hnext : ∀ outcome, Parallel R (next outcome) (next' outcome)) :
      Parallel R (.ask r next) (.ask r' next')

namespace Parallel

variable {α β γ δ σ : Type} {R : α → β → Prop}

theorem bind {S : γ → δ → Prop} {d : Exchange α} {d' : Exchange β} {f : α → Exchange γ}
    {f' : β → Exchange δ} (h : Parallel R d d') (hf : ∀ a b, R a b → Parallel S (f a) (f' b)) :
    Parallel S (d.bind f) (d'.bind f') := by
  induction h with
  | done h => exact hf _ _ h
  | ask hr _ ih => exact .ask hr ih

theorem bind_eq {S : γ → δ → Prop} {d d' : Exchange α} {f : α → Exchange γ} {f' : α → Exchange δ}
    (h : Parallel Eq d d') (hf : ∀ a, Parallel S (f a) (f' a)) :
    Parallel S (d.bind f) (d'.bind f') := by
  refine h.bind ?_
  rintro a _ rfl
  exact hf a

theorem through {Question : Type} {Answer : Question → Type}
    {f f' : (q : Question) → Exchange (Answer q)} (hf : ∀ q, Parallel Eq (f q) (f' q))
    (d : Dialogue Answer α) :
    Parallel Eq (d.through f) (d.through f') := by
  induction d with
  | done a => exact .done rfl
  | ask q next ih => exact (hf q).bind_eq ih

theorem run {server : Server σ} (hserver : server.IgnoresAuthorization)
    {d : Exchange α} {d' : Exchange β} (h : Parallel R d d') (s : σ) :
    (server.requests d s).map Request.anonymous = (server.requests d' s).map Request.anonymous ∧
      R (server.run d s).1 (server.run d' s).1 ∧ (server.run d s).2 = (server.run d' s).2 := by
  induction h generalizing s with
  | done h => exact ⟨rfl, h, rfl⟩
  | @ask r r' next next' hr _ ih =>
    have hanswer := hserver r r' s hr
    obtain ⟨hrequests, hresult, hstate⟩ := ih (server.answer r s).1 (server.answer r s).2
    simp only [Server.requests] at hrequests
    simp only [Server.requests, Partner.transcript_ask, Partner.run_ask,
      List.map_cons, hr, ← hanswer]
    exact ⟨congrArg _ hrequests, hresult, hstate⟩

end Parallel
end Http

def Settings.withPassword (s : Settings) (password : String) : Settings :=
  { s with credentials := { s.credentials with password } }

namespace Cloud

open Http

namespace Endpoint

variable {α : Type} {e : Endpoint} {limit : Nat}

def withPassword (e : Endpoint) (password : String) : Endpoint :=
  { e with credentials := { e.credentials with password } }

theorem ofSettings_withPassword (s : Settings) (password : String) (key : PullRequestKey) :
    ofSettings (s.withPassword password) key =
      (ofSettings s key).map (·.withPassword password) := by
  simp only [ofSettings, Settings.withPassword]
  split
  · rfl
  · split <;> rfl

theorem request_anonymous (e : Endpoint) (password : String) (method : Method) (url : Url)
    (body : Option Json.Value) :
    ((e.withPassword password).request method url body).map Request.anonymous =
      (e.request method url body).map Request.anonymous := by
  simp only [request]
  split <;> simp [Except.map, Request.anonymous]

theorem send_parallel {request request' : Except ProviderError Request}
    (h : request.map Request.anonymous = request'.map Request.anonymous) :
    Parallel Eq (send request) (send request') := by
  cases request with
  | error err =>
    cases request' with
    | error err' => cases h; exact .done rfl
    | ok r' => cases h
  | ok r =>
    cases request' with
    | error err' => cases h
    | ok r' =>
      have hr : r.anonymous = r'.anonymous := Except.ok.inj h
      have hurl : r.url = r'.url := congrArg (·.url) hr
      refine .ask hr fun outcome => .done ?_
      rw [hurl]

section Password

variable (e : Endpoint) (password : String)

theorem listRequest_anonymous (link : Link) :
    ((e.withPassword password).listRequest link).map Request.anonymous =
      (e.listRequest link).map Request.anonymous := by
  cases link with
  | first =>
    simp only [listRequest, withPassword]
    cases address e.commentsUrl with
    | error err => rfl
    | ok url => exact e.request_anonymous password .get (url.addParameter "q" markedFilter) none
  | next text =>
    have hlink : (e.withPassword password).nextPage text = e.nextPage text := rfl
    simp only [listRequest, hlink]
    cases e.nextPage text with
    | error err => rfl
    | ok url => exact e.request_anonymous password .get url none

theorem createRequest_anonymous (c : NewComment) :
    ((e.withPassword password).createRequest c).map Request.anonymous =
      (e.createRequest c).map Request.anonymous := by
  simp only [createRequest, withPassword]
  cases address e.commentsUrl with
  | error err => rfl
  | ok url => exact e.request_anonymous password .post url _

theorem deleteRequest_anonymous (id : CommentId) :
    ((e.withPassword password).deleteRequest id).map Request.anonymous =
      (e.deleteRequest id).map Request.anonymous := by
  simp only [deleteRequest, withPassword]
  cases address (e.commentsUrl ++ "/" ++ id.text) with
  | error err => rfl
  | ok url => exact e.request_anonymous password .delete url none

theorem fetch_parallel (link : Link) :
    Parallel Eq ((e.withPassword password).fetch link) (e.fetch link) :=
  (send_parallel (e.listRequest_anonymous password link)).bind_eq fun _ => .done rfl

theorem reply_parallel (limit : Nat) (call : Call) :
    Parallel Eq ((e.withPassword password).reply limit call) (e.reply limit call) := by
  cases call with
  | list =>
    have hentries : Parallel Eq ((e.withPassword password).entries limit) (e.entries limit) :=
      .through (e.fetch_parallel password) (Page.collect limit)
    exact hentries.bind_eq fun _ => .done rfl
  | create text path line =>
    exact (send_parallel (e.createRequest_anonymous password _)).bind_eq fun _ => .done rfl
  | delete id =>
    exact (send_parallel (e.deleteRequest_anonymous password id)).bind_eq fun _ => .done rfl

theorem perform_parallel (limit : Nat) {α : Type} (d : Pass α) :
    Parallel Eq ((e.withPassword password).perform limit d) (e.perform limit d) := by
  induction d with
  | done a => exact .done rfl
  | ask call next ih =>
    simp only [perform]
    refine (e.reply_parallel password limit call).bind_eq ?_
    rintro (_ | r)
    · exact .done rfl
    · exact ih r

end Password

end Endpoint

def findings (r : Report) : Option PullRequestKey × ReportStatus × List StepOutcome :=
  (r.pullRequest, r.status, r.steps)

def SameFindings (x y : Option (Except SettingsError Report)) : Prop :=
  x.map (·.map findings) = y.map (·.map findings)

section Decorate

variable (limit : Nat) (o o' : Decoration.Occasion) (s : Settings)
  (password : String) (a : Analysis) (d : Descriptor)

theorem decorate_parallel :
    Parallel SameFindings (decorate limit o' (s.withPassword password) a d)
    (decorate limit o s a d) := by
  unfold decorate
  cases hkey : d.key with
  | none => exact .done rfl
  | some key =>
    simp only [Endpoint.ofSettings_withPassword, Decoration.pass, hkey]
    cases Endpoint.ofSettings s key with
    | error e => exact .done rfl
    | ok e =>
      simp only [Except.map, Endpoint.perform_bind, Dialogue.bind_assoc]
      refine (e.perform_parallel password limit (Decoration.steps s.toggles a)).bind_eq ?_
      rintro (_ | steps)
      · exact .done rfl
      · exact .done rfl

theorem decorateSupported_parallel :
    Parallel SameFindings (decorateSupported limit o' (s.withPassword password) a d)
      (decorateSupported limit o s a d) := by
  have hbase : checkBase (s.withPassword password) = checkBase s := rfl
  unfold decorateSupported
  rw [hbase]
  cases checkBase s with
  | error e => exact .done rfl
  | ok u => exact decorate_parallel limit o o' s password a d

end Decorate

/-- What can be told from the runs of two decorations, the authorization apart, is the same. -/
structure RunsAlike {σ : Type} (server : Server σ) (state : σ)
    (x y : Exchange (Option (Except SettingsError Report))) : Prop where
  requests : (server.requests x state).map Request.anonymous =
    (server.requests y state).map Request.anonymous
  findings : SameFindings (server.run x state).1 (server.run y state).1
  left : (server.run x state).2 = (server.run y state).2

end Cloud

def RawSettings.withSecrets (s : RawSettings) (password token : String) : RawSettings :=
  { s with provider := { s.provider with
      password := s.provider.password.map fun _ => password
      token := s.provider.token.map fun _ => token } }

theorem RawSettings.shown_withSecrets (s : RawSettings) (password token : String) :
    (s.withSecrets password token).shown = s.shown := by
  simp [shown, withSecrets, ProviderSection.shown, Shown.secret?, Function.comp_def]

namespace Cloud

open Http

/-- With servers that do not look at the authorization the password makes no difference, and in
words it makes none either. -/
theorem password_only_authorizes (s : Settings) (password : String) (limit : Nat)
    (o o' : Decoration.Occasion) (a : Analysis) (d : Descriptor) :
    (∀ {σ : Type} (server : Server σ) (state : σ), server.IgnoresAuthorization →
      RunsAlike server state (decorate limit o' (s.withPassword password) a d)
      (decorate limit o s a d) ∧
        RunsAlike server state (decorateSupported limit o' (s.withPassword password) a d)
          (decorateSupported limit o s a d)) ∧
      (s.withPassword password).shown = s.shown ∧
      ∀ (raw : RawSettings) (secret token : String),
      (raw.withSecrets secret token).shown = raw.shown := by
  refine ⟨?_, rfl, RawSettings.shown_withSecrets⟩
  intro σ server state hserver
  obtain ⟨hrequests, hfindings, hleft⟩ :=
    (decorate_parallel limit o o' s password a d).run hserver state
  obtain ⟨hrequests', hfindings', hleft'⟩ :=
    (decorateSupported_parallel limit o o' s password a d).run hserver state
  exact ⟨⟨hrequests, hfindings, hleft⟩, ⟨hrequests', hfindings', hleft'⟩⟩

def sampleDecoration (s : Settings) : Exchange (Option (Except SettingsError Report)) :=
  decorate 2 .earliest s Decoration.sampleAnalysis Decoration.samplePullRequest

/-- With another password the requests are others, but not in anything that can be told without
it. -/
theorem otherPassword_runs_alike :
    sampleServer.IgnoresAuthorization ∧
      sampleServer.requests (sampleDecoration (sampleSettings.withPassword "another")) 0 ≠
        sampleServer.requests (sampleDecoration sampleSettings) 0 ∧
      RunsAlike sampleServer 0 (sampleDecoration (sampleSettings.withPassword "another"))
        (sampleDecoration sampleSettings) := by
  have hignores : sampleServer.IgnoresAuthorization := fun _ _ _ _ => rfl
  have hother : sampleServer.requests (sampleDecoration (sampleSettings.withPassword "another")) 0 ≠
      sampleServer.requests (sampleDecoration sampleSettings) 0 := by
    decide +kernel
  obtain ⟨halike, -⟩ := password_only_authorizes sampleSettings "another" 2 .earliest .earliest
    Decoration.sampleAnalysis Decoration.samplePullRequest
  exact ⟨hignores, hother, (halike sampleServer 0 hignores).1⟩

end Cloud
end PullDecoration
