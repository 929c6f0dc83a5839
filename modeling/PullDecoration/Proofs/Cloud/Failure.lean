import PullDecoration.Proofs.Cloud.Clearing
import PullDecoration.Proofs.Cloud.Listing

/-! Passes whose listing fails. Whichever page cannot be had, and for whatever reason, nothing is
deleted: the sweep reports the error of that page, and the pass goes on as one that does not
sweep. -/
namespace PullDecoration
namespace Decoration

variable {σ : Type} {toggles : Toggles}

theorem plan_of_clear (hclear : toggles.clear = true) (a : Analysis) :
    plan toggles a = clearStep :: plan { toggles with clear := false } a := by
  simp [plan, hclear]

theorem steps_of_clear (hclear : toggles.clear = true) (a : Analysis) :
    steps toggles a =
      clearStep.bind fun o => (steps { toggles with clear := false } a).bind fun os =>
        .done (o :: os) := by
  rw [steps, plan_of_clear hclear, inTurn]
  rfl

theorem inTurn_unlisted {α : Type} {units : List (Pass α)} (h : ∀ u ∈ units, u.IsUnlisted) :
    (inTurn units).IsUnlisted := by
  induction units with
  | nil => exact .done []
  | cons u units ih =>
    obtain ⟨hu, hunits⟩ := List.forall_mem_cons.mp h
    exact hu.bind fun a => (ih hunits).bind fun as => .done (a :: as)

theorem steps_unlisted (hclear : toggles.clear = false) (a : Analysis) :
    (steps toggles a).IsUnlisted := by
  refine inTurn_unlisted fun u hu => ?_
  rw [plan_eq_map_perform, tasks, hclear] at hu
  obtain ⟨t, ht, rfl⟩ := List.mem_map.mp hu
  have hsweep : Task.sweep ∉ postings toggles a := sweep_notMem_postings toggles a
  cases t with
  | sweep => exact absurd ht hsweep
  | summary => exact .ask Call.noConfusion fun reply => .done _
  | issue i position => exact .ask Call.noConfusion fun reply => .done _

end Decoration

namespace Cloud

open Http Decoration

def postedComments (toggles : Toggles) (a : Analysis) : List NewComment :=
  (if toggles.summary then [.of (Marker.put a.summary) none none] else []) ++
    (if toggles.issues then a.openIssues.map fun i => .of
      (Marker.put i.text) i.sourcePath i.anchoredLine
      else [])

namespace Endpoint

variable {σ : Type} {server : Server σ} {e : Endpoint} {s s' : σ}

theorem schedule_requests {toggles : Toggles} (hclear : toggles.clear = false)
    (e : Endpoint) (a : Analysis) (found : Reply .list) :
    (schedule toggles a found).map e.callRequest =
      (postedComments toggles a).map e.createRequest := by
  unfold schedule postedComments
  cases toggles.summary <;> cases toggles.issues <;>
    simp [hclear, summaryCall, issueCall, callRequest, Function.comp_def]

/-- A pass that does not sweep posts its comments, all of them or, where none can be posted,
none. -/
theorem steps_posts {toggles : Toggles} (hclear : toggles.clear = false)
    (server : Server σ) (e : Endpoint) (limit : Nat) (a : Analysis) (s : σ) :
    (∃ outcomes, (server.run (e.perform limit (steps toggles a)) s).1 = some outcomes) ∧
      List.Forall₂ e.Creates (if e.isPostable then postedComments toggles a else [])
        (server.requests (e.perform limit (steps toggles a)) s) := by
  have hunlisted := steps_unlisted hclear a
  refine ⟨⟨_, congrArg Prod.fst (run_perform hunlisted s)⟩, ?_⟩
  have hcalls := (steps_accounted (unlisted server e) toggles a s).calls.trans
    (tasks_calls toggles a _)
  have hrequests := requests_perform server e limit hunlisted s
  rw [hcalls, schedule_requests hclear, List.filter_map] at hrequests
  have hpostable : (Except.isOk ∘ e.createRequest) = fun _ => e.isPostable :=
    funext (createRequest_isOk e)
  rw [hpostable] at hrequests
  refine forall₂_of_map_ok (fun _ _ => creates_of_createRequest) ?_
  cases hpost : e.isPostable with
  | false => simpa [hpost] using hrequests
  | true => simpa [hpost] using hrequests

theorem clearStep_of_error {limit : Nat} {err : ProviderError}
    (hlist : server.run (e.entries limit) s = (some (.error err), s')) :
    server.run (e.perform limit clearStep) s = (some ⟨.clear [] [], [err]⟩, s') ∧
      server.requests (e.perform limit clearStep) s = server.requests (e.entries limit) s := by
  simp only [clearStep, Sweep.pass, Dialogue.ask_bind, perform, reply,
    Dialogue.bind_assoc, Partner.run_bind, requests_bind, hlist, Dialogue.done_bind]
  exact ⟨rfl, List.append_nil _⟩

theorem steps_of_error {toggles : Toggles} (hclear : toggles.clear = true) {limit : Nat}
    {err : ProviderError} (hlist : server.run (e.entries limit) s = (some (.error err), s'))
    (a : Analysis) :
    let others := e.perform limit (steps { toggles with clear := false } a)
    server.run (e.perform limit (steps toggles a)) s =
        ((server.run others s').1.map (⟨.clear [] [], [err]⟩ :: ·), (server.run others s').2) ∧
      server.requests (e.perform limit (steps toggles a)) s =
        server.requests (e.entries limit) s ++ server.requests others s' := by
  intro others
  obtain ⟨hrun, hsent⟩ := clearStep_of_error hlist
  rw [steps_of_clear hclear, perform_bind, Partner.run_bind, requests_bind, hrun, hsent]
  simp only [perform_bind, Partner.run_bind, requests_bind]
  cases (server.run others s').1 with
  | none => exact ⟨rfl, congrArg _ (List.append_nil _)⟩
  | some outcomes => exact ⟨rfl, congrArg _ (List.append_nil _)⟩

theorem pass_of_steps {d : Descriptor} {key : PullRequestKey}
    (hkey : d.key = some key) (server : Server σ) (e : Endpoint) (limit : Nat) (o : Occasion)
    (toggles : Toggles) (a : Analysis) (s : σ) :
    server.run (e.perform limit (Decoration.pass o toggles a d)) s =
        ((server.run (e.perform limit (steps toggles a)) s).1.map fun outcomes =>
          ⟨o.runId, some key, o.started, o.finished, .ofSteps outcomes, outcomes⟩,
          (server.run (e.perform limit (steps toggles a)) s).2) ∧
      server.requests (e.perform limit (Decoration.pass o toggles a d)) s =
        server.requests (e.perform limit (steps toggles a)) s := by
  rw [pass_of_key o toggles a hkey, perform_bind, Partner.run_bind, requests_bind]
  cases (server.run (e.perform limit (steps toggles a)) s).1 with
  | none => exact ⟨rfl, List.append_nil _⟩
  | some outcomes => exact ⟨rfl, List.append_nil _⟩

/-- One entry with a malformed id is enough for a page not to be had. -/
theorem pageFails_of_malformed {link : Link} {r : Request} {reply : Response} {body : String}
    {ms entry : List (String × Json.Value)} {vs : List Json.Value} {w : Json.Value}
    (hrequest : e.listRequest link = .ok r) (hreply : (server.answer r s).1 = some reply)
    (hstatus : isSuccess reply.status = true) (htext : reply.text? = some body)
    (hbody : Json.IsTextOf body (.object ms)) (hvalues : ("values", .array vs) ∈ ms)
    (hentry : .object entry ∈ vs) (hid : ("id", w) ∈ entry) (hw : EntryId.IsMalformed w) :
    ∃ err : Json.ReadError,
    PageFails server e link s [r] (.parse err.message) (server.answer r s).2 := by
  obtain ⟨err, hdecode⟩ := Page.decode_malformed hvalues hentry hid hw hbody
  exact ⟨err, .unreadable hrequest hreply hstatus htext hdecode⟩

end Endpoint

open Endpoint in
/-- A listing of which a page cannot be had is all lost. Whichever page it is and however it fails,
the error of the page is that of the listing, and nothing is asked for behind the page; the sweep
reports this error and nothing else, and the comments are posted as they are where there is no
sweep. So whatever only deletions could end is still so after the pass. -/
theorem partial_listing_sweeps_nothing {σ : Type} {server : Server σ}
    {e : Endpoint} {s between s' : σ} {fetches sent : List Request} {pages : List (Page Entry)}
    {followed : List String} {link : Link} {err : ProviderError} {limit : Nat}
    {toggles : Toggles} {d : Descriptor}
    (hreads : Reads server e (.start s) fetches pages ⟨followed, some link, between⟩)
    (hfails : PageFails server e link between sent err s') (hlimit : pages.length < limit)
    (hclear : toggles.clear = true) (hd : d.type = .pullRequest) (o : Occasion) (a : Analysis) :
    let pass := e.perform limit (Decoration.pass o toggles a d)
    let unswept := e.perform limit (Decoration.pass o { toggles with clear := false } a d)
    server.run (e.reply limit .list) s = (some (.error err), s') ∧
      server.requests (e.reply limit .list) s = fetches ++ sent ∧
      (∃ report others posts final, server.run pass s = (some report, final) ∧
        server.run unswept s' = (some others, final) ∧
        report.steps = ⟨.clear [] [], [err]⟩ :: others.steps ∧
        server.requests pass s = fetches ++ sent ++ posts ∧ server.requests unswept s' = posts ∧
        List.Forall₂ e.Creates (if e.isPostable then postedComments toggles a else []) posts) ∧
      ((∃ r, e.listRequest .first = .ok r) → e.isPostable = true) ∧
      (∀ r ∈ server.requests pass s, r.method ≠ .delete) ∧
      ∀ K : σ → Prop, (∀ r s, r.method ≠ .delete → K s → K (server.answer r s).2) → K s →
        K (server.run pass s).2 := by
  intro pass unswept
  obtain ⟨key, hkey⟩ := Option.isSome_iff_exists.mp (d.key_iff.mpr hd)
  obtain ⟨hlist, hsent⟩ := entries_of_fails hreads hfails hlimit
  obtain ⟨hreply, hasked⟩ := reply_of_fails hreads hfails hlimit
  obtain ⟨hsteps, hrequests⟩ := steps_of_error hclear hlist a
  have hoff : ({ toggles with clear := false } : Toggles).clear = false := rfl
  obtain ⟨⟨outcomes, houtcomes⟩, hposts⟩ := steps_posts hoff server e limit a s'
  obtain ⟨hpass, hpassSent⟩ := pass_of_steps hkey server e limit o toggles a s
  obtain ⟨hothers, hothersSent⟩ :=
    pass_of_steps hkey server e limit o { toggles with clear := false } a s'
  have hall : server.requests pass s = fetches ++ sent ++ server.requests unswept s' := by
    rw [hpassSent, hrequests, hsent, hothersSent]
  have hmethods : ∀ r ∈ server.requests pass s, r.method ≠ .delete := by
    intro r hr
    rw [hall, hothersSent] at hr
    rcases List.mem_append.mp hr with hr | hr
    · have hget : r.method = .get := by
        rcases List.mem_append.mp hr with hr | hr
        · exact hreads.get r hr
        · exact hfails.get r hr
      simp [hget]
    · have hcreates := hposts.flip.imp fun r c (h : e.Creates c r) => And.intro h.method h
      have hpost : r.method = .post := ((List.forall₂_and_left _ _).mp hcreates).1 r hr
      simp [hpost]
  refine ⟨hreply, hasked, ?_, ?_, hmethods, ?_⟩
  · rw [hsteps, houtcomes] at hpass
    rw [houtcomes] at hothers
    exact ⟨_, _, _, _, hpass, hothers, rfl, hall, rfl, hothersSent ▸ hposts⟩
  · rintro ⟨r, hr⟩
    exact isPostable_of_listRequest hr
  · intro K hkeep hs
    refine Partner.run_keeps server (P := fun r => r.method ≠ .delete) hkeep pass ?_ hs
    exact fun t ht => hmethods t.1 (List.mem_map_of_mem ht)

def malformedPage : Json.Value :=
  .object [("values", .array [.object [("id", .number 8)], .object [("id", .bool true)]])]

/-- The first page is sent and then the malformed one. The state counts the pages that were asked
for and the comments that are there. -/
def malformedServer : Server (Nat × Nat) where
  answer r s := match r.method with
    | .get =>
      (if s.1 = 0 then samplePages.head?.map sampleReply
        else some ⟨200, some (Utf8.encode malformedPage.text.toList)⟩, s.1 + 1, s.2)
    | .post => (some ⟨201, some []⟩, s.1, s.2 + 1)
    | .delete => (some ⟨204, some []⟩, s.1, s.2 - 1)

open Endpoint in
theorem malformedPage_sweeps_nothing :
    let link := "https://api.bitbucket.org/2.0/comments?page=2"
    ∃ r r' err,
      Reads malformedServer sampleEndpoint (.start (0, 2)) [r] (samplePages.take 1)
        ⟨[link], some (.next link), (1, 2)⟩ ∧
      PageFails malformedServer sampleEndpoint (.next link) (1, 2) [r'] err (2, 2) ∧
      ∃ report final, malformedServer.run (sampleEndpoint.perform 2
          (Decoration.pass .earliest .all Decoration.sampleAnalysis Decoration.samplePullRequest))
          (0, 2) =
            (some report, final) ∧
        report.steps.head? = some ⟨.clear [] [], [err]⟩ ∧ 2 ≤ final.2 := by
  intro link
  obtain ⟨r, hr⟩ := sampleEndpoint_first
  obtain ⟨r', hr'⟩ := sampleEndpoint_second
  have hfirst : malformedServer.answer r (0, 2) = (samplePages.head?.map sampleReply, 1, 2) := by
    simp [malformedServer, get_of_listRequest hr]
  have hsecond : malformedServer.answer r' (1, 2) =
      (some ⟨200, some (Utf8.encode malformedPage.text.toList)⟩, 2, 2) := by
    simp [malformedServer, get_of_listRequest hr']
  have hpage : Delivers (malformedServer.answer r (0, 2)).1 (samplePages.head (by decide)) := by
    rw [hfirst]
    exact (sampleReply_isPage (List.head_mem _)).delivers
  have hreads : Reads malformedServer sampleEndpoint (.start (0, 2)) [r] (samplePages.take 1)
      ⟨[link], some (.next link), (1, 2)⟩ := by
    refine .more hr hpage rfl (by decide) List.not_mem_nil ?_
    rw [hfirst]
    exact .here _
  have htext : (⟨200, some (Utf8.encode malformedPage.text.toList)⟩ : Response).text? =
      some malformedPage.text := by
    rw [Response.text?, Option.map_some, Utf8.decode_encode, String.ofList_toList]
  obtain ⟨err, hfails⟩ := pageFails_of_malformed hr' (congrArg Prod.fst hsecond) rfl htext
    (Json.Value.isTextOf_text _) List.mem_cons_self (List.mem_cons_of_mem _ List.mem_cons_self)
    List.mem_cons_self (EntryId.isMalformed_bool true)
  rw [hsecond] at hfails
  obtain ⟨-, -, ⟨report, others, posts, final, hrun, -, hsteps, -⟩, -, -, hkeep⟩ :=
    partial_listing_sweeps_nothing hreads hfails (by decide : (samplePages.take 1).length < 2)
      (rfl : Toggles.all.clear = true)
      (rfl : Decoration.samplePullRequest.type = .pullRequest) .earliest
      Decoration.sampleAnalysis
  refine ⟨r, r', _, hreads, hfails, report, final, hrun, by rw [hsteps]; rfl, ?_⟩
  have hcount := hkeep (fun s => 2 ≤ s.2) ?_ (Nat.le_refl 2)
  · rwa [hrun] at hcount
  · intro r s hmethod hs
    cases hr : r.method with
    | get => simpa [malformedServer, hr] using hs
    | post =>
      simp only [malformedServer, hr]
      omega
    | delete => exact absurd hr hmethod

end Cloud
end PullDecoration
