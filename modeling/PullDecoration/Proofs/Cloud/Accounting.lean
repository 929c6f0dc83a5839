import PullDecoration.Proofs.Cloud.Attempts
import PullDecoration.Proofs.Cloud.Calls

/-! Reports against what was attempted. The attempts of a pass part into those of its steps, in the
order of the report, and a step has errors exactly if one of its own attempts fails. -/
namespace PullDecoration
namespace Cloud

open Http Decoration

/-- What a call wants of the service. A listing wants the first page and those that are linked
behind it. -/
inductive Wants : Call → List Aim → Prop
  | list (links : List Link) : Wants .list ((.first :: links).map .fetch)
  | create (text : String) (path : Option SourcePath) (line : Option UInt32) :
      Wants (.create text path line) [.post (.of text path line)]
  | delete (id : CommentId) : Wants (.delete id) [.delete id]

/-- The attempts that one turn of a pass is made of. -/
structure Carries (e : Endpoint) (t : Turn Reply) (part : List Attempt) : Prop where
  made : ∀ x ∈ part, x.Made e
  wants : Wants t.1 (part.map Attempt.aim)
  fails : (error? t).isSome ↔ ∃ x ∈ part, x.Fails e

/-- What a step of the report wants: the pages of a listing and then the end of each comment that it
names, the summary, or the comment on the open issue at its position. -/
inductive StepWants (a : Analysis) : Step → List Aim → Prop
  | clear {deleted failed ids : List CommentId} (links : List Link)
      (h : (deleted ++ failed).Perm ids) :
      StepWants a (.clear deleted failed) ((.first :: links).map .fetch ++ ids.map .delete)
  | summary : StepWants a .summary [.post (.of (Marker.put a.summary) none none)]
  | issue {i : Issue} {position : Nat} (h : a.issues[position]? = some i)
      (hopen : i.isOpen = true) :
      StepWants a (.issue position i.sourcePath i.anchoredLine)
        [.post (.of (Marker.put i.text) i.sourcePath i.anchoredLine)]

structure Covers (e : Endpoint) (a : Analysis) (o : StepOutcome) (part : List Attempt) : Prop where
  made : ∀ x ∈ part, x.Made e
  wants : StepWants a o.step (part.map Attempt.aim)
  fails : o.succeeded = false ↔ ∃ x ∈ part, x.Fails e

theorem isSome_error? {call : Call} {r : Reply call} :
    (error? ⟨call, r⟩).isSome ↔ ∃ err, r = .error err := by
  cases r <;> simp [error?]

theorem deletions_wanted {e : Endpoint} {turns : List (Turn Reply)} {parts : List (List Attempt)}
    (h : List.Forall₂ (Carries e) turns parts) {ids : List CommentId}
    (hcalls : turns.map (·.1) = ids.map .delete) :
    parts.flatten.map Attempt.aim = ids.map .delete := by
  induction h generalizing ids with
  | nil =>
    have hids : ids = [] := by simpa using hcalls.symm
    subst hids
    rfl
  | @cons t part turns parts hpart _ ih =>
    cases ids with
    | nil => cases hcalls
    | cons id ids =>
      obtain ⟨call, r⟩ := t
      obtain ⟨rfl, hrest⟩ := List.cons.inj hcalls
      have hwants := hpart.wants
      generalize hthere : part.map Attempt.aim = aims at hwants
      cases hwants
      rw [List.flatten_cons, List.map_append, hthere, ih hrest]
      rfl

theorem single_wanted {e : Endpoint} {turns : List (Turn Reply)} {parts : List (List Attempt)}
    (h : List.Forall₂ (Carries e) turns parts) {text : String} {path : Option SourcePath}
    {line : Option UInt32} (hcalls : turns.map (·.1) = [.create text path line]) :
    parts.flatten.map Attempt.aim = [.post (.of text path line)] := by
  cases h with
  | nil => cases hcalls
  | @cons t part turns parts hpart hrest =>
    obtain ⟨call, r⟩ := t
    obtain ⟨rfl, hnone⟩ := List.cons.inj hcalls
    have hturns : turns = [] := List.map_eq_nil_iff.mp hnone
    subst hturns
    cases hrest
    have hwants := hpart.wants
    generalize hthere : part.map Attempt.aim = aims at hwants
    cases hwants
    simpa using hthere

section Work

variable {e : Endpoint} {a : Analysis} {reply : Except ProviderError (List CommentId)}
  {toggles : Toggles}
variable {turns : List (Turn Reply)} {parts : List (List Attempt)}

theorem task_position {i : Issue} {position : Nat} (h : Task.issue i position ∈ tasks toggles a) :
    a.issues[position]? = some i ∧ i.isOpen = true := by
  have hposition : toggles.issues = true ∧ (i, position) ∈ a.openPositions := by
    simpa [tasks, postings] using h
  exact Analysis.mem_openPositions.mp hposition.2

theorem work_wants {t : Task} {step : Step} (hwork : Work a reply t turns step)
    (ht : t ∈ tasks toggles a) (hparts : List.Forall₂ (Carries e) turns parts) :
    StepWants a step (parts.flatten.map Attempt.aim) := by
  cases hwork with
  | @sweep deletions hcalls =>
    cases hparts with
    | @cons _ part _ parts hlist hrest =>
      obtain ⟨-, -, hperm⟩ := deletions_split hcalls
      have hwants := hlist.wants
      generalize hthere : part.map Attempt.aim = aims at hwants
      cases hwants with
      | list links =>
        rw [List.flatten_cons, List.map_append, hthere, deletions_wanted hrest hcalls]
        exact .clear links hperm
  | summary hcalls =>
    rw [single_wanted hparts hcalls]
    exact .summary
  | issue hcalls =>
    obtain ⟨hissue, hopen⟩ := task_position ht
    rw [single_wanted hparts hcalls]
    exact .issue hissue hopen

theorem errors_iff (hparts : List.Forall₂ (Carries e) turns parts) :
    (turns.filterMap error?).isEmpty = false ↔ ∃ x ∈ parts.flatten, x.Fails e := by
  induction hparts with
  | nil => simp
  | @cons t part turns parts hpart _ ih =>
    have hhead := hpart.fails
    cases herror : error? t with
    | none =>
      simp only [herror, Option.isSome_none, Bool.false_eq_true, false_iff] at hhead
      simp only [List.filterMap_cons, herror, ih, List.flatten_cons, List.mem_append, or_and_right,
        exists_or, hhead, false_or]
    | some err =>
      simp only [herror, Option.isSome_some, true_iff] at hhead
      obtain ⟨x, hx, hfails⟩ := hhead
      simp only [List.filterMap_cons, herror, List.isEmpty_cons, true_iff]
      exact ⟨x, List.mem_append_left _ hx, hfails⟩

theorem made_of_carries (hparts : List.Forall₂ (Carries e) turns parts) :
    ∀ x ∈ parts.flatten, x.Made e := by
  induction hparts with
  | nil => exact List.forall_mem_nil _
  | cons hpart _ ih => exact List.forall_mem_append.mpr ⟨hpart.made, ih⟩

theorem accounted_covers {ts : List Task} {outcomes : List StepOutcome}
    (h : Accounted a reply ts turns outcomes) (hts : ∀ t ∈ ts, t ∈ tasks toggles a)
    (hparts : List.Forall₂ (Carries e) turns parts) :
    ∃ groups, List.Forall₂ (Covers e a) outcomes groups ∧ groups.flatten = parts.flatten := by
  induction h generalizing parts with
  | nil =>
    cases hparts
    exact ⟨[], .nil, rfl⟩
  | @cons t ts turns rest step outcomes hwork _ ih =>
    obtain ⟨ht, hts⟩ := List.forall_mem_cons.mp hts
    have hhere := List.forall₂_take turns.length hparts
    have hbehind := List.forall₂_drop turns.length hparts
    rw [List.take_left] at hhere
    rw [List.drop_left] at hbehind
    obtain ⟨groups, hgroups, hflat⟩ := ih hts hbehind
    refine ⟨(parts.take turns.length).flatten :: groups,
      .cons ⟨?_, work_wants hwork ht hhere, errors_iff hhere⟩
      hgroups, ?_⟩
    · exact made_of_carries hhere
    · rw [List.flatten_cons, hflat, ← List.flatten_append, List.take_append_drop]

end Work

namespace Endpoint

variable {σ α : Type} {server : Server σ} {e : Endpoint} {limit : Nat}

theorem send_carries {call : Call} {aim : Aim} (haim : ∀ link, aim ≠ .fetch link)
    (hwants : Wants call [aim]) {r : Reply call} {s : σ}
    (hr : (∃ err, r = .error err) ↔ ∃ err, (server.run (send (aim.request e)) s).1 = .error err) :
    Carries e ⟨call, r⟩ [.of server e aim s] := by
  refine ⟨List.forall_mem_singleton.mpr (Attempt.of_made server e aim s), hwants, ?_⟩
  rw [isSome_error?, hr, send_fails haim]
  simp

theorem reply_carries {call : Call} {r : Reply call} {s : σ}
    (h : (server.run (e.reply limit call) s).1 = some r) :
    ∃ part, Carries e ⟨call, r⟩ part ∧
      server.transcript (e.reply limit call) s = part.filterMap Attempt.turn := by
  cases call with
  | list =>
    simp only [reply, Partner.run_bind, Partner.run_done] at h
    obtain ⟨found, hfound, rfl⟩ := Option.map_eq_some_iff.mp h
    have hrest : (server.run (e.rest limit (.start s)) s).1 = some found := hfound
    obtain ⟨links, attempts, haims, hfirst, hturns, hmade, hfails⟩ := rest_attempts hrest
    refine ⟨attempts, ⟨hmade, ?_, ?_⟩, ?_⟩
    · obtain ⟨later, rfl⟩ : ∃ later, links = .first :: later := List.head?_eq_some_iff.mp hfirst
      rw [haims]
      exact .list later
    · exact isSome_error?.trans (map_eq_error.trans hfails)
    · rw [reply, Partner.transcript_bind, Partner.transcript_done, List.append_nil]
      exact hturns
  | create text path line =>
    simp only [reply, Partner.run_bind, Partner.run_done, Option.some.injEq] at h
    subst h
    refine ⟨[.of server e (.post (.of text path line)) s],
      send_carries (fun link => Aim.noConfusion) (.create text path line) map_eq_error, ?_⟩
    rw [reply, Partner.transcript_bind, Partner.transcript_done, Attempt.filterMap_turn_cons]
    exact congrArg (· ++ []) (Attempt.transcript_send (.post (.of text path line)))
  | delete id =>
    simp only [reply, Partner.run_bind, Partner.run_done, Option.some.injEq] at h
    subst h
    refine ⟨[.of server e (.delete id) s],
      send_carries (fun link => Aim.noConfusion) (.delete id) map_eq_error, ?_⟩
    rw [reply, Partner.transcript_bind, Partner.transcript_done, Attempt.filterMap_turn_cons]
    exact congrArg (· ++ []) (Attempt.transcript_send (.delete id))

/-- The service as a provider. A listing that has no end within `limit` pages is one without an
answer. -/
def serving (server : Server σ) (e : Endpoint) (limit : Nat) : Provider σ where
  answer call s :=
    let (r, s') := server.run (e.reply limit call) s
    (r.getD (.error (.transport "")), s')

theorem answer_serving {call : Call} {r : Reply call} {s : σ}
    (h : (server.run (e.reply limit call) s).1 = some r) :
    (serving server e limit).answer call s = (r, (server.run (e.reply limit call) s).2) := by
  simp [serving, h]

/-- A pass that has a result runs through the service as it runs with a provider, and the exchange
is made of the attempts behind its turns. -/
theorem perform_serving {d : Pass α} {s : σ} {result : α}
    (h : (server.run (e.perform limit d) s).1 = some result) :
    server.run (e.perform limit d) s =
        (some ((serving server e limit).run d s).1, ((serving server e limit).run d s).2) ∧
      ∃ parts, List.Forall₂ (Carries e) ((serving server e limit).transcript d s) parts ∧
        server.transcript (e.perform limit d) s = parts.flatten.filterMap Attempt.turn := by
  induction d generalizing s with
  | done a => exact ⟨rfl, [], .nil, rfl⟩
  | ask call next ih =>
    rw [perform, Partner.run_bind] at h
    cases hreply : (server.run (e.reply limit call) s).1 with
    | none =>
      rw [hreply] at h
      cases h
    | some r =>
      rw [hreply] at h
      obtain ⟨hrun, parts, hparts, hturns⟩ := ih r h
      obtain ⟨part, hpart, hsent⟩ := reply_carries hreply
      have hanswer := answer_serving hreply
      refine ⟨?_, part :: parts, ?_, ?_⟩
      · rw [perform, Partner.run_bind, hreply, Partner.run_ask, hanswer]
        exact hrun
      · rw [Partner.transcript_ask, hanswer]
        exact .cons hpart hparts
      · rw [perform, Partner.transcript_bind, hreply, hsent, hturns, List.flatten_cons,
          List.filterMap_append]

/-- A pass over a pull request reports a step for each group of its attempts, with errors exactly
where one of the group fails, and the whole exchange is made of these groups. -/
theorem pass_covers {d : Descriptor} {key : PullRequestKey} (hkey : d.key = some key) {o : Occasion}
    {toggles : Toggles} {a : Analysis} {s : σ} {report : Report}
    (h : (server.run (e.perform limit (pass o toggles a d)) s).1 = some report) :
    report = ⟨o.runId, some key, o.started, o.finished, .ofSteps report.steps, report.steps⟩ ∧
      ∃ groups, List.Forall₂ (Covers e a) report.steps groups ∧
        server.transcript (e.perform limit (pass o toggles a d)) s =
          groups.flatten.filterMap Attempt.turn := by
  obtain ⟨hrun, parts, hparts, hturns⟩ := perform_serving h
  have hsteps := steps_accounted (serving server e limit) toggles a s
  rw [hrun] at h
  cases h
  rw [pass_of_key o toggles a hkey, Partner.transcript_bind, Partner.transcript_done,
    List.append_nil] at hparts
  obtain ⟨groups, hgroups, hflat⟩ := accounted_covers hsteps (fun _ ht => ht) hparts
  refine ⟨?_, groups, ?_, hturns.trans (by rw [hflat])⟩
  · rw [pass_of_key o toggles a hkey, Partner.run_bind]
    rfl
  · rw [pass_of_key o toggles a hkey, Partner.run_bind]
    exact hgroups

end Endpoint
end Cloud
end PullDecoration
