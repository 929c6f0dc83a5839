import PullDecoration.Proofs.Analysis.Comments
import PullDecoration.Proofs.Transcript
import PullDecoration.Report.Pass

/-! What a decoration pass asks of its provider, and what it reports. The calls of a pass are fixed
by the toggles, the analysis and the first listing; no failure adds, drops or changes a later one.
The report goes through the same calls: it has a step for each unit of work, with the errors of that
unit's own calls. -/
namespace PullDecoration
namespace Decoration

variable {σ : Type}

def listed : Except ProviderError (List CommentId) → List CommentId
  | .ok ids => ids
  | .error _ => []

def summaryCall (a : Analysis) : Call := .create (Marker.put a.summary) none none

def issueCall (i : Issue) : Call := .create (Marker.put i.text) i.sourcePath i.anchoredLine

def schedule (toggles : Toggles) (a : Analysis) (reply : Except ProviderError (List CommentId)) :
    List Call :=
  (if toggles.clear then .list :: (listed reply).map .delete else []) ++
    (if toggles.summary then [summaryCall a] else []) ++
    (if toggles.issues then a.openIssues.map issueCall else [])

inductive Task
  | sweep
  | summary
  | issue (i : Issue) (position : Nat)

def postings (toggles : Toggles) (a : Analysis) : List Task :=
  (if toggles.summary then [.summary] else []) ++
    (if toggles.issues then a.openPositions.map fun p => .issue p.1 p.2 else [])

def tasks (toggles : Toggles) (a : Analysis) : List Task :=
  (if toggles.clear then [.sweep] else []) ++ postings toggles a

def error? : Turn Reply → Option ProviderError
  | ⟨_, .error e⟩ => some e
  | ⟨_, .ok _⟩ => none

def deletedId? : Turn Reply → Option CommentId
  | ⟨.delete id, .ok _⟩ => some id
  | _ => none

def keptId? : Turn Reply → Option CommentId
  | ⟨.delete id, .error _⟩ => some id
  | _ => none

/-- The turns that a unit of work takes if the listing gets this reply, and the step that stands for
them in the report. -/
inductive Work (a : Analysis) (reply : Except ProviderError (List CommentId)) :
    Task → List (Turn Reply) → Step → Prop
  | sweep {deletions : List (Turn Reply)}
      (h : deletions.map (·.1) = (listed reply).map .delete) :
      Work a reply .sweep (⟨.list, reply⟩ :: deletions)
        (.clear (deletions.filterMap deletedId?) (deletions.filterMap keptId?))
  | summary {turns : List (Turn Reply)} (h : turns.map (·.1) = [summaryCall a]) :
      Work a reply .summary turns .summary
  | issue {i : Issue} {position : Nat} {turns : List (Turn Reply)}
      (h : turns.map (·.1) = [issueCall i]) :
      Work a reply (.issue i position) turns (.issue position i.sourcePath i.anchoredLine)

/-- Turns and outcomes that go through units of work one by one, each outcome with the errors of the
turns of its own unit. -/
inductive Accounted (a : Analysis) (reply : Except ProviderError (List CommentId)) :
    List Task → List (Turn Reply) → List StepOutcome → Prop
  | nil : Accounted a reply [] [] []
  | cons {t : Task} {ts : List Task} {turns rest : List (Turn Reply)} {step : Step}
      {outcomes : List StepOutcome} (hwork : Work a reply t turns step)
      (hrest : Accounted a reply ts rest outcomes) :
      Accounted a reply (t :: ts) (turns ++ rest) (⟨step, turns.filterMap error?⟩ :: outcomes)

def position? (o : StepOutcome) : Option Nat :=
  match o.step with
  | .issue index _ _ => some index
  | .clear .. | .summary => none

def Task.calls (a : Analysis) (reply : Except ProviderError (List CommentId)) : Task → List Call
  | .sweep => .list :: (listed reply).map .delete
  | .summary => [summaryCall a]
  | .issue i _ => [issueCall i]

def Task.position? : Task → Option Nat
  | .issue _ position => some position
  | .sweep | .summary => none

theorem tasks_calls (toggles : Toggles) (a : Analysis)
    (reply : Except ProviderError (List CommentId)) :
    (tasks toggles a).flatMap (Task.calls a reply) = schedule toggles a reply := by
  have hissues : (a.openPositions.map fun p => Task.issue p.1 p.2).flatMap (Task.calls a reply) =
      a.openIssues.map issueCall := by
    rw [← a.openPositions_map_fst, List.flatMap_map, List.map_map]
    exact List.map_eq_flatMap.symm
  unfold tasks postings schedule
  cases toggles.clear <;> cases toggles.summary <;> cases toggles.issues <;>
    simp [Task.calls, hissues]

theorem tasks_positions (toggles : Toggles) (a : Analysis) :
    (tasks toggles a).filterMap Task.position? =
      if toggles.issues then a.openPositions.map (·.2) else [] := by
  have hissues : (a.openPositions.map fun p => Task.issue p.1 p.2).filterMap Task.position? =
      a.openPositions.map (·.2) := by
    rw [List.filterMap_map]
    exact congrFun (List.filterMap_eq_map (f := Prod.snd)) a.openPositions
  unfold tasks postings
  cases toggles.clear <;> cases toggles.summary <;> cases toggles.issues <;>
    simp [List.filterMap_cons, Task.position?, hissues]

theorem sweep_notMem_postings (toggles : Toggles) (a : Analysis) :
    Task.sweep ∉ postings toggles a := by
  simp [postings]

namespace Work

variable {a : Analysis} {reply reply' : Except ProviderError (List CommentId)} {t : Task}
variable {turns : List (Turn Reply)} {step : Step}

theorem calls (h : Work a reply t turns step) : turns.map (·.1) = t.calls a reply := by
  cases h with
  | sweep h => simpa [Task.calls] using h
  | summary h => exact h
  | issue h => exact h

theorem position (h : Work a reply t turns step) (errors : List ProviderError) :
    position? ⟨step, errors⟩ = t.position? := by
  cases h <;> rfl

theorem of_ne_sweep (h : Work a reply t turns step) (ht : t ≠ .sweep) :
    Work a reply' t turns step := by
  cases h with
  | sweep h => exact absurd rfl ht
  | summary h => exact .summary h
  | issue h => exact .issue h

end Work

/-- Deletions in the order of a listing part it into what is gone and what is left. -/
theorem deletions_split {ids : List CommentId} {deletions : List (Turn Reply)}
    (h : deletions.map (·.1) = ids.map .delete) :
    (deletions.filterMap deletedId?).Sublist ids ∧ (deletions.filterMap keptId?).Sublist ids ∧
      (deletions.filterMap deletedId? ++ deletions.filterMap keptId?).Perm ids := by
  induction deletions generalizing ids with
  | nil =>
    have hids : ids = [] := by simpa using h.symm
    subst hids
    simp
  | cons turn deletions ih =>
    cases ids with
    | nil => simp at h
    | cons id ids =>
      obtain ⟨call, answer⟩ := turn
      simp only [List.map_cons, List.cons.injEq] at h
      obtain ⟨rfl, htail⟩ := h
      obtain ⟨hdeleted, hkept, hperm⟩ := ih htail
      cases answer with
      | ok _ => exact ⟨hdeleted.cons_cons id, hkept.cons id, hperm.cons id⟩
      | error e =>
        refine ⟨hdeleted.cons id, hkept.cons_cons id, ?_⟩
        exact List.perm_middle.trans (hperm.cons id)

theorem deleteAll_turns (p : Provider σ) (ids : List CommentId) (s : σ) :
    (p.transcript (Sweep.deleteAll ids) s).map (·.1) = ids.map .delete ∧
      (p.run (Sweep.deleteAll ids) s).1.deleted =
        (p.transcript (Sweep.deleteAll ids) s).filterMap deletedId? ∧
      (p.run (Sweep.deleteAll ids) s).1.failed.map (·.id) =
        (p.transcript (Sweep.deleteAll ids) s).filterMap keptId? ∧
      (p.run (Sweep.deleteAll ids) s).1.failed.map (·.error) =
        (p.transcript (Sweep.deleteAll ids) s).filterMap error? := by
  induction ids generalizing s with
  | nil => simp [Sweep.deleteAll, Sweep.none]
  | cons id ids ih =>
    obtain ⟨hcalls, hdeleted, hkept, herrors⟩ := ih (p.answer (.delete id) s).2
    simp only [Sweep.deleteAll, Partner.transcript_ask, Partner.run_ask, Partner.transcript_bind,
      Partner.run_bind, Partner.transcript_done, Partner.run_done, List.append_nil]
    cases (p.answer (.delete id) s).1 with
    | ok u =>
      cases u
      simp [Sweep.note, List.filterMap_cons, deletedId?, keptId?, error?, hcalls, hdeleted, hkept,
        herrors]
    | error e =>
      simp [Sweep.note, List.filterMap_cons, deletedId?, keptId?, error?, hcalls, hdeleted, hkept,
        herrors]

def perform (a : Analysis) : Task → Pass StepOutcome
  | .sweep => clearStep
  | .summary => summaryStep a
  | .issue i position => issueStep i position

theorem plan_eq_map_perform (toggles : Toggles) (a : Analysis) :
    plan toggles a = (tasks toggles a).map (perform a) := by
  unfold plan tasks postings
  cases toggles.clear <;> cases toggles.summary <;> cases toggles.issues <;> simp [perform]

/-- A unit of one call reports the error of that call, if there is one. -/
theorem run_single (p : Provider σ) (call : Call) (step : Step) (s : σ) :
    (p.run (.ask call fun reply => .done (⟨step, errorsOf reply⟩ : StepOutcome)) s).1 =
      ⟨step, [(⟨call, (p.answer call s).1⟩ : Turn Reply)].filterMap error?⟩ := by
  rw [Partner.run_ask, Partner.run_done]
  cases (p.answer call s).1 <;> rfl

theorem perform_work (p : Provider σ) (a : Analysis) (t : Task) (s : σ) :
    ∃ step, Work a (p.answer .list s).1 t (p.transcript (perform a t) s) step ∧
      (p.run (perform a t) s).1 = ⟨step, (p.transcript (perform a t) s).filterMap error?⟩ := by
  cases t with
  | sweep =>
    simp only [perform, clearStep, Sweep.pass, Dialogue.ask_bind, Partner.transcript_ask,
      Partner.run_ask]
    cases hreply : (p.answer .list s).1 with
    | error e => exact ⟨_, .sweep (by rfl), rfl⟩
    | ok ids =>
      obtain ⟨hcalls, hdeleted, hkept, herrors⟩ := deleteAll_turns p ids (p.answer .list s).2
      simp only [Dialogue.bind_assoc, Dialogue.done_bind, Partner.transcript_bind, Partner.run_bind,
        Partner.transcript_done, Partner.run_done, List.append_nil]
      refine ⟨_, .sweep hcalls, ?_⟩
      simp [sweepOutcome, hdeleted, hkept, herrors, List.filterMap_cons, error?]
  | summary => exact ⟨_, .summary rfl, run_single p (summaryCall a) .summary s⟩
  | issue i position => exact ⟨_, .issue rfl, run_single p (issueCall i) _ s⟩

theorem postings_accounted (p : Provider σ) (a : Analysis)
    (reply : Except ProviderError (List CommentId)) {ts : List Task}
    (hts : Task.sweep ∉ ts) (s : σ) :
    Accounted a reply ts (p.transcript (inTurn (ts.map (perform a))) s)
      (p.run (inTurn (ts.map (perform a))) s).1 := by
  induction ts generalizing s with
  | nil => exact .nil
  | cons t ts ih =>
    obtain ⟨step, hwork, hrun⟩ := perform_work p a t s
    have ht : t ≠ .sweep := fun h => hts (h ▸ List.mem_cons_self)
    have hrest := ih (fun h => hts (List.mem_cons_of_mem _ h)) (p.run (perform a t) s).2
    have h := Accounted.cons (hwork.of_ne_sweep ht) hrest
    simpa only [List.map_cons, inTurn, Partner.transcript_bind, Partner.run_bind,
      Partner.transcript_done, Partner.run_done, List.append_nil, hrun] using h

/-- A sweep comes first if there is one, so that its listing is the first call of all. -/
theorem steps_accounted (p : Provider σ) (toggles : Toggles) (a : Analysis) (s : σ) :
    Accounted a (p.answer .list s).1 (tasks toggles a) (p.transcript (steps toggles a) s)
      (p.run (steps toggles a) s).1 := by
  have hposts := sweep_notMem_postings toggles a
  rw [steps, plan_eq_map_perform, tasks]
  cases toggles.clear with
  | false => exact postings_accounted p a _ hposts s
  | true =>
    obtain ⟨step, hwork, hrun⟩ := perform_work p a .sweep s
    have hrest := postings_accounted p a (p.answer .list s).1 hposts (p.run (perform a .sweep) s).2
    have h := Accounted.cons hwork hrest
    simpa only [if_true, List.singleton_append, List.map_cons, inTurn, Partner.transcript_bind,
      Partner.run_bind, Partner.transcript_done, Partner.run_done, List.append_nil, hrun] using h

namespace Accounted

variable {a : Analysis} {reply : Except ProviderError (List CommentId)} {ts : List Task}
variable {turns : List (Turn Reply)} {outcomes : List StepOutcome}

theorem calls (h : Accounted a reply ts turns outcomes) :
    turns.map (·.1) = ts.flatMap (Task.calls a reply) := by
  induction h with
  | nil => rfl
  | cons hwork _ ih => rw [List.map_append, List.flatMap_cons, hwork.calls, ih]

theorem positions (h : Accounted a reply ts turns outcomes) :
    outcomes.filterMap position? = ts.filterMap Task.position? := by
  induction h with
  | nil => rfl
  | cons hwork _ ih => simp only [List.filterMap_cons, hwork.position, ih]

theorem errors (h : Accounted a reply ts turns outcomes) :
    outcomes.flatMap (·.errors) = turns.filterMap error? := by
  induction h with
  | nil => rfl
  | cons _ _ ih => rw [List.flatMap_cons, List.filterMap_append, ih]

theorem split (h : Accounted a reply ts turns outcomes) {deleted failed : List CommentId}
    {errors : List ProviderError} (hmem : ⟨.clear deleted failed, errors⟩ ∈ outcomes) :
    deleted.Sublist (listed reply) ∧ failed.Sublist (listed reply) ∧
      (deleted ++ failed).Perm (listed reply) := by
  induction h with
  | nil => cases hmem
  | cons hwork _ ih =>
    rcases List.mem_cons.mp hmem with heq | hmem
    · cases hwork with
      | sweep h =>
        cases heq
        exact deletions_split h
      | summary h => cases heq
      | issue h => cases heq
    · exact ih hmem

end Accounted

theorem ofSteps_eq (steps : List StepOutcome) :
    ReportStatus.ofSteps steps =
      if steps.flatMap (·.errors) = [] then .completed else .completedWithFailures := by
  simp [ReportStatus.ofSteps, StepOutcome.succeeded, List.flatMap_eq_nil_iff]

theorem pass_of_key (o : Occasion) (toggles : Toggles) (a : Analysis) {d : Descriptor}
    {key : PullRequestKey} (hkey : d.key = some key) :
    pass o toggles a d = (steps toggles a).bind fun steps =>
      .done ⟨o.runId, some key, o.started, o.finished, .ofSteps steps, steps⟩ := by
  simp [pass, hkey]

/-- Against every provider a pass over a pull request makes the calls of its schedule, in that
order, and its report accounts for each of them: a step for each unit of work with the errors of the
unit's own calls, steps for the open issues at their positions, and a sweep that parts the listing
by what became of each id. -/
theorem pass_follows_schedule (p : Provider σ) (s : σ) (o : Occasion) (toggles : Toggles)
    (a : Analysis) {d : Descriptor} (hd : d.type = .pullRequest) :
    let reply := (p.answer .list s).1
    let turns := p.transcript (pass o toggles a d) s
    let report := (p.run (pass o toggles a d) s).1
    (p.recording.run (pass o toggles a d) (s, [])).2.2 = schedule toggles a reply ∧
      Accounted a reply (tasks toggles a) turns report.steps ∧
      (d.key.isSome ∧ report.pullRequest = d.key) ∧
      (report.steps.filterMap position?).Pairwise (· < ·) ∧
      (∀ n, n ∈ report.steps.filterMap position? ↔
        toggles.issues ∧ ∃ i, a.issues[n]? = some i ∧ i.isOpen = true) ∧
      (∀ deleted failed errors, ⟨.clear deleted failed, errors⟩ ∈ report.steps →
        deleted.Sublist (listed reply) ∧ failed.Sublist (listed reply) ∧
          (deleted ++ failed).Perm (listed reply)) ∧
      report.status = if turns.filterMap error? =
        [] then .completed else .completedWithFailures := by
  intro reply turns report
  obtain ⟨key, hkey⟩ := Option.isSome_iff_exists.mp (d.key_iff.mpr hd)
  have hpass := pass_of_key o toggles a hkey
  have hturns : turns = p.transcript (steps toggles a) s := by
    simp [turns, hpass, Partner.transcript_bind]
  have hreport : report = ⟨o.runId, some key, o.started, o.finished,
      .ofSteps (p.run (steps toggles a) s).1, (p.run (steps toggles a) s).1⟩ := by
    simp [report, hpass, Partner.run_bind]
  have hacc : Accounted a reply (tasks toggles a) turns report.steps := by
    rw [hturns, hreport]
    exact steps_accounted p toggles a s
  have hcalls : turns.map (·.1) = schedule toggles a reply :=
    hacc.calls.trans (tasks_calls toggles a reply)
  have hpositions : report.steps.filterMap position? =
      if toggles.issues then a.openPositions.map (·.2) else [] :=
    hacc.positions.trans (tasks_positions toggles a)
  refine ⟨?_, hacc, ?_, ?_, ?_, ?_, ?_⟩
  · simpa [Partner.run_recording] using hcalls
  · simp [hkey, hreport]
  · rw [hpositions]
    cases toggles.issues
    · exact .nil
    · exact a.openPositions_increasing
  · intro n
    rw [hpositions]
    cases toggles.issues
    · simp
    · simpa using Analysis.mem_openPositions_map_snd
  · exact fun _ _ _ hmem => hacc.split hmem
  · rw [← hacc.errors, ← ofSteps_eq, hreport]

def Occasion.earliest : Occasion :=
  let start : Timestamp := ⟨.clockStart, 0, 0, 0, by decide⟩
  ⟨.ofDrawn fun _ => 0, start, start⟩

def sampleAnalysis : Analysis :=
  ⟨[⟨"first", .major, .opened, none, some "./src\\lib.rs", some 12⟩,
      ⟨"gone", .minor, .closed, none, some "src/lib.rs", some 3⟩,
      ⟨"second", .info, .reopened, none, none, some 7⟩], ⟨.failed, [], none⟩⟩

def samplePullRequest : Descriptor :=
  .pullRequest ⟨"feature/x", by decide⟩ ⟨"99", by decide⟩ conventionalMain ⟨"uuid", by decide⟩

def refusingEveryOther : Provider Nat where
  answer
    | .list, n => (.ok [⟨"7", by decide⟩, ⟨"9", by decide⟩], n + 1)
    | .create .., n => (if n % 2 = 0 then .error (.api 503 "busy") else .ok (), n + 1)
    | .delete _, n => (if n % 2 = 0 then .error (.transport "reset") else .ok (), n + 1)

theorem refusingEveryOther_pass :
    samplePullRequest.type = .pullRequest ∧
      (refusingEveryOther.recording.run
        (pass .earliest .all sampleAnalysis samplePullRequest) (0, [])).2.2 =
          [.list, .delete ⟨"7", by decide⟩, .delete ⟨"9", by decide⟩, summaryCall sampleAnalysis,
            .create (Marker.put "**MAJOR**: first") (some ⟨"src/lib.rs", by decide⟩) (some 12),
            .create (Marker.put "**INFO**: second") none none] ∧
      (refusingEveryOther.run (pass .earliest .all sampleAnalysis samplePullRequest) 0).1.status =
        .completedWithFailures := by
  have h := pass_follows_schedule refusingEveryOther 0 .earliest .all sampleAnalysis
    (d := samplePullRequest) rfl
  obtain ⟨hcalls, -, -, -, -, -, hstatus⟩ := h
  refine ⟨rfl, hcalls.trans ?_, hstatus.trans ?_⟩
  · decide +kernel
  · decide +kernel

end Decoration
end PullDecoration
