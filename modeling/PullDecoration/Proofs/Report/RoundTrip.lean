import PullDecoration.Proofs.Json.RoundTrip
import PullDecoration.Proofs.Report.RunId
import PullDecoration.Proofs.Report.Timestamp
import PullDecoration.Report.Basic

/-! Reports lose nothing on the wire. The members of a step stand beside its errors, and those of
the status among those of the report; none of them shares a name with another, so that each reader
finds its own. -/
namespace PullDecoration

open Json

variable {level : Nat}

theorem RunId.keeps (id : RunId) : RunId.codec.Keeps level id := by
  refine ⟨.string _, ?_⟩
  have hread : readString "a formatted UUID string" ((Value.string id.text).document level) =
      .ok id.text :=
    rfl
  simp [codec, hread, ofString_text, mapError_ok, bind, Except.bind]

theorem Timestamp.keeps (t : Timestamp) : Timestamp.codec.Keeps level t := by
  refine ⟨.string _, ?_⟩
  have hread (s : String) : readString "an RFC 3339 formatted date and time string"
      ((Value.string s).document level) = .ok s := rfl
  simp only [codec, hread, ofString_text, mapError_ok, bind, Except.bind]

namespace ProviderError

theorem isTagged (e : ProviderError) : IsTagged "kind" alternatives level e.members e := by
  have hmessage (m : String) : messageField.Keeps level m :=
    RecordField.keeps_required (Codec.keeps_string m)
  cases e with
  | configuration m =>
    have hfind : findAlternative alternatives "configuration" = .ok _ := rfl
    exact isTagged_record (m, ()) hfind (by decide) ⟨hmessage m, trivial⟩
  | transport m =>
    have hfind : findAlternative alternatives "transport" = .ok _ := rfl
    exact isTagged_record (m, ()) hfind (by decide) ⟨hmessage m, trivial⟩
  | api status m =>
    have hfind : findAlternative alternatives "api" = .ok _ := rfl
    have hstatus : (RecordField.required "status" .u16).Keeps level status := Codec.keeps_u16 status
    exact isTagged_record (status, m, ()) hfind (by decide) ⟨hstatus, hmessage m, trivial⟩
  | parse m =>
    have hfind : findAlternative alternatives "parse" = .ok _ := rfl
    exact isTagged_record (m, ()) hfind (by decide) ⟨hmessage m, trivial⟩

theorem keeps (hlevel : level < readableLevels) (e : ProviderError) :
    ProviderError.codec.Keeps level e :=
  keeps_tagged hlevel e.isTagged

def kind : ProviderError → String
  | .configuration _ => "configuration"
  | .transport _ => "transport"
  | .api _ _ => "api"
  | .parse _ => "parse"

def detail : ProviderError → String
  | .configuration m | .transport m | .api _ m | .parse m => m

/-- An object that carries the kind of the error and its message, each of them once. -/
inductive ShownIn (e : ProviderError) : Value → Prop
  | object {ms : List (String × Value)} (hkind : valuesOf "kind" ms = [.string e.kind])
      (hmessage : valuesOf "message" ms = [.string e.detail]) : ShownIn e (.object ms)

theorem shownIn_write (e : ProviderError) : e.ShownIn (codec.write e) := by
  cases e <;> exact .object rfl rfl

end ProviderError

namespace Step

def IndexFits : Step → Prop
  | .issue index _ _ => index < UInt64.size
  | .clear _ _ | .summary => True

theorem isTagged (hlevel : level < readableLevels) (s : Step) (hindex : s.IndexFits) :
    IsTagged "step" alternatives level s.members s := by
  have hids (ids : List CommentId) : (Identifier.codec.list).Keeps level ids :=
    Codec.keeps_list hlevel fun id _ => id.keeps
  cases s with
  | clear deleted failed =>
    have hfind : findAlternative alternatives "clear_stale_comments" = .ok _ := rfl
    exact isTagged_record (deleted, failed, ()) hfind (by decide)
      ⟨RecordField.keeps_required (hids deleted),
        RecordField.keeps_optionalList (hids failed), trivial⟩
  | summary =>
    have hfind : findAlternative alternatives "post_summary" =
      .ok (.unit "post_summary" .summary) := rfl
    exact isTagged_unit hfind
  | issue index path line =>
    have hfind : findAlternative alternatives "post_issue" = .ok _ := rfl
    have hpath : (Identifier.codec.option).Keeps level path :=
      Codec.keeps_option (fun id => by simp [Identifier.codec, Codec.refine, Codec.string])
        fun id _ => id.keeps
    have hline : (Codec.option .u32).Keeps level line :=
      Codec.keeps_option (fun n => by simp [Codec.u32]) fun n _ => Codec.keeps_u32 n
    exact isTagged_record (index, path, line, ()) hfind (by decide)
      ⟨RecordField.keeps_required (Codec.keeps_natural "usize" hindex (Nat.le_refl _)),
        RecordField.keeps_optional hpath, RecordField.keeps_optional hline, trivial⟩

theorem names_nodup (s : Step) :
    (s.members.map Prod.fst ++ StepOutcome.errorField.names).Nodup := by
  cases s with
  | clear deleted failed =>
    have hnames := (clearFields.names_write_sublist (deleted, failed, ())).cons_cons "step"
    exact List.Nodup.sublist (hnames.append_right _) (by decide)
  | summary => decide
  | issue index path line =>
    have hnames := (issueFields.names_write_sublist (index, path, line, ())).cons_cons "step"
    exact List.Nodup.sublist (hnames.append_right _) (by decide)

end Step

namespace StepOutcome

theorem errorField_keeps (hlevel : level + 1 < readableLevels) (errors : List ProviderError) :
    errorField.Keeps level (errors, ()) := by
  have herrors : (ProviderError.codec.list).Keeps level errors :=
    Codec.keeps_list (Nat.lt_of_succ_lt hlevel) fun e _ => e.keeps hlevel
  exact ⟨RecordField.keeps_optionalList herrors, trivial⟩

theorem keeps (hlevel : level + 2 < readableLevels) (o : StepOutcome) (hindex : o.step.IndexFits) :
    StepOutcome.codec.Keeps level o := by
  have hobject : level < readableLevels := by omega
  have hstep : IsTagged "step" Step.alternatives (level + 1) o.step.members o.step :=
    o.step.isTagged (by omega) hindex
  have herrors := errorField_keeps hlevel o.errors
  have hwrite : [] ++ errorField.write (o.errors, ()) = errorField.write (o.errors, ()) := rfl
  refine ⟨hstep.plain_among hobject hwrite herrors o.step.names_nodup, ?_⟩
  have hread := hstep.read_among "struct StepOutcome" hobject hwrite herrors o.step.names_nodup
  rw [List.nil_append] at hread
  simp only [codec, hread, bind, Except.bind, pure, Except.pure]

/-- An object with an error object for each error, and without a list of them if there are none. -/
inductive ShowsErrors (o : StepOutcome) : Value → Prop
  | none {ms : List (String × Value)} (h : valuesOf "errors" ms = []) (hdone : o.errors = []) :
      ShowsErrors o (.object ms)
  | some {ms : List (String × Value)} {vs : List Value} (h : valuesOf "errors" ms = [.array vs])
      (hshown : List.Forall₂ ProviderError.ShownIn o.errors vs) : ShowsErrors o (.object ms)

theorem showsErrors_write (o : StepOutcome) : o.ShowsErrors (codec.write o) := by
  have hstep : valuesOf "errors" o.step.members = [] :=
    valuesOf_of_notMem fun hmem =>
      (List.nodup_append'.mp o.step.names_nodup).2.2 hmem List.mem_cons_self
  obtain ⟨step, errors⟩ := o
  cases errors with
  | nil =>
    refine .none ?_ rfl
    rw [valuesOf_append, hstep]
    rfl
  | cons e errors =>
    have hshown : List.Forall₂ ProviderError.ShownIn (e :: errors)
        ((e :: errors).map ProviderError.codec.write) := by
      rw [List.forall₂_map_right_iff]
      exact List.forall₂_same.mpr fun e _ => e.shownIn_write
    refine .some ?_ hshown
    rw [valuesOf_append, hstep]
    rfl

end StepOutcome

namespace ReportStatus

theorem isTagged (s : ReportStatus) : IsTagged "status" alternatives level s.members s := by
  cases s with
  | completed =>
    have hfind : findAlternative alternatives "completed" =
      .ok (.unit "completed" .completed) := rfl
    exact isTagged_unit hfind
  | completedWithFailures =>
    have hfind : findAlternative alternatives "completed_with_failures" =
        .ok (.unit "completed_with_failures" .completedWithFailures) := rfl
    exact isTagged_unit hfind
  | skipped reason =>
    have hfind : findAlternative alternatives "skipped" = .ok _ := rfl
    exact isTagged_record (reason, ()) hfind (by decide)
      ⟨RecordField.keeps_required (Codec.keeps_string reason), trivial⟩

theorem names_nodup (s : ReportStatus) : (s.members.map Prod.fst ++ Report.fields.names).Nodup := by
  cases s with
  | completed => decide
  | completedWithFailures => decide
  | skipped reason =>
    have hnames : (["status", "reason"] ++ Report.fields.names).Nodup := by decide
    exact hnames

end ReportStatus

namespace Report

theorem fields_keeps (hlevel : level + 3 < readableLevels) (r : Report)
    (hindex : ∀ o ∈ r.steps, o.step.IndexFits) :
    fields.Keeps level (r.runId, r.pullRequest, r.started, r.finished, r.steps, ()) := by
  have hkey : (Identifier.codec.option).Keeps level r.pullRequest :=
    Codec.keeps_option (fun id => by simp [Identifier.codec, Codec.refine, Codec.string])
      fun id _ => id.keeps
  have hsteps : (StepOutcome.codec.list).Keeps level r.steps :=
    Codec.keeps_list (by omega) fun o ho => o.keeps hlevel (hindex o ho)
  exact ⟨RecordField.keeps_required r.runId.keeps, RecordField.keeps_nullable hkey,
    RecordField.keeps_required r.started.keeps, RecordField.keeps_required r.finished.keeps,
    RecordField.keeps_required hsteps, trivial⟩

theorem keeps (r : Report) (hindex : ∀ o ∈ r.steps, o.step.IndexFits) : Report.codec.Keeps 0 r := by
  have hlevel : 0 < readableLevels := by decide
  have hstatus : IsTagged "status" ReportStatus.alternatives 1 r.status.members r.status :=
    r.status.isTagged
  have hfields : fields.Keeps 1 (r.runId, r.pullRequest, r.started, r.finished, r.steps, ()) :=
    r.fields_keeps (by decide) hindex
  have hwrite : headFields.write (r.runId, r.pullRequest, r.started, r.finished, ()) ++
      [(stepField.name, stepField.codec.write r.steps)] =
      fields.write (r.runId, r.pullRequest, r.started, r.finished, r.steps, ()) := rfl
  refine ⟨hstatus.plain_among hlevel hwrite hfields r.status.names_nodup, ?_⟩
  have hread :=
    hstatus.read_among "struct DecorationReport" hlevel hwrite hfields r.status.names_nodup
  simp only [codec, members, hread, bind, Except.bind, pure, Except.pure]

inductive ShowsErrors (r : Report) : Value → Prop
  | object {ms : List (String × Value)} {vs : List Value} (h : valuesOf "steps" ms = [.array vs])
      (hshown : List.Forall₂ StepOutcome.ShowsErrors r.steps vs) : ShowsErrors r (.object ms)

theorem showsErrors_write (r : Report) : r.ShowsErrors (codec.write r) := by
  have hstatus : valuesOf "steps" r.status.members = [] := by
    refine valuesOf_of_notMem fun hmem => ?_
    exact (List.nodup_append'.mp r.status.names_nodup).2.2 hmem (by decide)
  have hhead : valuesOf "steps"
    (headFields.write (r.runId, r.pullRequest, r.started, r.finished, ())) =
      [] := rfl
  have hshown : List.Forall₂ StepOutcome.ShowsErrors r.steps
      (r.steps.map StepOutcome.codec.write) := by
    rw [List.forall₂_map_right_iff]
    exact List.forall₂_same.mpr fun o _ => o.showsErrors_write
  refine .object ?_ hshown
  rw [members, valuesOf_append, valuesOf_append, hhead, hstatus]
  rfl

/-- Whatever a report holds, it can be written, no member in it clashes with another, every error
shows, and both layouts are read as the report. -/
theorem read_written (r : Report) (hindex : ∀ o ∈ r.steps, o.step.IndexFits) :
    (codec.write r).Plain 0 ∧ r.ShowsErrors (codec.write r) ∧
      codec.decode (codec.encode r) = .ok r ∧ codec.decode (codec.write r).prettyText = .ok r := by
  have hkeeps := r.keeps hindex
  exact ⟨hkeeps.plain, r.showsErrors_write, hkeeps.decode (Value.isTextOf_text _),
    hkeeps.decode (Value.isTextOf_prettyText _)⟩

/-- A report with each kind of step and of error, and with nothing left out that may be left out. -/
def sample : Report where
  runId := .ofDrawn fun _ => 0
  pullRequest := some ⟨"31", by decide⟩
  started := ⟨⟨2024, 2, 29⟩, 754, 60, 123456789, by decide⟩
  finished := ⟨⟨-1, 12, 31⟩, 1439, 0, 500000000, by decide⟩
  status := .skipped "a \"reason\"\n\u0001\u2028"
  steps := [⟨.clear [⟨"1", by decide⟩] [⟨"2", by decide⟩], [.transport "\\", .api 65535 "𝔸"]⟩,
    ⟨.summary, [.parse ""]⟩,
    ⟨.issue 18446744073709551615 (some ⟨"src/a.rs", by decide⟩) (some 4294967295),
      [.configuration "c"]⟩]

theorem read_written_sample : (∀ o ∈ sample.steps, o.step.IndexFits) ∧
    codec.decode (codec.encode sample) = .ok sample ∧
      codec.decode (codec.write sample).prettyText = .ok sample := by
  have hindex : ∀ o ∈ sample.steps, o.step.IndexFits := by
    simp [sample, Step.IndexFits, UInt64.size]
  exact ⟨hindex, (read_written sample hindex).2.2⟩

end Report
end PullDecoration
