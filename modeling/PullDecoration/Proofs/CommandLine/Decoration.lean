import PullDecoration.CommandLine.Run
import PullDecoration.Proofs.Cloud.Accounting
import PullDecoration.Proofs.Cloud.Script
import PullDecoration.Proofs.Cloud.Supported

/-! Decorating from the command line. What is wrong with the input files or the settings is found
before any request is made and decides the exit code. Behind that point nothing fails any more: the
run prints a report, and what went wrong at the service stands in its steps. -/
namespace PullDecoration
namespace CommandLine

open Http Cloud

structure Ending.Refuses (ending : Ending) (code : UInt32) : Prop where
  code : ending.code = code
  output : ending.output = ""

namespace Surroundings

variable {s : Surroundings} {config analysis descriptor path : String}

def Reads (s : Surroundings) (config : String) (raw : RawSettings) : Prop :=
  ∃ text, s.file config = .ok text ∧ SettingsFile.read text = .ok raw

/-- The file holds valid settings, with the password of the environment if it has none of its
own. -/
def Configures (s : Surroundings) (config : String) (settings : Settings) : Prop :=
  ∃ raw, s.Reads config raw ∧ (raw.withEnvironment s.password).validate = .ok settings

def Holds {α : Type} (s : Surroundings) (c : Json.Codec α) (path : String) (a : α) : Prop :=
  ∃ text, s.file path = .ok text ∧ c.decode text = .ok a

structure Supplies (s : Surroundings) (config analysis descriptor : String) (settings : Settings)
    (a : Analysis) (d : Descriptor) : Prop where
  configures : s.Configures config settings
  analysis : s.Holds Analysis.codec analysis a
  descriptor : s.Holds Descriptor.codec descriptor d

/-- A file cannot be read, or not as what it should hold. The settings come first and must be valid
for the other files to matter. -/
inductive Unreadable (s : Surroundings) (config analysis descriptor : String) : Prop
  | settings (h : ∀ raw, ¬ s.Reads config raw)
  | analysis {settings : Settings} (hsettings : s.Configures config settings)
      (h : ∀ a, ¬ s.Holds Analysis.codec analysis a)
  | descriptor {settings : Settings} (hsettings : s.Configures config settings)
      (h : ∀ d, ¬ s.Holds Descriptor.codec descriptor d)

/-- The settings are not valid, or they are, and their base URL does not lie at the service. -/
inductive Misconfigured (s : Surroundings) (config analysis descriptor : String) : Prop
  | invalid {raw : RawSettings} {e : SettingsError} (hreads : s.Reads config raw)
      (h : (raw.withEnvironment s.password).validate = .error e)
  | unsupported {settings : Settings} {a : Analysis} {d : Descriptor} {url : String}
      (hinputs : s.Supplies config analysis descriptor settings a d)
      (hbase : settings.baseUrl = some url) (h : isSupported (withoutSlashes url ++ "/") = false)

theorem Holds.unique {α : Type} {c : Json.Codec α} {a a' : α} (h : s.Holds c path a)
    (h' : s.Holds c path a') :
    a = a' := by
  obtain ⟨text, hfile, hread⟩ := h
  obtain ⟨text', hfile', hread'⟩ := h'
  cases hfile.symm.trans hfile'
  exact Except.ok.inj (hread.symm.trans hread')

theorem Reads.unique {raw raw' : RawSettings} (h : s.Reads config raw) (h' : s.Reads config raw') :
    raw = raw' := by
  obtain ⟨text, hfile, hread⟩ := h
  obtain ⟨text', hfile', hread'⟩ := h'
  rw [hfile, Except.ok.injEq] at hfile'
  rw [← hfile', hread, Except.ok.injEq] at hread'
  exact hread'

theorem Configures.unique {settings settings' : Settings} (h : s.Configures config settings)
    (h' : s.Configures config settings') : settings = settings' := by
  obtain ⟨raw, hreads, hvalid⟩ := h
  obtain ⟨raw', hreads', hvalid'⟩ := h'
  rw [← hreads.unique hreads', hvalid, Except.ok.injEq] at hvalid'
  exact hvalid'

theorem Configures.trimmed {settings : Settings} (h : s.Configures config settings) :
    ∀ url, settings.baseUrl = some url → ∃ raw, url = Text.trim raw := by
  obtain ⟨raw, -, hvalid⟩ := h
  exact RawSettings.validate_baseUrl hvalid

theorem settings_eq_ok {settings : Settings} :
    s.settings config = .ok settings ↔ s.Configures config settings := by
  simp only [Surroundings.settings, Surroundings.text, bind_eq_ok, mapError_eq_ok,
    SettingsFile.load, Configures, Reads]
  constructor
  · rintro ⟨text, hfile, raw, hread, hvalid⟩
    exact ⟨raw, ⟨text, hfile, hread⟩, hvalid⟩
  · rintro ⟨raw, ⟨text, hfile, hread⟩, hvalid⟩
    exact ⟨text, hfile, raw, hread, hvalid⟩

theorem document_eq_ok {α : Type} {c : Json.Codec α} {what : String} {a : α} :
    s.document c what path = .ok a ↔ s.Holds c path a := by
  simp only [document, Surroundings.text, bind_eq_ok, mapError_eq_ok, Holds]

theorem settings_eq_error {ending : Ending} (h : s.settings config = .error ending) :
    ending.Refuses Ending.inputCode ∧ Unreadable s config analysis descriptor ∨
      ending.Refuses Ending.settingsCode ∧ Misconfigured s config analysis descriptor := by
  rcases bind_eq_error.mp h with h | ⟨text, htext, h⟩
  · obtain ⟨e, hfile, rfl⟩ := mapError_eq_error.mp h
    refine .inl ⟨⟨rfl, rfl⟩, .settings ?_⟩
    rintro raw ⟨text, hfile', -⟩
    cases hfile.symm.trans hfile'
  · have hfile : s.file config = .ok text := mapError_eq_ok.mp htext
    obtain ⟨problem, hload, rfl⟩ := mapError_eq_error.mp h
    rcases bind_eq_error.mp hload with hread | ⟨raw, hread, hvalid⟩
    · obtain ⟨e, herror, rfl⟩ := mapError_eq_error.mp hread
      refine .inl ⟨⟨rfl, rfl⟩, .settings ?_⟩
      rintro raw ⟨text', hfile', hread'⟩
      rw [hfile, Except.ok.injEq] at hfile'
      rw [← hfile', herror] at hread'
      cases hread'
    · obtain ⟨e, hinvalid, rfl⟩ := mapError_eq_error.mp hvalid
      exact .inr ⟨⟨rfl, rfl⟩, .invalid ⟨text, hfile, mapError_eq_ok.mp hread⟩ hinvalid⟩

theorem document_eq_error {α : Type} {c : Json.Codec α} {what : String} {ending : Ending}
    (h : s.document c what path = .error ending) :
    ending.Refuses Ending.inputCode ∧ ∀ a, ¬ s.Holds c path a := by
  refine ⟨?_, ?_⟩
  · rcases bind_eq_error.mp h with h | ⟨text, -, h⟩
    · obtain ⟨e, -, rfl⟩ := mapError_eq_error.mp h
      exact ⟨rfl, rfl⟩
    · obtain ⟨e, -, rfl⟩ := mapError_eq_error.mp h
      exact ⟨rfl, rfl⟩
  · intro a ha
    rw [document_eq_ok.mpr ha] at h
    cases h

theorem inputs_eq_ok {settings : Settings} {a : Analysis} {d : Descriptor} :
    s.inputs config analysis descriptor = .ok (settings, a, d) ↔
      s.Supplies config analysis descriptor settings a d := by
  constructor
  · intro h
    obtain ⟨settings, hsettings, h⟩ := bind_eq_ok.mp h
    obtain ⟨a, ha, h⟩ := bind_eq_ok.mp h
    obtain ⟨d, hd, h⟩ := bind_eq_ok.mp h
    cases h
    exact ⟨settings_eq_ok.mp hsettings, document_eq_ok.mp ha, document_eq_ok.mp hd⟩
  · rintro ⟨hsettings, ha, hd⟩
    exact bind_eq_ok.mpr ⟨settings, settings_eq_ok.mpr hsettings,
      bind_eq_ok.mpr ⟨a, document_eq_ok.mpr ha, bind_eq_ok.mpr ⟨d, document_eq_ok.mpr hd, rfl⟩⟩⟩

theorem inputs_eq_error {ending : Ending}
    (h : s.inputs config analysis descriptor = .error ending) :
    ending.Refuses Ending.inputCode ∧ Unreadable s config analysis descriptor ∨
      ending.Refuses Ending.settingsCode ∧ Misconfigured s config analysis descriptor := by
  rcases bind_eq_error.mp h with h | ⟨settings, hsettings, h⟩
  · exact settings_eq_error h
  · have hsettings := settings_eq_ok.mp hsettings
    rcases bind_eq_error.mp h with h | ⟨a, -, h⟩
    · obtain ⟨hrefuses, hnone⟩ := document_eq_error h
      exact .inl ⟨hrefuses, .analysis hsettings hnone⟩
    · rcases bind_eq_error.mp h with h | ⟨d, -, h⟩
      · obtain ⟨hrefuses, hnone⟩ := document_eq_error h
        exact .inl ⟨hrefuses, .descriptor hsettings hnone⟩
      · cases h

theorem not_configures {raw : RawSettings} {e : SettingsError} (hreads : s.Reads config raw)
    (h : (raw.withEnvironment s.password).validate = .error e) (settings : Settings) :
    ¬ s.Configures config settings := by
  rintro ⟨raw', hreads', hvalid⟩
  rw [← hreads.unique hreads', h] at hvalid
  cases hvalid

theorem Unreadable.not_supplies {settings : Settings} {a : Analysis} {d : Descriptor}
    (h : Unreadable s config analysis descriptor) :
    ¬ s.Supplies config analysis descriptor settings a d := by
  rintro ⟨⟨raw, hreads, -⟩, ha, hd⟩
  cases h with
  | settings h => exact h raw hreads
  | analysis _ h => exact h a ha
  | descriptor _ h => exact h d hd

theorem Unreadable.not_misconfigured (h : Unreadable s config analysis descriptor) :
    ¬ Misconfigured s config analysis descriptor := by
  rintro (⟨hreads, hinvalid⟩ | ⟨hinputs, -, -⟩)
  · have hnone := not_configures hreads hinvalid
    cases h with
    | settings h => exact h _ hreads
    | analysis hsettings _ => exact hnone _ hsettings
    | descriptor hsettings _ => exact hnone _ hsettings
  · exact h.not_supplies hinputs

theorem Supplies.misconfigured_iff {settings : Settings} {a : Analysis} {d : Descriptor}
    (h : s.Supplies config analysis descriptor settings a d) :
    Misconfigured s config analysis descriptor ↔ ∃ e, checkBase settings = .error e := by
  rw [checkBase_eq_error]
  constructor
  · rintro (⟨hreads, hinvalid⟩ | ⟨hinputs, hbase, hunsupported⟩)
    · exact absurd h.configures (not_configures hreads hinvalid settings)
    · rw [← h.configures.unique hinputs.configures] at hbase
      exact ⟨_, hbase, hunsupported⟩
  · rintro ⟨url, hbase, hunsupported⟩
    exact .unsupported h hbase hunsupported

end Surroundings

open Surroundings

/-- The report of a run over its inputs, with the turns of the exchange: none for what is no pull
request, else those of the attempts that the steps of the report stand for. -/
inductive Reported (s : Surroundings) (o : Decoration.Occasion)
    (config analysis descriptor : String) :
    List (Turn fun _ : Request => Outcome) → Report → Prop
  | skipped {settings : Settings} {a : Analysis} {d : Descriptor}
      (hinputs : s.Supplies config analysis descriptor settings a d) (hd : d.type ≠ .pullRequest) :
      Reported s o config analysis descriptor [] (Decoration.skipped o d)
  | performed {settings : Settings} {a : Analysis} {d : Descriptor}
      {key : PullRequestKey} {e : Endpoint} {steps : List StepOutcome}
      {groups : List (List Attempt)} (hinputs : s.Supplies config analysis descriptor settings a d)
      (hkey : d.key = some key) (he : Endpoint.ofSettings settings key = .ok e)
      (hsteps : List.Forall₂ (Covers e a) steps groups) :
      Reported s o config analysis descriptor (groups.flatten.filterMap Attempt.turn)
        ⟨o.runId, some key, o.started, o.finished, .ofSteps steps, steps⟩

structure Settled (s : Surroundings) (o : Decoration.Occasion) (config analysis descriptor : String)
    (turns : List (Turn fun _ : Request => Outcome)) (ending : Ending) : Prop where
  sent : turns ≠ [] → ending.code = 0
  reported : ending.code = 0 → ∃ report, Reported s o config analysis descriptor turns report ∧
    ending.output = (Report.codec.write report).prettyText ++ "\n"
  silent : ending.code ≠ 0 → turns = [] ∧ ending.output = ""
  misconfigured : ending.code = Ending.settingsCode ↔ Misconfigured s config analysis descriptor
  unreadable : ending.code = Ending.inputCode ↔ Unreadable s config analysis descriptor
  code : ending.code = 0 ∨ ending.code = Ending.inputCode ∨ ending.code = Ending.settingsCode

namespace Settled

variable {s : Surroundings} {o : Decoration.Occasion}
  {config analysis descriptor : String} {ending : Ending}

theorem of_unreadable (h : ending.Refuses Ending.inputCode)
    (hinputs : Unreadable s config analysis descriptor) :
    Settled s o config analysis descriptor [] ending where
  sent hturns := absurd rfl hturns
  reported hzero := absurd (h.code.symm.trans hzero) (by decide)
  silent _ := ⟨rfl, h.output⟩
  misconfigured := by simp [h.code, hinputs.not_misconfigured, Ending.inputCode,
    Ending.settingsCode]
  unreadable := by simp [h.code, hinputs]
  code := .inr (.inl h.code)

theorem of_misconfigured (h : ending.Refuses Ending.settingsCode)
    (hinputs : Misconfigured s config analysis descriptor) :
    Settled s o config analysis descriptor [] ending where
  sent hturns := absurd rfl hturns
  reported hzero := absurd (h.code.symm.trans hzero) (by decide)
  silent _ := ⟨rfl, h.output⟩
  misconfigured := by simp [h.code, hinputs]
  unreadable := by
    have hreadable : ¬ Unreadable s config analysis descriptor :=
      fun h => h.not_misconfigured hinputs
    simp [h.code, hreadable, Ending.inputCode, Ending.settingsCode]
  code := .inr (.inr h.code)

theorem of_report {settings : Settings} {a : Analysis} {d : Descriptor}
    {turns : List (Turn fun _ : Request => Outcome)} {report : Report}
    (hinputs : s.Supplies config analysis descriptor settings a d)
    (hbase : checkBase settings = .ok ())
    (h : Reported s o config analysis descriptor turns report) :
    Settled s o config analysis descriptor turns (.printed (Report.codec.write report)) where
  sent _ := rfl
  reported _ := ⟨report, h, rfl⟩
  silent hnonzero := absurd rfl hnonzero
  misconfigured := by
    have hgood : ¬ Misconfigured s config analysis descriptor := by
      rw [hinputs.misconfigured_iff, hbase]
      rintro ⟨e, he⟩
      cases he
    simp [hgood, Ending.printed, Ending.settingsCode]
  unreadable := by
    have hreadable : ¬ Unreadable s config analysis descriptor := fun h => h.not_supplies hinputs
    simp [hreadable, Ending.printed, Ending.inputCode]
  code := .inl rfl

end Settled

section Run

variable {σ : Type} {server : Server σ} {limit : Nat} {s : Surroundings} {o : Decoration.Occasion}
variable {config analysis descriptor : String} {state : σ}

/-- The courses that a run can take. Only a pull request with settings that can be used leads to an
exchange. -/
inductive Course (limit : Nat) (s : Surroundings) (o : Decoration.Occasion)
    (config analysis descriptor : String) :
    Exchange (Option Ending) → Prop
  | unreadable {ending : Ending} (hrefuses : ending.Refuses Ending.inputCode)
      (h : Unreadable s config analysis descriptor) :
      Course limit s o config analysis descriptor (.done (some ending))
  | misconfigured {ending : Ending} (hrefuses : ending.Refuses Ending.settingsCode)
      (h : Misconfigured s config analysis descriptor) :
      Course limit s o config analysis descriptor (.done (some ending))
  | skipped {settings : Settings} {a : Analysis} {d : Descriptor}
      (hinputs : s.Supplies config analysis descriptor settings a d)
      (hbase : checkBase settings = .ok ()) (hd : d.type ≠ .pullRequest) :
      Course limit s o config analysis descriptor
        (.done (some (.ofReport (.ok (Decoration.skipped o d)))))
  | performed {settings : Settings} {a : Analysis} {d : Descriptor}
      {key : PullRequestKey} {e : Endpoint}
      (hinputs : s.Supplies config analysis descriptor settings a d)
      (hbase : checkBase settings = .ok ()) (hkey : d.key = some key)
      (he : Endpoint.ofSettings settings key = .ok e) :
      Course limit s o config analysis descriptor
        ((e.perform limit (Decoration.pass o settings.toggles a d)).bind fun r =>
          .done (r.map fun report => .ofReport (.ok report)))

theorem decorate_course (limit : Nat) (s : Surroundings) (o : Decoration.Occasion)
    (config analysis descriptor : String) :
    Course limit s o config analysis descriptor
      (s.decorate limit o config analysis descriptor) := by
  cases hinputs : s.inputs config analysis descriptor with
  | error refusal =>
    simp only [Surroundings.decorate, hinputs]
    rcases inputs_eq_error hinputs with ⟨hrefuses, hwrong⟩ | ⟨hrefuses, hwrong⟩
    · exact .unreadable hrefuses hwrong
    · exact .misconfigured hrefuses hwrong
  | ok found =>
    obtain ⟨settings, a, d⟩ := found
    simp only [Surroundings.decorate, hinputs]
    have hinputs := inputs_eq_ok.mp hinputs
    cases hbase : checkBase settings with
    | error e =>
      simp only [decorateSupported, hbase, Dialogue.done_bind, Option.map_some]
      exact .misconfigured ⟨rfl, rfl⟩ (hinputs.misconfigured_iff.mpr ⟨e, hbase⟩)
    | ok u =>
      cases hkey : d.key with
      | none =>
        have hd : d.type ≠ .pullRequest := fun hd => by simpa [hkey] using d.key_iff.mpr hd
        simp only [decorateSupported_of_other hbase hkey, Dialogue.done_bind, Option.map_some]
        exact .skipped hinputs hbase hd
      | some key =>
        obtain ⟨e, he, hperform⟩ :=
          decorateSupported_of_key limit o a hinputs.configures.trimmed hbase hkey
        simp only [hperform, Dialogue.bind_assoc, Dialogue.done_bind, Option.map_map]
        exact .performed hinputs hbase hkey he

/-- A run that ends has found something wrong before the first request, or it ends with the
report. -/
theorem decorate_settled {ending : Ending}
    (h : (server.run (s.decorate limit o config analysis descriptor) state).1 = some ending) :
    Settled s o config analysis descriptor
      (server.transcript (s.decorate limit o config analysis descriptor) state) ending := by
  have hcourse := decorate_course limit s o config analysis descriptor
  generalize s.decorate limit o config analysis descriptor = run at h hcourse ⊢
  cases hcourse with
  | unreadable hrefuses hwrong =>
    cases h
    exact .of_unreadable hrefuses hwrong
  | misconfigured hrefuses hwrong =>
    cases h
    exact .of_misconfigured hrefuses hwrong
  | skipped hinputs hbase hd =>
    cases h
    exact .of_report hinputs hbase (.skipped hinputs hd)
  | performed hinputs hbase hkey he =>
    rw [Partner.run_bind] at h
    obtain ⟨report, hreport, rfl⟩ := Option.map_eq_some_iff.mp h
    obtain ⟨hwhole, groups, hgroups, hturns⟩ := Endpoint.pass_covers hkey hreport
    have hreported : Reported s o config analysis descriptor _ _ :=
      .performed hinputs hkey he hgroups
    rw [← hwhole] at hreported
    rw [Partner.transcript_bind, hturns, Partner.transcript_done, List.append_nil]
    exact .of_report hinputs hbase hreported

theorem decorate_other {d : Descriptor} (hholds : s.Holds Descriptor.codec descriptor d)
    (hd : d.type ≠ .pullRequest) :
    server.transcript (s.decorate limit o config analysis descriptor) state = [] := by
  have hcourse := decorate_course limit s o config analysis descriptor
  generalize s.decorate limit o config analysis descriptor = run at hcourse ⊢
  cases hcourse with
  | @performed _ _ found _ _ hinputs _ hkey _ =>
    have hsame : found = d := Holds.unique hinputs.descriptor hholds
    subst hsame
    exact absurd (found.key_iff.mp (by simp [hkey])) hd
  | _ => rfl

theorem decorate_ends {last : Outcome}
    (hlast : ∀ reply, last = some reply → isSuccess reply.status = false) {script : List Outcome}
    (hlimit : script.length < limit) :
    ∃ ending, ((Server.scripted last).run
      (s.decorate limit o config analysis descriptor) script).1 = some ending := by
  have hcourse := decorate_course limit s o config analysis descriptor
  generalize s.decorate limit o config analysis descriptor = run at hcourse ⊢
  cases hcourse with
  | @performed settings a d _ e _ _ _ _ =>
    obtain ⟨report, hreport⟩ :=
      Endpoint.perform_scripted hlast hlimit (Decoration.pass o settings.toggles a d)
    exact ⟨.ofReport (.ok report), by rw [Partner.run_bind, hreport]; rfl⟩
  | _ => exact ⟨_, rfl⟩

end Run

/-- A decorate command, whatever its files hold and whatever the service does: once a request has
been sent the run succeeds and prints a report in which exactly those steps have errors of which an
attempt failed. A run that does not succeed has sent and printed nothing, and its code tells
unreadable input from settings that cannot be used. For what is no pull request nothing is sent at
all, and against a script every run has an ending. -/
theorem Command.decorate_settles (s : Surroundings) (o : Decoration.Occasion)
    (config analysis descriptor : String) :
    (∀ {σ : Type} (server : Server σ) (state : σ) (limit : Nat),
      let run := (Command.decorate config analysis descriptor).run limit o s
      (∀ ending, (server.run run state).1 = some ending →
        Settled s o config analysis descriptor (server.transcript run state) ending) ∧
      (∀ d, s.Holds Descriptor.codec descriptor d → d.type ≠ .pullRequest →
        server.transcript run state = [])) ∧
    ∀ (last : Outcome) (script : List Outcome) (limit : Nat),
      (∀ reply, last = some reply → isSuccess reply.status = false) → script.length < limit →
        ∃ ending,
          ((Server.scripted last).run ((Command.decorate config analysis descriptor).run limit o s)
            script).1 = some ending := by
  refine ⟨?_, ?_⟩
  · intro σ server state limit run
    exact ⟨fun ending h => decorate_settled h, fun d hholds hd => decorate_other hholds hd⟩
  · intro last script limit hlast hlimit
    exact decorate_ends hlast hlimit

def sampleFile : String → Except FileError String
  | "settings" =>
    .ok ("provider = \x7b workspace = 'company', repository = 'repo', username = 'user' \x7d\n" ++
      "decoration = \x7b summary_comment = true, file_comments = true, delete_old_comments = true \x7d\n")
  | "analysis" => .ok "\x7b\"issues\":[],\"summary\":\x7b\"status\":\"PASSED\"\x7d\x7d"
  | "descriptor" => .ok ("\x7b\"name\":\"feature/x\",\"type\":\"PULL_REQUEST\"," ++
      "\"pull_request_key\":\"99\"\x7d")
  | _ => .error .missing

def sampleSurroundings : Surroundings := ⟨sampleFile, some "secret"⟩

/-- The listing is refused and then nothing is answered any more: two requests, and the run
succeeds. -/
theorem sampleRun_settles :
    let run :=
      (Command.decorate "settings" "analysis" "descriptor").run 2 .earliest sampleSurroundings
    let script : List Outcome := [some ⟨500, some []⟩]
    ((Server.scripted none).transcript run script).length = 2 ∧
      ∃ ending, ((Server.scripted none).run run script).1 = some ending ∧ ending.code = 0 ∧
        ∃ report, Reported sampleSurroundings .earliest "settings" "analysis" "descriptor"
          ((Server.scripted none).transcript run script) report ∧
          ending.output = (Report.codec.write report).prettyText ++ "\n" := by
  intro run script
  obtain ⟨hruns, hscripts⟩ :=
    Command.decorate_settles sampleSurroundings .earliest "settings" "analysis" "descriptor"
  have htwo : ((Server.scripted none).transcript run script).length = 2 := by decide +kernel
  obtain ⟨ending, hending⟩ := hscripts none script 2 (fun _ h => by cases h) (by decide)
  obtain ⟨hsettled, -⟩ := hruns (Server.scripted none) script 2
  have h := hsettled ending hending
  have hsent : (Server.scripted none).transcript run script ≠ [] := by
    intro hnone
    rw [hnone] at htwo
    cases htwo
  exact ⟨htwo, ending, hending, h.sent hsent, h.reported (h.sent hsent)⟩

end CommandLine
end PullDecoration
