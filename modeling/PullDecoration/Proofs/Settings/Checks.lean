import PullDecoration.Proofs.Settings.Validation
import PullDecoration.Proofs.Text.Trim

/-! Seven checks decide whether settings are valid. Settings that pass them all are taken as they
were given, without the blanks around them; of any others the first check that fails is reported. -/
namespace PullDecoration

namespace RawSettings

/-- A setting has a text that is not blank, and this is what remains of it without the blanks around
it. -/
def Gives (value : Option String) (text : String) : Prop :=
  ∃ s, value = some s ∧ Text.isBlank s = false ∧ text = Text.trim s

def Lacks (value : Option String) : Prop := ∀ s, value = some s → Text.isBlank s = true

end RawSettings

/-- The text before the first colon of a token is the user name and the text behind it the
password. -/
structure Credentials.InToken (c : Credentials) (token : String) : Prop where
  text : token = c.username ++ ":" ++ c.password
  noColon : ':' ∉ c.username.toList
  username : c.username ≠ ""
  password : c.password ≠ ""

namespace ProviderSection

open RawSettings

structure HasPair (s : ProviderSection) (c : Credentials) : Prop where
  username : Gives s.username c.username
  password : Gives s.password c.password

def HasToken (s : ProviderSection) (c : Credentials) : Prop :=
  ∃ token, Gives s.token token ∧ c.InToken token

/-- What is said of missing credentials: a token that is given is to blame, and else what lacks of
the pair. -/
inductive CredentialsComplaint (s : ProviderSection) : SettingsError → Prop
  | token {token : String} (h : Gives s.token token) :
      CredentialsComplaint s (.invalid "provider.token" "expected the form 'username:password'")
  | password {username : String} (htoken : Lacks s.token) (h : Gives s.username username) :
      CredentialsComplaint s (.missing "provider.password")
  | username (htoken : Lacks s.token) (h : Lacks s.username) :
      CredentialsComplaint s (.missing "provider.username")

end ProviderSection

namespace RawSettings

inductive Check
  | workspace | repository | credentials | timeout | summary | issues | clear
  deriving DecidableEq

namespace Check

def position : Check → Nat
  | .workspace => 0
  | .repository => 1
  | .credentials => 2
  | .timeout => 3
  | .summary => 4
  | .issues => 5
  | .clear => 6

def Passes (raw : RawSettings) : Check → Prop
  | .workspace => ∃ text, Gives raw.provider.workspace text
  | .repository => ∃ text, Gives raw.provider.repository text
  | .credentials => ∃ c, raw.provider.HasPair c ∨ raw.provider.HasToken c
  | .timeout => raw.provider.timeout ≠ some 0
  | .summary => raw.decoration.summary ≠ none
  | .issues => raw.decoration.issues ≠ none
  | .clear => raw.decoration.clear ≠ none

def Complains (raw : RawSettings) : Check → SettingsError → Prop
  | .workspace, e => e = .missing "provider.workspace"
  | .repository, e => e = .missing "provider.repository"
  | .credentials, e => raw.provider.CredentialsComplaint e
  | .timeout, e => e = .invalid "provider.request_timeout_secs" "must be greater than zero"
  | .summary, e => e = .missing "decoration.summary_comment"
  | .issues, e => e = .missing "decoration.file_comments"
  | .clear, e => e = .missing "decoration.delete_old_comments"

structure FailsFirst (raw : RawSettings) (check : Check) : Prop where
  before : ∀ earlier : Check, earlier.position < check.position → earlier.Passes raw
  fails : ¬ check.Passes raw

end Check

structure Configures (raw : RawSettings) (settings : Settings) : Prop where
  noBaseUrl : settings.baseUrl = none ↔ Lacks raw.provider.baseUrl
  baseUrl : ∀ text, settings.baseUrl = some text ↔ Gives raw.provider.baseUrl text
  workspace : Gives raw.provider.workspace settings.workspace
  repository : Gives raw.provider.repository settings.repository
  credentials : raw.provider.HasPair settings.credentials ∨
    (¬ ∃ c, raw.provider.HasPair c) ∧ raw.provider.HasToken settings.credentials
  timeout : raw.provider.timeout = some settings.timeout ∨ raw.provider.timeout = none ∧
  settings.timeout = 30
  positive : settings.timeout ≠ 0
  summary : raw.decoration.summary = some settings.toggles.summary
  issues : raw.decoration.issues = some settings.toggles.issues
  clear : raw.decoration.clear = some settings.toggles.clear

variable {raw : RawSettings} {s : ProviderSection} {settings : Settings} {value : Option String}
  {text : String} {c : Credentials} {e : SettingsError} {check : Check}

theorem nonBlank?_eq_some : nonBlank? value = some text ↔ Gives value text := by
  simp [nonBlank?, Gives, Option.bind_eq_some_iff, Text.nonBlank?_eq_some]

theorem nonBlank?_eq_none : nonBlank? value = none ↔ Lacks value := by
  simp [nonBlank?, Lacks, Option.bind_eq_none_iff, Text.nonBlank?_eq_none]

theorem lacks_or_gives (value : Option String) : Lacks value ∨ ∃ text, Gives value text := by
  cases h : nonBlank? value with
  | none => exact .inl (nonBlank?_eq_none.mp h)
  | some text => exact .inr ⟨text, nonBlank?_eq_some.mp h⟩

theorem Lacks.not_gives (h : Lacks value) : ¬ Gives value text := by
  rw [← nonBlank?_eq_none] at h
  simp [← nonBlank?_eq_some, h]

theorem Gives.isBlank (h : Gives value text) : Text.isBlank text = false := by
  obtain ⟨s, -, hs, rfl⟩ := h
  refine Text.isBlank_of_prefix_trim (s := s) (List.prefix_refl _) ?_
  simp [Text.trim_eq_empty_iff, hs]

theorem inToken_iff {token : String} : c.InToken token ↔ Credentials.ofToken token = .ok c :=
  Iff.trans ⟨fun h => ⟨h.text, h.noColon, h.username, h.password⟩,
    fun h => ⟨h.1, h.2.1, h.2.2.1, h.2.2.2⟩⟩
    Credentials.ofToken_eq_ok.symm

theorem hasPair_iff : s.HasPair c ↔
    nonBlank? s.username = some c.username ∧ nonBlank? s.password = some c.password := by
  rw [nonBlank?_eq_some, nonBlank?_eq_some]
  exact ⟨fun h => ⟨h.username, h.password⟩, fun h => ⟨h.1, h.2⟩⟩

theorem hasToken_iff : s.HasToken c ↔
    ∃ token, nonBlank? s.token = some token ∧ Credentials.ofToken token = .ok c := by
  simp only [ProviderSection.HasToken, nonBlank?_eq_some, inToken_iff]

theorem no_pair_iff : (¬ ∃ c, s.HasPair c) ↔ nonBlank? s.username = none ∨
    nonBlank? s.password = none := by
  simp only [hasPair_iff, not_exists, not_and, Option.eq_none_iff_forall_ne_some]
  constructor
  · intro h
    by_contra hboth
    simp only [not_or, not_forall, not_not] at hboth
    obtain ⟨⟨username, husername⟩, ⟨password, hpassword⟩⟩ := hboth
    exact h ⟨username, password⟩ husername hpassword
  · rintro (h | h) c husername hpassword
    · exact h _ husername
    · exact h _ hpassword

/-- The credentials are those of the pair, and where there is no pair those in the token. -/
theorem credentials_eq_ok_iff : credentials s = .ok c ↔
    s.HasPair c ∨ (¬ ∃ c, s.HasPair c) ∧ s.HasToken c := by
  rw [credentials_eq_ok, hasPair_iff, no_pair_iff, hasToken_iff]

theorem ofToken_eq_error {token : String} : Credentials.ofToken token = .error e ↔
    (¬ ∃ c : Credentials, c.InToken token) ∧
      e = .invalid "provider.token" "expected the form 'username:password'" := by
  simp only [inToken_iff]
  cases h : Credentials.ofToken token with
  | ok c => simp
  | error e' =>
    have he' : e' = .invalid "provider.token" "expected the form 'username:password'" := by
      unfold Credentials.ofToken at h
      split at h
      · cases h
      · cases h
        rfl
    simp [he', eq_comm]

theorem complaint_of_credentials (h : credentials s = .error e) : s.CredentialsComplaint e := by
  unfold credentials at h
  split at h
  · cases h
  · rename_i token htoken hpair
    obtain ⟨-, rfl⟩ := ofToken_eq_error.mp h
    exact .token (nonBlank?_eq_some.mp htoken)
  · rename_i husername htoken
    cases h
    exact .username (nonBlank?_eq_none.mp htoken) (nonBlank?_eq_none.mp husername)
  · rename_i username husername hpassword htoken
    cases h
    exact .password (nonBlank?_eq_none.mp htoken) (nonBlank?_eq_some.mp husername)

theorem credentials_pass_iff : (∃ c, credentials s = .ok c) ↔ ∃ c, s.HasPair c ∨ s.HasToken c := by
  simp only [credentials_eq_ok_iff]
  constructor
  · rintro ⟨c, hpair | ⟨-, htoken⟩⟩
    · exact ⟨c, .inl hpair⟩
    · exact ⟨c, .inr htoken⟩
  · rintro ⟨c, h⟩
    by_cases hpair : ∃ c, s.HasPair c
    · exact hpair.imp fun c => .inl
    · exact ⟨c, .inr ⟨hpair, h.resolve_left fun hc => hpair ⟨c, hc⟩⟩⟩

theorem timeout_eq_ok {value : Option UInt64} {n : UInt64} :
    timeout value = .ok n ↔ (value = some n ∨ value = none ∧ n = 30) ∧ n ≠ 0 := by
  cases value with
  | none =>
    have hpositive : n = 30 → n ≠ 0 := by
      rintro rfl
      decide
    simpa [timeout, defaultTimeout, eq_comm] using hpositive
  | some m => by_cases hm : m = 0 <;> simp +contextual [timeout, hm, eq_comm]

theorem timeout_eq_error {value : Option UInt64} : timeout value = .error e ↔
    value = some 0 ∧ e = .invalid "provider.request_timeout_secs" "must be greater than zero" := by
  cases value with
  | none => simp [timeout]
  | some m => by_cases hm : m = 0 <;> simp [timeout, hm, eq_comm]

theorem required_eq_error {α : Type} {setting : String} {value : Option α} :
    required setting value = .error e ↔ value = none ∧ e = .missing setting := by
  cases value <;> simp [required, eq_comm]

theorem validate_eq_ok_iff : raw.validate = .ok settings ↔ raw.Configures settings := by
  rw [validate_eq_ok]
  constructor
  · intro h
    obtain ⟨htimeout, hpositive⟩ := timeout_eq_ok.mp h.timeout
    exact
      { noBaseUrl := by rw [h.baseUrl, nonBlank?_eq_none]
        baseUrl := fun text => by rw [h.baseUrl, nonBlank?_eq_some]
        workspace := nonBlank?_eq_some.mp h.workspace
        repository := nonBlank?_eq_some.mp h.repository
        credentials := credentials_eq_ok_iff.mp h.credentials
        timeout := htimeout
        positive := hpositive
        summary := h.summary
        issues := h.issues
        clear := h.clear }
  · intro h
    exact
      { baseUrl := Option.ext fun text => by rw [h.baseUrl, nonBlank?_eq_some]
        workspace := nonBlank?_eq_some.mpr h.workspace
        repository := nonBlank?_eq_some.mpr h.repository
        credentials := credentials_eq_ok_iff.mpr h.credentials
        timeout := timeout_eq_ok.mpr ⟨h.timeout, h.positive⟩
        summary := h.summary
        issues := h.issues
        clear := h.clear }

/-- User name and password are never blank, also where they come out of a token: this one begins and
ends with no blank. -/
theorem Configures.credentials_not_blank (h : raw.Configures settings) :
    Text.isBlank settings.credentials.username = false ∧
    Text.isBlank settings.credentials.password = false := by
  rcases h.credentials with hpair | ⟨-, token, hgiven, htoken⟩
  · exact ⟨hpair.username.isBlank, hpair.password.isBlank⟩
  · obtain ⟨s, -, -, rfl⟩ := hgiven
    have htext : (Text.trim s).toList =
        settings.credentials.username.toList ++ ':' :: settings.credentials.password.toList := by
      rw [htoken.text]
      simp
    constructor
    · refine Text.isBlank_of_prefix_trim (s := s) ?_ htoken.username
      rw [htext]
      exact List.prefix_append _ _
    · refine Text.isBlank_of_suffix_trim (s := s) ?_ htoken.password
      rw [htext]
      exact (List.suffix_cons _ _).trans (List.suffix_append _ _)

theorem Configures.passes (h : raw.Configures settings) (check : Check) : check.Passes raw := by
  cases check with
  | workspace => exact ⟨_, h.workspace⟩
  | repository => exact ⟨_, h.repository⟩
  | credentials => exact credentials_pass_iff.mp ⟨_, credentials_eq_ok_iff.mpr h.credentials⟩
  | timeout =>
    intro hzero
    rcases h.timeout with hgiven | ⟨hnone, -⟩
    · exact h.positive (Option.some.inj (hgiven.symm.trans hzero))
    · cases hnone.symm.trans hzero
  | summary => simp [Check.Passes, h.summary]
  | issues => simp [Check.Passes, h.issues]
  | clear => simp [Check.Passes, h.clear]

namespace Check

theorem position_injective : Function.Injective position := by
  intro a b h
  cases a <;> cases b <;> first | rfl | cases h

def PassBelow (raw : RawSettings) (n : Nat) : Prop := ∀ check :
    Check, check.position < n → check.Passes raw

theorem passBelow_zero : PassBelow raw 0 := fun _ h => absurd h (Nat.not_lt_zero _)

theorem PassBelow.step (h : PassBelow raw check.position) (hpasses : check.Passes raw) :
    PassBelow raw (check.position + 1) := by
  intro earlier hearlier
  rcases Nat.lt_succ_iff_lt_or_eq.mp hearlier with hlt | heq
  · exact h earlier hlt
  · exact position_injective heq ▸ hpasses

theorem FailsFirst.unique {check check' : Check} (h : check.FailsFirst raw)
    (h' : check'.FailsFirst raw) :
    check = check' := by
  refine position_injective ?_
  rcases Nat.lt_trichotomy check.position check'.position with hlt | heq | hgt
  · exact absurd (h'.before check hlt) h.fails
  · exact heq
  · exact absurd (h.before check' hgt) h'.fails

theorem complains_unique {e' : SettingsError} (h : check.Complains raw e)
    (h' : check.Complains raw e') :
    e = e' := by
  cases check with
  | credentials =>
    cases h with
    | token hgiven =>
      cases h' with
      | token _ => rfl
      | password htoken _ => exact absurd hgiven htoken.not_gives
      | username htoken _ => exact absurd hgiven htoken.not_gives
    | password htoken hgiven =>
      cases h' with
      | token hgiven => exact absurd hgiven htoken.not_gives
      | password _ _ => rfl
      | username _ hlacks => exact absurd hgiven hlacks.not_gives
    | username htoken hlacks =>
      cases h' with
      | token hgiven => exact absurd hgiven htoken.not_gives
      | password _ hgiven => exact absurd hgiven hlacks.not_gives
      | username _ _ => rfl
  | workspace | repository | timeout | summary | issues | clear => exact h.trans h'.symm

section Steps

variable {α β : Type} {step : Except SettingsError α}

/-- A step of the validation makes the check: it goes on if the check passes, and complains if it
fails. -/
structure MadeBy (check : Check) (raw : RawSettings) (step : Except SettingsError α) : Prop where
  passes : ∀ a, step = .ok a → check.Passes raw
  fails : ∀ e, step = .error e → ¬ check.Passes raw ∧ check.Complains raw e

/-- Once all checks below the position have passed, an error is that of the first check to fail. -/
def ReportsFrom (raw : RawSettings) (n : Nat) (run : Except SettingsError α) : Prop :=
  PassBelow raw n → ∀ e, run = .error e → ∃ check : Check, check.FailsFirst raw ∧
  check.Complains raw e

theorem reportsFrom_ok (n : Nat) (a : α) : ReportsFrom raw n (.ok a) := by
  intro _ e h
  cases h

theorem MadeBy.bind {run : α → Except SettingsError β} (h : check.MadeBy raw step)
    (hrun : ∀ a, ReportsFrom raw (check.position + 1) (run a)) :
    ReportsFrom raw check.position (step >>= run) := by
  intro hbelow e herror
  rcases bind_eq_error.mp herror with herror | ⟨a, ha, herror⟩
  · obtain ⟨hfails, hcomplains⟩ := h.fails e herror
    exact ⟨check, ⟨hbelow, hfails⟩, hcomplains⟩
  · exact hrun a (hbelow.step (h.passes a ha)) e herror

end Steps

theorem text_made (check : Check) {setting : String}
    (hpasses : check.Passes raw ↔ ∃ text, Gives value text)
    (hcomplains : check.Complains raw (.missing setting)) :
    MadeBy check raw (required setting (nonBlank? value)) where
  passes text h := hpasses.mpr ⟨text, nonBlank?_eq_some.mp (required_eq_ok.mp h)⟩
  fails e h := by
    obtain ⟨hnone, rfl⟩ := required_eq_error.mp h
    have hlacks := nonBlank?_eq_none.mp hnone
    exact ⟨fun h => (hpasses.mp h).elim fun _ => hlacks.not_gives, hcomplains⟩

theorem credentials_made : MadeBy .credentials raw (RawSettings.credentials raw.provider) where
  passes c h := credentials_pass_iff.mp ⟨c, h⟩
  fails e h := by
    refine ⟨fun hpasses => ?_, complaint_of_credentials h⟩
    obtain ⟨c, hc⟩ := credentials_pass_iff.mpr hpasses
    cases h.symm.trans hc

theorem timeout_made : MadeBy .timeout raw (RawSettings.timeout raw.provider.timeout) where
  passes n h := by
    rintro hzero
    simp [hzero, RawSettings.timeout] at h
  fails e h := by
    obtain ⟨hzero, rfl⟩ := timeout_eq_error.mp h
    exact ⟨fun hpasses => hpasses hzero, rfl⟩

theorem toggle_made (check : Check) {setting : String} {toggle : Option Bool}
    (hpasses : check.Passes raw ↔ toggle ≠ none)
    (hcomplains : check.Complains raw (.missing setting)) :
    MadeBy check raw (required setting toggle) where
  passes b h := hpasses.mpr (by simp [required_eq_ok.mp h])
  fails e h := by
    obtain ⟨hnone, rfl⟩ := required_eq_error.mp h
    exact ⟨fun h => hpasses.mp h hnone, hcomplains⟩

end Check

/-- Validation makes the checks in their order: where it fails, it reports the first that fails. -/
theorem failsFirst_of_validate (h : raw.validate = .error e) :
    ∃ check : Check, check.FailsFirst raw ∧ check.Complains raw e := by
  have hreports : Check.ReportsFrom raw Check.workspace.position raw.validate :=
    (Check.text_made .workspace Iff.rfl rfl).bind fun _ =>
      (Check.text_made .repository Iff.rfl rfl).bind fun _ => Check.credentials_made.bind fun _ =>
        Check.timeout_made.bind fun _ => (Check.toggle_made .summary Iff.rfl rfl).bind fun _ =>
          (Check.toggle_made .issues Iff.rfl rfl).bind fun _ =>
            (Check.toggle_made .clear Iff.rfl rfl).bind fun _ => Check.reportsFrom_ok _ _
  exact hreports Check.passBelow_zero e h

theorem validate_eq_error_iff : raw.validate = .error e ↔
    ∃ check : Check, check.FailsFirst raw ∧ check.Complains raw e := by
  refine ⟨failsFirst_of_validate, ?_⟩
  rintro ⟨check, hfirst, hcomplains⟩
  cases hvalidate : raw.validate with
  | error e' =>
    obtain ⟨check', hfirst', hcomplains'⟩ := failsFirst_of_validate hvalidate
    cases hfirst'.unique hfirst
    rw [Check.complains_unique hcomplains' hcomplains]
  | ok settings =>
    exact absurd ((validate_eq_ok_iff.mp hvalidate).passes check) hfirst.fails

/-- Settings are valid exactly if all checks pass, and then they are what was given, with a user
name and a password that are not blank; if not all pass, the first that fails is reported. -/
theorem validate_exact (raw : RawSettings) :
    ((∃ settings, raw.validate = .ok settings) ↔ ∀ check : Check, check.Passes raw) ∧
      (∀ settings, raw.validate = .ok settings ↔ raw.Configures settings) ∧
      (∀ settings, raw.validate = .ok settings →
        Text.isBlank settings.credentials.username = false ∧
        Text.isBlank settings.credentials.password = false) ∧
      ∀ e, raw.validate = .error e ↔ ∃ check : Check, check.FailsFirst raw ∧
      check.Complains raw e := by
  refine ⟨⟨?_, fun hall => ?_⟩, fun _ => validate_eq_ok_iff, ?_, fun _ => validate_eq_error_iff⟩
  · rintro ⟨settings, h⟩
    exact (validate_eq_ok_iff.mp h).passes
  · cases h : raw.validate with
    | ok settings => exact ⟨settings, rfl⟩
    | error e =>
      obtain ⟨check, hfirst, -⟩ := failsFirst_of_validate h
      exact absurd (hall check) hfirst.fails
  · intro settings h
    exact (validate_eq_ok_iff.mp h).credentials_not_blank

/-- A user name that is blank beside a password, and a token whose password has a colon and a
blank. -/
def blankUser : RawSettings where
  provider :=
    { ProviderSection.empty with
      baseUrl := " ", workspace := "\tteam", repository := "app ", username :=
        " ", password := "unused"
      token := " bot: sec:ret " }
  decoration := ⟨true, false, true⟩

theorem blankUser_validated : ∃ settings, blankUser.validate = .ok settings ∧
    blankUser.Configures settings ∧
    settings.credentials = ⟨"bot", " sec:ret"⟩ ∧
    Text.isBlank settings.credentials.password = false ∧
    ∃ check : Check,
      { blankUser with decoration := .empty, provider.token := ":sec" : RawSettings }.validate =
        .error (.invalid "provider.token" "expected the form 'username:password'") ∧
      check.FailsFirst { blankUser with decoration := .empty, provider.token := ":sec" } := by
  obtain ⟨-, hok, hfilled, -⟩ := validate_exact blankUser
  have hvalid : blankUser.validate = .ok
      ⟨none, "team", "app", ⟨"bot", " sec:ret"⟩, 30, ⟨true, false, true⟩⟩ := by decide +kernel
  have hrefused :
      { blankUser with decoration := .empty, provider.token := ":sec" : RawSettings }.validate =
        .error (.invalid "provider.token" "expected the form 'username:password'") := by
    decide +kernel
  obtain ⟨check, hfirst, -⟩ := ((validate_exact _).2.2.2 _).mp hrefused
  exact ⟨_, hvalid, (hok _).mp hvalid, rfl, (hfilled _ hvalid).2, check, hrefused, hfirst⟩

end RawSettings
end PullDecoration
