import PullDecoration.Proofs.Settings.Checks
import PullDecoration.Settings.File

/-! Settings that are blank count like settings that are not there, with one exception: a password
or token that is blank keeps the password of the environment away, which would be taken if neither
were there. -/
namespace PullDecoration

namespace RawSettings

def DropsBlank (value value' : Option String) : Prop := value' = value ∨ Lacks value ∧ value' = none

structure DropsBlanks (raw raw' : RawSettings) : Prop where
  baseUrl : DropsBlank raw.provider.baseUrl raw'.provider.baseUrl
  workspace : DropsBlank raw.provider.workspace raw'.provider.workspace
  repository : DropsBlank raw.provider.repository raw'.provider.repository
  username : DropsBlank raw.provider.username raw'.provider.username
  password : DropsBlank raw.provider.password raw'.provider.password
  token : DropsBlank raw.provider.token raw'.provider.token
  timeout : raw'.provider.timeout = raw.provider.timeout
  decoration : raw'.decoration = raw.decoration

structure NoSecret (s : ProviderSection) : Prop where
  password : s.password = none
  token : s.token = none

/-- Blank settings stand between the user name and the password of the environment: without them
this password would be taken. -/
structure HidesEnvironment (raw raw' : RawSettings) (environment : Option String) : Prop where
  blank : ¬ NoSecret raw.provider
  dropped : NoSecret raw'.provider
  workspace : ∃ text, Gives raw.provider.workspace text
  repository : ∃ text, Gives raw.provider.repository text
  username : ∃ text, Gives raw.provider.username text
  environment : ∃ text, Gives environment text

variable {raw raw' : RawSettings} {s : ProviderSection} {environment value value' : Option String}
  {username password : String}

theorem DropsBlank.nonBlank? (h : DropsBlank value value') :
    RawSettings.nonBlank? value' = RawSettings.nonBlank? value := by
  rcases h with rfl | ⟨hlacks, rfl⟩
  · rfl
  · rw [nonBlank?_eq_none.mpr hlacks]
    rfl

theorem DropsBlank.lacks (h : DropsBlank value none) : Lacks value := by
  rw [← nonBlank?_eq_none, ← h.nonBlank?]
  rfl

theorem withEnvironment_of_noSecret (h : NoSecret raw.provider) :
    raw.withEnvironment environment = { raw with provider.password := environment } := by
  simp [withEnvironment, h.password, h.token]

theorem withEnvironment_of_secret (h : ¬ NoSecret raw.provider) :
    raw.withEnvironment environment = raw := by
  refine if_neg fun hnone => h ⟨?_, ?_⟩
  · exact Option.isNone_iff_eq_none.mp hnone.1
  · exact Option.isNone_iff_eq_none.mp hnone.2

/-- Validation looks at the texts that are not blank, and at the credentials only where workspace
and repository are given. -/
theorem validate_congr (hbaseUrl : nonBlank? raw'.provider.baseUrl = nonBlank? raw.provider.baseUrl)
    (hworkspace : nonBlank? raw'.provider.workspace = nonBlank? raw.provider.workspace)
    (hrepository : nonBlank? raw'.provider.repository = nonBlank? raw.provider.repository)
    (hcredentials : (∃ text, Gives raw.provider.workspace text) →
      (∃ text, Gives raw.provider.repository text) →
      credentials raw'.provider = credentials raw.provider)
    (htimeout : raw'.provider.timeout = raw.provider.timeout)
    (hdecoration : raw'.decoration = raw.decoration) :
    raw'.validate = raw.validate := by
  unfold validate
  rw [hbaseUrl, hworkspace, hrepository, htimeout, hdecoration]
  cases hw : nonBlank? raw.provider.workspace with
  | none => rfl
  | some workspace =>
    cases hr : nonBlank? raw.provider.repository with
    | none => rfl
    | some repository =>
      rw [hcredentials ⟨workspace, nonBlank?_eq_some.mp hw⟩ ⟨repository, nonBlank?_eq_some.mp hr⟩]

theorem credentials_congr {s' : ProviderSection}
    (husername : nonBlank? s'.username = nonBlank? s.username)
    (hpassword : nonBlank? s'.password = nonBlank? s.password)
    (htoken : nonBlank? s'.token = nonBlank? s.token) :
    credentials s' = credentials s := by
  unfold credentials
  rw [husername, hpassword, htoken]

/-- Without password and token the credentials are refused for the password, once there is a user
name. -/
theorem credentials_of_lacks (husername : Gives s.username username) (hpassword : Lacks s.password)
    (htoken : Lacks s.token) : credentials s = .error (.missing "provider.password") := by
  simp [credentials, nonBlank?_eq_some.mpr husername, nonBlank?_eq_none.mpr hpassword,
    nonBlank?_eq_none.mpr htoken]

theorem credentials_of_pair (husername : Gives s.username username)
    (hpassword : Gives s.password password) :
    credentials s = .ok ⟨username, password⟩ := by
  simp [credentials, nonBlank?_eq_some.mpr husername, nonBlank?_eq_some.mpr hpassword]

theorem credentials_withEnvironment (husername : Gives raw.provider.username username)
    (henvironment : Gives environment password) (hpassword : Lacks raw.provider.password)
    (htoken : Lacks raw.provider.token) :
    credentials (raw.withEnvironment environment).provider = .ok ⟨username, password⟩ ↔
      NoSecret raw.provider := by
  constructor
  · intro h
    by_contra hsecret
    rw [withEnvironment_of_secret hsecret, credentials_of_lacks husername hpassword htoken] at h
    cases h
  · intro hnone
    rw [withEnvironment_of_noSecret hnone]
    exact credentials_of_pair husername henvironment

theorem DropsBlanks.noSecret (h : raw.DropsBlanks raw') (hnone : NoSecret raw.provider) :
    NoSecret raw'.provider where
  password := by
    rcases h.password with hsame | ⟨-, hnone'⟩
    · exact hsame.trans hnone.password
    · exact hnone'
  token := by
    rcases h.token with hsame | ⟨-, hnone'⟩
    · exact hsame.trans hnone.token
    · exact hnone'

theorem DropsBlanks.credentials (h : raw.DropsBlanks raw') :
    RawSettings.credentials raw'.provider = RawSettings.credentials raw.provider :=
  credentials_congr h.username.nonBlank? h.password.nonBlank? h.token.nonBlank?

theorem DropsBlanks.validate_congr (h : raw.DropsBlanks raw')
    (hcredentials : (∃ text, Gives raw.provider.workspace text) →
      (∃ text, Gives raw.provider.repository text) →
      RawSettings.credentials (raw'.withEnvironment environment).provider =
        RawSettings.credentials (raw.withEnvironment environment).provider) :
    (raw'.withEnvironment environment).validate = (raw.withEnvironment environment).validate := by
  by_cases hnone : NoSecret raw.provider <;> by_cases hnone' : NoSecret raw'.provider
  all_goals
    simp only [withEnvironment_of_noSecret, withEnvironment_of_secret, hnone,
      hnone', not_false_eq_true]
      at hcredentials ⊢
    exact RawSettings.validate_congr h.baseUrl.nonBlank? h.workspace.nonBlank?
      h.repository.nonBlank? hcredentials
      h.timeout h.decoration

theorem validate_of_hides (h : raw.HidesEnvironment raw' environment)
    (hpassword : Lacks raw.provider.password) (htoken : Lacks raw.provider.token) :
    raw.validate = .error (.missing "provider.password") := by
  obtain ⟨workspace, hworkspace⟩ := h.workspace
  obtain ⟨repository, hrepository⟩ := h.repository
  obtain ⟨username, husername⟩ := h.username
  unfold validate
  rw [nonBlank?_eq_some.mpr hworkspace, nonBlank?_eq_some.mpr hrepository,
    credentials_of_lacks husername hpassword htoken]
  rfl

theorem validate_ne_missing (h : Check.credentials.Passes raw) :
    raw.validate ≠ .error (.missing "provider.password") := by
  intro herror
  obtain ⟨check, hfirst, hcomplains⟩ := failsFirst_of_validate herror
  cases check with
  | credentials => exact hfirst.fails h
  | workspace | repository | timeout | summary | issues | clear =>
    simp [Check.Complains] at hcomplains

theorem DropsBlanks.validate_iff (h : raw.DropsBlanks raw') :
    (raw'.withEnvironment environment).validate = (raw.withEnvironment environment).validate ↔
      ¬ raw.HidesEnvironment raw' environment := by
  constructor
  · intro hsame hhides
    have hpassword : Lacks raw.provider.password := (hhides.dropped.password ▸ h.password).lacks
    have htoken : Lacks raw.provider.token := (hhides.dropped.token ▸ h.token).lacks
    obtain ⟨username, husername⟩ := hhides.username
    obtain ⟨secret, hsecret⟩ := hhides.environment
    rw [withEnvironment_of_secret hhides.blank, validate_of_hides hhides hpassword htoken,
      withEnvironment_of_noSecret hhides.dropped] at hsame
    refine validate_ne_missing ⟨⟨username, secret⟩, .inl ⟨?_, hsecret⟩⟩ hsame
    rw [← nonBlank?_eq_some] at husername ⊢
    exact h.username.nonBlank?.trans husername
  · intro hshown
    refine h.validate_congr fun hworkspace hrepository => ?_
    by_cases hnone : NoSecret raw.provider
    · rw [withEnvironment_of_noSecret hnone, withEnvironment_of_noSecret (h.noSecret hnone)]
      exact credentials_congr h.username.nonBlank? rfl h.token.nonBlank?
    · rw [withEnvironment_of_secret hnone]
      by_cases hnone' : NoSecret raw'.provider
      · rw [withEnvironment_of_noSecret hnone']
        have hpassword : Lacks raw.provider.password := (hnone'.password ▸ h.password).lacks
        have htoken : Lacks raw.provider.token := (hnone'.token ▸ h.token).lacks
        rcases lacks_or_gives raw.provider.username with husername | husername
        · have hnoUser := nonBlank?_eq_none.mpr husername
          have hnoToken := nonBlank?_eq_none.mpr htoken
          simp [RawSettings.credentials, h.username.nonBlank?, h.token.nonBlank?, hnoUser, hnoToken]
        · have henvironment : Lacks environment :=
            (lacks_or_gives environment).resolve_right fun hgives =>
            hshown ⟨hnone, hnone', hworkspace, hrepository, husername, hgives⟩
          refine credentials_congr h.username.nonBlank? ?_ h.token.nonBlank?
          rw [nonBlank?_eq_none.mpr henvironment, nonBlank?_eq_none.mpr hpassword]
      · rw [withEnvironment_of_secret hnone']
        exact h.credentials

theorem passes_withEnvironment {check : Check} (hcheck : check ≠ .credentials) :
    check.Passes (raw.withEnvironment environment) ↔ check.Passes raw := by
  unfold withEnvironment
  cases check with
  | credentials => exact absurd rfl hcheck
  | workspace | repository | timeout | summary | issues | clear => split <;> rfl

/-- The password of the environment does for a user name that stands without password and token. -/
theorem validate_withEnvironment (husername : Gives raw.provider.username username)
    (henvironment : Gives environment password) (hpassword : Lacks raw.provider.password)
    (htoken : Lacks raw.provider.token)
    (hothers : ∀ check : Check, check ≠ .credentials → check.Passes raw) :
    (∃ settings, (raw.withEnvironment environment).validate = .ok settings ∧
      settings.credentials = ⟨username, password⟩) ↔ NoSecret raw.provider := by
  have hiff := credentials_withEnvironment husername henvironment hpassword htoken
  constructor
  · rintro ⟨settings, hvalid, hcredentials⟩
    exact hiff.mp (hcredentials ▸ (validate_eq_ok.mp hvalid).credentials)
  · intro hnone
    have hcredentials := hiff.mpr hnone
    cases hvalid : (raw.withEnvironment environment).validate with
    | ok settings =>
      refine ⟨settings, rfl, ?_⟩
      exact Except.ok.inj ((validate_eq_ok.mp hvalid).credentials.symm.trans hcredentials)
    | error e =>
      obtain ⟨check, hfirst, -⟩ := failsFirst_of_validate hvalid
      refine absurd ?_ hfirst.fails
      by_cases hcheck : check = .credentials
      · subst hcheck
        exact credentials_pass_iff.mp ⟨_, hcredentials⟩
      · exact (passes_withEnvironment hcheck).mpr (hothers check hcheck)

end RawSettings

namespace SettingsFile

open RawSettings

variable {text text' : String} {raw raw' : RawSettings} {environment : Option String}

theorem load_of_read (h : read text = .ok raw) :
    load text environment = ((raw.withEnvironment environment).validate).mapError .notValid := by
  rw [load, h]
  rfl

theorem mapError_notValid_inj {x y : Except SettingsError Settings} :
    x.mapError Problem.notValid = y.mapError Problem.notValid ↔ x = y := by
  cases x <;> cases y <;> simp [mapError_ok, mapError_error]

/-- A blank setting of a file can be left out without any difference, unless it hides the password
of the environment. With a user name this password is taken, where all else is in order, exactly if
the file has neither a password nor a token, not even a blank one. -/
theorem load_blanks_iff (hread : read text = .ok raw) (hread' : read text' = .ok raw')
    (h : raw.DropsBlanks raw') :
    (load text' environment = load text environment ↔ ¬ raw.HidesEnvironment raw' environment) ∧
      ∀ username password, Gives raw.provider.username username → Gives environment password →
        Lacks raw.provider.password → Lacks raw.provider.token →
        (∀ check : Check, check ≠ .credentials → check.Passes raw) →
        ((∃ settings, load text environment = .ok settings ∧
          settings.credentials = ⟨username, password⟩) ↔
          NoSecret raw.provider) := by
  rw [load_of_read hread, load_of_read hread', mapError_notValid_inj]
  refine ⟨h.validate_iff,
    fun username password husername henvironment hpassword htoken hothers => ?_⟩
  simp only [mapError_eq_ok]
  exact validate_withEnvironment husername henvironment hpassword htoken hothers

def fileWith (line : String) : String :=
  "[provider]\nworkspace = 'team'\nrepository = 'app'\nusername = 'bot'\n" ++ line ++
    "[decoration]\nsummary_comment = true\nfile_comments = true\ndelete_old_comments = true\n"

def settingsWith (password token : Option String) : RawSettings where
  provider := ⟨none, some "team", some "app", some "bot", password, token, none⟩
  decoration := ⟨true, true, true⟩

theorem blankToken_left_out :
    read (fileWith "token = ' '\npassword = 'secret'\n") =
      .ok (settingsWith (some "secret") (some " ")) ∧
      read (fileWith "password = 'secret'\n") = .ok (settingsWith (some "secret") none) ∧
      load (fileWith "password = 'secret'\n") (some "other") =
        load (fileWith "token = ' '\npassword = 'secret'\n") (some "other") := by
  have hread : read (fileWith "token = ' '\npassword = 'secret'\n") =
      .ok (settingsWith (some "secret") (some " ")) := by decide +kernel
  have hread' : read (fileWith "password = 'secret'\n") =
      .ok (settingsWith (some "secret") none) := by
    decide +kernel
  have hblank : Lacks (some " ") := by
    rintro s ⟨⟩
    decide
  have hdrops : (settingsWith (some "secret") (some " ")).DropsBlanks
      (settingsWith (some "secret") none) :=
    ⟨.inl rfl, .inl rfl, .inl rfl, .inl rfl, .inl rfl, .inr ⟨hblank, rfl⟩, rfl, rfl⟩
  refine ⟨hread, hread', (load_blanks_iff hread hread' hdrops).1.mpr fun hhides => ?_⟩
  cases hhides.dropped.password

/-- A password that is blank in the file is missed, although the environment has one. -/
theorem blankPassword_hides_environment :
    (settingsWith (some " ") none).DropsBlanks (settingsWith none none) ∧
      load (fileWith "password = ' '\n") (some "secret") =
        .error (.notValid (.missing "provider.password")) ∧
      ∃ settings, load (fileWith "") (some "secret") = .ok settings ∧
      settings.credentials = ⟨"bot", "secret"⟩ := by
  have hblank : Lacks (some " ") := by
    rintro s ⟨⟩
    decide
  refine ⟨⟨.inl rfl, .inl rfl, .inl rfl, .inl rfl, .inr ⟨hblank, rfl⟩, .inl rfl, rfl, rfl⟩, by
    decide +kernel, ⟨none, "team", "app", ⟨"bot", "secret"⟩, 30, ⟨true, true, true⟩⟩, by
      decide +kernel, rfl⟩

end SettingsFile
end PullDecoration
