import PullDecoration.Proofs.Except
import PullDecoration.Settings.Basic

/-! Which settings are valid, and what they are taken from. A user name that comes out of a token
never has a colon; one that is given beside its password is taken as it is. -/
namespace PullDecoration

/-- A token has the user name before its first colon and the password behind it, and neither is
empty. -/
theorem Credentials.ofToken_eq_ok {token : String} {c : Credentials} :
    Credentials.ofToken token = .ok c ↔
      token = c.username ++ ":" ++ c.password ∧ ':' ∉ c.username.toList ∧ c.username ≠ "" ∧
      c.password ≠ "" := by
  constructor
  · intro h
    unfold ofToken at h
    split at h
    · rename_i a user d password hcut
      cases h
      obtain ⟨htoken, hcolon⟩ := Text.cut?_eq_some.mp hcut
      refine ⟨String.toList_inj.mp ?_, ?_, ?_, ?_⟩
      · simpa using htoken
      · simpa using hcolon
      · simp [← String.toList_inj]
      · simp [← String.toList_inj]
    · cases h
  · rintro ⟨rfl, hcolon, huser, hpassword⟩
    obtain ⟨a, user, ha⟩ := List.exists_cons_of_ne_nil (mt String.toList_eq_nil_iff.mp huser)
    obtain ⟨d, password, hd⟩ :=
      List.exists_cons_of_ne_nil (mt String.toList_eq_nil_iff.mp hpassword)
    have hcut : Text.cut? ':' (c.username ++ ":" ++ c.password).toList =
        some (a :: user, d :: password) :=
      Text.cut?_eq_some.mpr ⟨by simp [ha, hd], ha ▸ hcolon⟩
    simp only [ofToken, hcut]
    rw [← ha, ← hd, String.ofList_toList, String.ofList_toList]

namespace RawSettings

variable {raw : RawSettings} {settings : Settings} {c : Credentials}

theorem required_eq_ok {α : Type} {setting : String} {value : Option α} {a : α} :
    required setting value = .ok a ↔ value = some a := by
  cases value <;> simp [required]

theorem credentials_eq_ok {s : ProviderSection} : credentials s = .ok c ↔
    nonBlank? s.username = some c.username ∧ nonBlank? s.password = some c.password ∨
      (nonBlank? s.username = none ∨ nonBlank? s.password = none) ∧
        ∃ token, nonBlank? s.token = some token ∧ Credentials.ofToken token = .ok c := by
  obtain ⟨username, secret⟩ := c
  unfold credentials
  rcases nonBlank? s.username with - | user <;> rcases nonBlank? s.password with - | password <;>
    rcases nonBlank? s.token with - | token <;> simp

/-- The settings are what the sections say, a text as it is without the blanks around it. -/
structure Says (raw : RawSettings) (settings : Settings) : Prop where
  baseUrl : settings.baseUrl = nonBlank? raw.provider.baseUrl
  workspace : nonBlank? raw.provider.workspace = some settings.workspace
  repository : nonBlank? raw.provider.repository = some settings.repository
  credentials : RawSettings.credentials raw.provider = .ok settings.credentials
  timeout : RawSettings.timeout raw.provider.timeout = .ok settings.timeout
  summary : raw.decoration.summary = some settings.toggles.summary
  issues : raw.decoration.issues = some settings.toggles.issues
  clear : raw.decoration.clear = some settings.toggles.clear

theorem validate_eq_ok : raw.validate = .ok settings ↔ raw.Says settings := by
  unfold validate
  constructor
  · intro h
    obtain ⟨workspace, hworkspace, h⟩ := bind_eq_ok.mp h
    obtain ⟨repository, hrepository, h⟩ := bind_eq_ok.mp h
    obtain ⟨credentials, hcredentials, h⟩ := bind_eq_ok.mp h
    obtain ⟨timeout, htimeout, h⟩ := bind_eq_ok.mp h
    obtain ⟨summary, hsummary, h⟩ := bind_eq_ok.mp h
    obtain ⟨issues, hissues, h⟩ := bind_eq_ok.mp h
    obtain ⟨clear, hclear, h⟩ := bind_eq_ok.mp h
    cases h
    exact
      { baseUrl := rfl
        workspace := required_eq_ok.mp hworkspace
        repository := required_eq_ok.mp hrepository
        credentials := hcredentials
        timeout := htimeout
        summary := required_eq_ok.mp hsummary
        issues := required_eq_ok.mp hissues
        clear := required_eq_ok.mp hclear }
  · intro h
    simp only [h.workspace, h.repository, h.credentials, h.timeout, h.summary, h.issues, h.clear,
      ← h.baseUrl, required]
    rfl

end RawSettings

def ProviderSection.HasColon (s : ProviderSection) : Prop :=
  ∃ username, RawSettings.nonBlank? s.username = some username ∧
  (RawSettings.nonBlank? s.password).isSome ∧
    ':' ∈ username.toList

theorem RawSettings.Says.colon_iff {raw : RawSettings} {settings : Settings}
    (h : raw.Says settings) :
    ':' ∈ settings.credentials.username.toList ↔ raw.provider.HasColon := by
  rcases credentials_eq_ok.mp h.credentials with
    ⟨husername, hpassword⟩ | ⟨hmissing, token, -, htoken⟩
  · simp [ProviderSection.HasColon, husername, hpassword]
  · obtain ⟨-, hcolon, -, -⟩ := Credentials.ofToken_eq_ok.mp htoken
    refine iff_of_false hcolon ?_
    rintro ⟨username, husername, hpassword, -⟩
    rcases hmissing with hnone | hnone
    · simp [hnone] at husername
    · simp [hnone] at hpassword

end PullDecoration
