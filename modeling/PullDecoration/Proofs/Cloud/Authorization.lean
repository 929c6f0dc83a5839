import PullDecoration.Proofs.Cloud.Clearing
import PullDecoration.Proofs.Settings.Validation
import PullDecoration.Proofs.Text.Base64

/-! What the authorization of a request says to the service. It is read back up to the first colon,
so that a user name with a colon is cut there and the rest of it counts as the beginning of the
password. Only settings that give the user name beside its password can have such a name. -/
namespace PullDecoration

namespace Cloud

open Http

/-- The user and the password that the value of a header stands for: behind the scheme come the
octets of a text, and its first colon ends the user. -/
def readBasic? (header : String) : Option (String × String) := do
  let payload ← Text.dropLead? "Basic ".toList header.toList
  let octets ← Base64.decode? payload
  let text ← Utf8.decode? octets
  let (user, password) ← Text.cut? ':' text.toList
  return (String.ofList user, String.ofList password)

def Authorizes (r : Request) (user password : String) : Prop :=
  ∃ header ∈ r.values "authorization", readBasic? header = some (user, password)

/-- The credentials are written with a colon between them, and read up to the first one. -/
theorem readBasic?_basic {username secret user password : String} :
    readBasic? (Endpoint.basic username (some secret)) = some (user, password) ↔
      user ++ ":" ++ password = username ++ ":" ++ secret ∧ ':' ∉ user.toList := by
  have hpayload : Text.dropLead? "Basic ".toList (Endpoint.basic username (some secret)).toList =
      some (Base64.encode (Utf8.encode (username.toList ++ ':' :: secret.toList))) :=
    Text.dropLead?_eq_some.mpr
      (by simp only [Endpoint.basic, String.toList_append, String.toList_ofList, Option.getD_some])
  have htext : readBasic? (Endpoint.basic username (some secret)) =
      (Text.cut? ':' (username.toList ++ ':' :: secret.toList)).map fun p =>
        (String.ofList p.1, String.ofList p.2) := by
    simp only [readBasic?, hpayload, Base64.decode?_encode, Utf8.decode?_encode,
      Option.bind_eq_bind, Option.bind_some, String.toList_ofList, Option.pure_def,
      Option.map_eq_bind, Function.comp_def]
  rw [htext, Option.map_eq_some_iff]
  constructor
  · rintro ⟨⟨before, behind⟩, hcut, hpair⟩
    obtain ⟨rfl, rfl⟩ := Prod.mk.inj hpair
    obtain ⟨hsplit, hcolon⟩ := Text.cut?_eq_some.mp hcut
    exact ⟨String.toList_inj.mp (by simpa using hsplit.symm), by simpa using hcolon⟩
  · rintro ⟨hsplit, hcolon⟩
    have hchars : username.toList ++ ':' :: secret.toList =
        user.toList ++ ':' :: password.toList := by
      simpa using (congrArg String.toList hsplit).symm
    exact ⟨(user.toList, password.toList), Text.cut?_eq_some.mpr ⟨hchars, hcolon⟩, by simp⟩

theorem noColon_of_readBasic? {header user password : String}
    (h : readBasic? header = some (user, password)) :
    ':' ∉ user.toList := by
  simp only [readBasic?, Option.bind_eq_bind, Option.bind_eq_some_iff,
    Option.pure_def, Option.some.injEq, Prod.mk.injEq, Prod.exists] at h
  obtain ⟨_, -, _, -, _, -, before, behind, hcut, rfl, -⟩ := h
  simpa using (Text.cut?_eq_some.mp hcut).2

theorem exists_noColon (username secret : String) : ∃ user password : String,
    user ++ ":" ++ password = username ++ ":" ++ secret ∧ ':' ∉ user.toList := by
  have hmem : ':' ∈ username.toList ++ ':' :: secret.toList := by simp
  obtain ⟨before, behind, hsplit, hcolon⟩ := List.eq_append_cons_of_mem hmem
  refine ⟨String.ofList before, String.ofList behind, String.toList_inj.mp ?_, ?_⟩
  · simpa using hsplit.symm
  · simpa using hcolon

namespace Endpoint

variable {settings : Settings} {key : PullRequestKey} {e : Endpoint}

theorem ofSettings_credentials (h : ofSettings settings key = .ok e) :
    e.credentials = settings.credentials := by
  obtain ⟨url, -, -, rfl⟩ := ofSettings_eq_ok_iff.mp h
  rfl

/-- The credentials come last among the headers; a URL with a user of its own has one more header
before them. -/
theorem request_authorization {method : Method} {url : Url} {body : Option Json.Value} {r : Request}
    (h : e.request method url body = .ok r) :
    basic e.credentials.username (some e.credentials.password) ∈ r.values "authorization" := by
  obtain ⟨-, rfl⟩ := request_eq_ok_iff.mp h
  simp [Request.values]

theorem requests_authorization {σ α : Type} (server : Server σ) (limit : Nat) (d : Pass α) (s : σ) :
    ∀ r ∈ server.requests (e.perform limit d) s,
      basic e.credentials.username (some e.credentials.password) ∈ r.values "authorization" :=
  requests_puts server (puts_of_request (fun _ _ _ _ => request_authorization) limit d) s

end Endpoint

/-- A user name without a colon arrives with its password; of one with a colon only what stands
before arrives. -/
theorem authorizes_of_basic {r : Request} {username secret : String}
    (h : Endpoint.basic username (some secret) ∈ r.values "authorization") :
    (Authorizes r username secret ↔ ':' ∉ username.toList) ∧ ∃ user password,
      Authorizes r user password ∧ ':' ∉ user.toList ∧
      user ++ ":" ++ password = username ++ ":" ++ secret := by
  obtain ⟨user, password, hsplit, hcolon⟩ := exists_noColon username secret
  refine ⟨⟨?_, fun hcolon => ?_⟩, user, password,
    ⟨_, h, readBasic?_basic.mpr ⟨hsplit, hcolon⟩⟩, hcolon, hsplit⟩
  · rintro ⟨header, -, hread⟩
    exact noColon_of_readBasic? hread
  · exact ⟨_, h, readBasic?_basic.mpr ⟨rfl, hcolon⟩⟩

/-- Whatever a pass does and the service replies, every request says user and password as they are
in the settings, unless a user name with a colon is given beside a password. Then none does; but
what it says has the same text when user and password are written with a colon between them. -/
theorem requests_authorized_iff {σ α : Type} {raw : RawSettings} {settings : Settings}
    {key : PullRequestKey} {e : Endpoint} (hvalid : raw.validate = .ok settings)
    (he : Endpoint.ofSettings settings key = .ok e) (server : Server σ) (limit : Nat)
    (d : Pass α) (s : σ) :
    ∀ r ∈ server.requests (e.perform limit d) s,
      (Authorizes r settings.credentials.username settings.credentials.password ↔
        ¬ raw.provider.HasColon) ∧
        ∃ user password, Authorizes r user password ∧ ':' ∉ user.toList ∧
          user ++ ":" ++ password =
            settings.credentials.username ++ ":" ++ settings.credentials.password := by
  rw [← (RawSettings.validate_eq_ok.mp hvalid).colon_iff, ← Endpoint.ofSettings_credentials he]
  intro r hr
  exact authorizes_of_basic (Endpoint.requests_authorization server limit d s r hr)

/-- The settings of the sample, with a token whose password has a colon and which stands among
blanks. -/
def tokenSettings : RawSettings where
  provider :=
    { ProviderSection.empty with
      workspace := "team", repository := "app", token := " bot:sec:ret " }
  decoration := ⟨true, true, true⟩

theorem tokenSettings_authorize :
    ∃ settings e, tokenSettings.validate = .ok settings ∧
      Endpoint.ofSettings settings ⟨"7", by decide⟩ = .ok e ∧
      ∃ r, Server.unreachable.requests (e.perform 1 Sweep.pass) () = [r] ∧
      Authorizes r "bot" "sec:ret" := by
  have hvalid : tokenSettings.validate =
      .ok { sampleSettings with credentials := ⟨"bot", "sec:ret"⟩ } := by
    decide +kernel
  have he : Endpoint.ofSettings { sampleSettings with credentials := ⟨"bot", "sec:ret"⟩ }
      ⟨"7", by decide⟩ = .ok { sampleEndpoint with credentials := ⟨"bot", "sec:ret"⟩ } := by
    decide +kernel
  obtain ⟨r, hr⟩ := List.length_eq_one_iff.mp (show (Server.unreachable.requests
    ({ sampleEndpoint with credentials := ⟨"bot", "sec:ret"⟩ }.perform 1 Sweep.pass) ()).length =
    1 by decide +kernel)
  obtain ⟨hiff, -⟩ :=
    requests_authorized_iff hvalid he Server.unreachable 1 Sweep.pass () r (by simp [hr])
  refine ⟨_, _, hvalid, he, r, hr, hiff.mpr ?_⟩
  rintro ⟨username, husername, -, -⟩
  cases husername

/-- A user name with a colon beside a password is valid, but not what the service is told. -/
def colonSettings : RawSettings where
  provider :=
    { ProviderSection.empty with
      workspace := "team", repository := "app", username := "ci:bot", password := "secret" }
  decoration := ⟨true, true, true⟩

theorem colonSettings_authorize_other :
    ∃ settings e, colonSettings.validate = .ok settings ∧
    settings.credentials = ⟨"ci:bot", "secret"⟩ ∧
      Endpoint.ofSettings settings ⟨"7", by decide⟩ = .ok e ∧
      ∃ r, Server.unreachable.requests (e.perform 1 Sweep.pass) () = [r] ∧
      ¬ Authorizes r "ci:bot" "secret" ∧
        Authorizes r "ci" "bot:secret" := by
  have hvalid : colonSettings.validate =
      .ok { sampleSettings with credentials := ⟨"ci:bot", "secret"⟩ } := by
    decide +kernel
  have he : Endpoint.ofSettings { sampleSettings with credentials := ⟨"ci:bot", "secret"⟩ }
      ⟨"7", by decide⟩ = .ok { sampleEndpoint with credentials := ⟨"ci:bot", "secret"⟩ } := by
    decide +kernel
  obtain ⟨r, hr⟩ := List.length_eq_one_iff.mp (show (Server.unreachable.requests
    ({ sampleEndpoint with credentials := ⟨"ci:bot", "secret"⟩ }.perform 1 Sweep.pass) ()).length =
    1 by decide +kernel)
  have hheader := Endpoint.requests_authorization Server.unreachable 1 Sweep.pass
    () r (by rw [hr]; simp)
  have hother : readBasic? (Endpoint.basic "ci:bot" (some "secret")) = some ("ci", "bot:secret") :=
    readBasic?_basic.mpr ⟨by decide, by decide⟩
  refine ⟨_, _, hvalid, rfl, he, r, hr, fun hauthorizes => ?_, _, hheader, hother⟩
  exact absurd ((authorizes_of_basic hheader).1.mp hauthorizes) (by decide)

end Cloud
end PullDecoration
