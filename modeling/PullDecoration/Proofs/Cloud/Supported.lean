import PullDecoration.Cloud.Decoration
import PullDecoration.Proofs.Cloud.Requests
import PullDecoration.Proofs.Settings.Validation
import PullDecoration.Proofs.Text.Trim

/-! Settings whose base URL is trimmed and lies at the service give an endpoint for every pull
request. -/
namespace PullDecoration

namespace Cloud

theorem withoutSlashes_prefix (s : String) : (withoutSlashes s).toList <+: s.toList := by
  rw [withoutSlashes, String.toList_ofList]
  exact List.rdropWhile_prefix _ _

theorem isSupported_iff {url : String} :
    isSupported url = true ↔ ∃ tail, Text.trim url = defaultBase ++ "/" ++ tail := by
  have hchars (tail : String) : Text.trim url = defaultBase ++ "/" ++ tail ↔
      Text.dropLead? defaultBase.toList (Text.trim url).toList = some ('/' :: tail.toList) := by
    rw [Text.dropLead?_eq_some, ← String.toList_inj]
    simp
  simp only [hchars]
  unfold isSupported
  constructor
  · intro h
    split at h
    · rename_i rest hrest
      exact ⟨String.ofList rest, by rw [hrest, String.toList_ofList]⟩
    · cases h
  · rintro ⟨tail, htail⟩
    simp only [htail]

/-- A trimmed URL that is supported is the default base or lies below it, up to slashes at its
end. -/
theorem eq_of_isSupported {raw url : String} (hurl : url = Text.trim raw)
    (h : isSupported (withoutSlashes url ++ "/") = true) :
    withoutSlashes url = defaultBase ∨ ∃ tail, withoutSlashes url = defaultBase ++ "/" ++ tail := by
  have hprefix : (withoutSlashes url).toList <+: Text.trimChars raw.toList := by
    have h := withoutSlashes_prefix url
    rwa [hurl, Text.trim_toList, ← hurl] at h
  have hhead : ∀ d ∈ ((withoutSlashes url).toList ++ ['/']).head?, Text.isBlankChar d = false := by
    intro d hd
    cases hcs : (withoutSlashes url).toList with
    | nil =>
      rw [hcs] at hd
      cases hd
      decide
    | cons c cs =>
      rw [hcs] at hd hprefix
      cases hd
      exact Text.head_of_prefix_trimChars hprefix
  have htrim : (Text.trim (withoutSlashes url ++ "/")).toList =
      (withoutSlashes url).toList ++ ['/'] := by
    rw [Text.trim_toList, String.toList_append]
    exact Text.trimChars_of_ends hhead (by decide)
  obtain ⟨rest, hrest⟩ := isSupported_iff.mp h
  have hall : (withoutSlashes url).toList ++ ['/'] = defaultBase.toList ++ '/' :: rest.toList := by
    rw [← htrim, hrest]
    simp
  rcases List.eq_nil_or_concat rest.toList with hnil | ⟨tail, c, htail⟩
  · left
    rw [hnil] at hall
    exact String.toList_inj.mp (List.append_cancel_right hall)
  · right
    refine ⟨String.ofList tail, String.toList_inj.mp ?_⟩
    have hsplit : (withoutSlashes url).toList ++ ['/'] =
        (defaultBase.toList ++ '/' :: tail) ++ [c] := by
      simpa [htail] using hall
    have hfront := List.append_inj_left' hsplit rfl
    simpa using hfront

theorem checkBase_eq_error {settings : Settings} : (∃ e, checkBase settings = .error e) ↔
    ∃ url, settings.baseUrl = some url ∧ isSupported (withoutSlashes url ++ "/") = false := by
  cases hbase : settings.baseUrl with
  | none => simp [checkBase, hbase]
  | some url => cases hsupported : isSupported (withoutSlashes url ++ "/") <;> simp [checkBase,
    hbase, hsupported]

theorem base_of_checkBase {settings : Settings}
    (htrim : ∀ url, settings.baseUrl = some url → ∃ raw, url = Text.trim raw)
    (h : checkBase settings = .ok ()) :
    withoutSlashes (settings.baseUrl.getD defaultBase) = defaultBase ∨
      ∃ tail, withoutSlashes (settings.baseUrl.getD defaultBase) = defaultBase ++ "/" ++ tail := by
  cases hbase : settings.baseUrl with
  | none => exact .inl (by decide)
  | some url =>
    have hsupported : isSupported (withoutSlashes url ++ "/") = true := by
      by_contra hnot
      obtain ⟨e, he⟩ := checkBase_eq_error.mpr ⟨url, hbase, Bool.eq_false_iff.mpr hnot⟩
      cases h.symm.trans he
    obtain ⟨raw, hraw⟩ := htrim url hbase
    exact eq_of_isSupported hraw hsupported

def serviceUrl (ss : List (List Char)) : Url :=
  ⟨Url.https, [], [], some (.name "api.bitbucket.org".toList), none, .segments ss, none, none⟩

theorem parse_defaultBase :
    Url.parse defaultBase = .ok (serviceUrl [['2', '.', '0']]) := by decide +kernel

namespace Endpoint

theorem ofSettings_isOk {settings : Settings} {u : Url}
    (hparse : Url.parse (withoutSlashes (settings.baseUrl.getD defaultBase)) = .ok u)
    (hweb : u.isWeb) (key : PullRequestKey) : ∃ e, ofSettings settings key = .ok e :=
  ⟨_, ofSettings_eq_ok_iff.mpr ⟨u, hparse, hweb, rfl⟩⟩

theorem ofSettings_of_checkBase {settings : Settings}
    (htrim : ∀ url, settings.baseUrl = some url → ∃ raw, url = Text.trim raw)
    (h : checkBase settings = .ok ()) (key : PullRequestKey) :
    ∃ e, ofSettings settings key = .ok e := by
  have hweb : (serviceUrl [['2', '.', '0']]).isWeb := .inr rfl
  rcases base_of_checkBase htrim h with hsame | ⟨tail, hbelow⟩
  · refine ofSettings_isOk ?_ hweb key
    rw [hsame]
    exact parse_defaultBase
  · obtain ⟨v, hv, hfront⟩ :=
      Url.parse_below (c := '0') (by decide) (by decide) parse_defaultBase hweb tail
    obtain ⟨hsame, -⟩ := Url.scheme_host_of_front hfront
    have hvweb : v.isWeb := by rwa [Url.isWeb, hsame]
    refine ofSettings_isOk ?_ hvweb key
    rw [hbelow]
    exact hv

end Endpoint

section Decorate

variable {limit : Nat} {o : Decoration.Occasion} {settings : Settings}
  {a : Analysis} {d : Descriptor}

theorem decorateSupported_of_other (hbase : checkBase settings = .ok ()) (hkey : d.key = none) :
    decorateSupported limit o settings a d = .done (some (.ok (Decoration.skipped o d))) := by
  simp [decorateSupported, hbase, decorate, hkey]

theorem decorateSupported_of_key (limit : Nat) (o : Decoration.Occasion) (a : Analysis)
    (htrim : ∀ url, settings.baseUrl = some url → ∃ raw, url = Text.trim raw)
    (hbase : checkBase settings = .ok ()) {key : PullRequestKey} (hkey : d.key = some key) :
    ∃ e, Endpoint.ofSettings settings key = .ok e ∧
      decorateSupported limit o settings a d =
        (e.perform limit (Decoration.pass o settings.toggles a d)).bind fun r =>
          .done (r.map .ok) := by
  obtain ⟨e, he⟩ := Endpoint.ofSettings_of_checkBase htrim hbase key
  exact ⟨e, he, by simp [decorateSupported, hbase, decorate, hkey, he]⟩

end Decorate
end Cloud

namespace RawSettings

theorem validate_baseUrl {raw : RawSettings} {settings : Settings}
    (h : raw.validate = .ok settings) :
    ∀ url, settings.baseUrl = some url → ∃ text, url = Text.trim text := by
  intro url hurl
  rw [(validate_eq_ok.mp h).baseUrl] at hurl
  obtain ⟨text, -, hnonblank⟩ := Option.bind_eq_some_iff.mp hurl
  rw [Text.nonBlank?] at hnonblank
  split at hnonblank
  · cases hnonblank
  · cases hnonblank
    exact ⟨text, rfl⟩

end RawSettings
end PullDecoration
