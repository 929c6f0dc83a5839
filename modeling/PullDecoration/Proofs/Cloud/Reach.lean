import PullDecoration.Proofs.Cloud.Resource
import PullDecoration.Proofs.Url.Climbing

/-! What lies under the default base. Whether a URL is supported is seen from how its text begins,
but segments of two points behind that can climb out of the interface. All that is certain is the
service: a supported URL, and every request of a pass that is let through, goes to its usual port
over https. It goes to the second version of the interface exactly if the text behind the default
base does not climb out of it or climbs back. -/
namespace PullDecoration
namespace Cloud

open Http

def bareBase : String := "https://api.bitbucket.org"

def apiRoot : List (List Char) := [['2', '.', '0']]

/-- The URL is one of the service, at the usual port. -/
structure AtService (u : Url) : Prop where
  scheme : u.scheme = Url.https
  host : u.host = some (.name "api.bitbucket.org".toList)
  port : u.effectivePort = some 443

/-- The text leads from the default base to something below it: it does not climb out, or it would
come back to the default base even right behind the service. -/
def StaysBelow (tail : String) : Prop :=
  ¬ Url.ClimbsOut 0 (Url.tailSegments tail.toList) ∨
    ∃ u, Url.parse (bareBase ++ "/" ++ tail) = .ok u ∧ u.IsUnder apiRoot

theorem AtService.of_sharesOrigin {u v : Url} (h : u.SharesOrigin v) (hv : AtService v) :
    AtService u :=
  ⟨h.scheme.trans hv.scheme, h.host.trans hv.host, h.port.trans hv.port⟩

theorem atService_serviceUrl (ss : List (List Char)) : AtService (serviceUrl ss) := ⟨rfl, rfl, rfl⟩

theorem isRoot_bareBase : Url.IsRoot bareBase (serviceUrl [[]]) [] :=
  ⟨by decide +kernel, .inr rfl, rfl, rfl, rfl⟩

/-- Whatever comes behind the default base and a slash is a URL of the service. -/
theorem parse_tail (tail : String) :
    ∃ u, Url.parse (defaultBase ++ "/" ++ tail) = .ok u ∧ AtService u ∧
    (u.IsUnder apiRoot ↔ StaysBelow tail) := by
  have hchars (base : String) : base ++ "/" ++ tail = base ++ String.ofList ('/' :: tail.toList) :=
    String.toList_inj.mp (by simp)
  obtain ⟨u, v, hu, hv, hfront, hunder⟩ :=
    Endpoint.isRoot_defaultBase.parse_climbing isRoot_bareBase tail.toList
  refine ⟨u, by rw [hchars, hu], .of_sharesOrigin (.of_front hfront) (atService_serviceUrl _),
    hunder.trans ?_⟩
  refine or_congr_right ?_
  rw [hchars, hv]
  simp [apiRoot]

namespace Endpoint

variable {settings : Settings} {key : PullRequestKey} {e : Endpoint}

/-- The request is for the comments or for one of them, and the text is the URL as it is written. -/
inductive Aims (e : Endpoint) : Request → String → Prop
  | list {r : Request} (h : e.Fetches .first r) : Aims e r e.commentsUrl
  | create {r : Request} {c : NewComment} (h : e.Creates c r) : Aims e r e.commentsUrl
  | delete {r : Request} {id : CommentId} (h : e.Deletes id r) :
      Aims e r (e.commentsUrl ++ "/" ++ id.text)

theorem Aims.path {r : Request} {text : String} (h : e.Aims r text) :
    ∃ url, Url.parse text = .ok url ∧ r.url.path = url.path := by
  cases h with
  | list h =>
    cases h with
    | @first _ url _ hparse hurl => exact ⟨url, hparse, hurl ▸ (detach_rest _).1⟩
  | create h =>
    obtain ⟨url, hparse, hurl⟩ := h.url
    exact ⟨url, hparse, hurl ▸ (detach_rest _).1⟩
  | delete h =>
    obtain ⟨url, hparse, hurl⟩ := h.url
    exact ⟨url, hparse, hurl ▸ (detach_rest _).1⟩

theorem Aims.isUnder_iff {r : Request} {tail : String} (h : e.Aims r (defaultBase ++ "/" ++ tail)) :
    r.url.IsUnder apiRoot ↔ StaysBelow tail := by
  obtain ⟨url, hparse, hpath⟩ := h.path
  obtain ⟨u, hu, -, hunder⟩ := parse_tail tail
  rw [hu, Except.ok.injEq] at hparse
  rw [Url.IsUnder, hpath, ← hparse]
  exact hunder

section Checked

variable (htrim : ∀ url, settings.baseUrl = some url → ∃ raw, url = Text.trim raw)
variable (hbase : checkBase settings = .ok ()) (he : ofSettings settings key = .ok e)
include htrim hbase he

theorem atService_base : AtService e.base := by
  obtain ⟨hparse, -, -⟩ := ofSettings_eq_ok he
  rcases base_of_checkBase htrim hbase with hsame | ⟨tail, hbelow⟩
  · rw [hsame, parse_defaultBase, Except.ok.injEq] at hparse
    exact hparse ▸ atService_serviceUrl _
  · obtain ⟨u, hu, hservice, -⟩ := parse_tail tail
    rw [hbelow, hu, Except.ok.injEq] at hparse
    exact hparse ▸ hservice

theorem commentsUrl_eq : ∃ tail, e.commentsUrl = defaultBase ++ "/" ++ tail := by
  obtain ⟨below, hcomments⟩ := commentsUrl_below he
  rcases base_of_checkBase htrim hbase with hsame | ⟨tail, hbelow⟩
  · exact ⟨below, hsame ▸ hcomments⟩
  · refine ⟨tail ++ "/" ++ below, ?_⟩
    rw [hcomments, hbelow]
    simp only [String.append_assoc]

theorem Aims.below {r : Request} {text : String} (h : e.Aims r text) :
    ∃ tail, text = defaultBase ++ "/" ++ tail := by
  obtain ⟨tail, hcomments⟩ := commentsUrl_eq htrim hbase he
  cases h with
  | list | create => exact ⟨tail, hcomments⟩
  | @delete id =>
    refine ⟨tail ++ "/" ++ id.text, ?_⟩
    rw [hcomments]
    simp only [String.append_assoc]

end Checked

/-- The request goes to the service: to a page that a reply has named, or to what is written behind
the default base, and then to the second version of the interface exactly if the text stays
below. -/
structure Reaches (e : Endpoint) (r : Request) : Prop where
  service : AtService r.url
  under : (∃ text, e.Fetches (.next text) r) ∨
    ∃ tail, e.Aims r (defaultBase ++ "/" ++ tail) ∧ (r.url.IsUnder apiRoot ↔ StaysBelow tail)

theorem perform_reaches (htrim : ∀ url, settings.baseUrl = some url → ∃ raw, url = Text.trim raw)
    (hbase : checkBase settings = .ok ()) (he : ofSettings settings key = .ok e)
    {α : Type} (limit : Nat) (d : Pass α) : (e.perform limit d).Puts e.Reaches := by
  have hservice {r : Request} (h : r.url.SharesOrigin e.base) : AtService r.url :=
    .of_sharesOrigin h (atService_base htrim hbase he)
  have haims {r : Request} {text : String} (h : e.Aims r text) :
      ∃ tail, e.Aims r (defaultBase ++ "/" ++ tail) ∧
      (r.url.IsUnder apiRoot ↔ StaysBelow tail) := by
    obtain ⟨tail, rfl⟩ := h.below htrim hbase he
    exact ⟨tail, h, h.isUnder_iff⟩
  refine puts_of_requests (fun link r hr => ?_) (fun c r hr => ?_) (fun id r hr => ?_) limit d
  · refine ⟨hservice (listRequest_sharesOrigin he hr), ?_⟩
    cases link with
    | first => exact .inr (haims (.list (fetches_of_listRequest hr)))
    | next text => exact .inl ⟨text, fetches_of_listRequest hr⟩
  · exact ⟨hservice (createRequest_sharesOrigin he hr),
      .inr (haims (.create (creates_of_createRequest hr)))⟩
  · exact ⟨hservice (deleteRequest_sharesOrigin he hr),
      .inr (haims (.delete (deletes_of_deleteRequest hr)))⟩

end Endpoint

/-- Whatever a pass that is let through sends, it sends for a pull request through an endpoint. -/
theorem decorateSupported_puts {settings : Settings}
    (htrim : ∀ url, settings.baseUrl = some url → ∃ raw, url = Text.trim raw) (limit : Nat)
    (o : Decoration.Occasion) (a : Analysis) (d : Descriptor) :
    (decorateSupported limit o settings a d).Puts fun r =>
      ∃ key e, d.key = some key ∧ Endpoint.ofSettings settings key = .ok e ∧ e.Reaches r := by
  cases hbase : checkBase settings with
  | error err =>
    rw [decorateSupported, hbase]
    exact .done _
  | ok _ =>
    cases hkey : d.key with
    | none =>
      rw [decorateSupported_of_other hbase hkey]
      exact .done _
    | some key =>
      obtain ⟨e, he, hpass⟩ := decorateSupported_of_key limit o a htrim hbase hkey
      rw [hpass]
      refine Dialogue.Puts.bind ?_ fun r => .done _
      exact (Endpoint.perform_reaches htrim hbase he limit _).mono fun r hr => ⟨key, e, rfl, he, hr⟩

/-- Every supported URL is one of the service, at its usual port over https, but lies under the
second version of the interface exactly if the text behind the default base stays below it. Of every
request of a pass with valid settings the same is true, whatever the service replies, except that a
page is fetched wherever a reply has named it at the service. -/
theorem supported_under_iff (url : String) (raw : RawSettings) :
    (isSupported url = true → ∃ tail u, Text.trim url = defaultBase ++ "/" ++ tail ∧
      Url.parse (Text.trim url) = .ok u ∧ AtService u ∧ (u.IsUnder apiRoot ↔ StaysBelow tail)) ∧
    ∀ settings, raw.validate = .ok settings → ∀ {σ : Type} (server : Server σ) (limit : Nat)
      (o : Decoration.Occasion) (a : Analysis) (d : Descriptor) (s : σ),
      ∀ r ∈ server.requests (decorateSupported limit o settings a d) s,
        ∃ key e, d.key = some key ∧ Endpoint.ofSettings settings key = .ok e ∧ e.Reaches r := by
  constructor
  · intro hurl
    obtain ⟨tail, htail⟩ := isSupported_iff.mp hurl
    obtain ⟨u, hu, hservice, hunder⟩ := parse_tail tail
    exact ⟨tail, u, htail, htail ▸ hu, hservice, hunder⟩
  · intro settings hvalid σ server limit o a d s
    have htrim := RawSettings.validate_baseUrl hvalid
    exact Endpoint.requests_puts server (decorateSupported_puts htrim limit o a d) s

def settingsAt (baseUrl : String) : RawSettings where
  provider :=
    { ProviderSection.empty with
      baseUrl, workspace := "team", repository := "app", username := "bot", password := "secret" }
  decoration := ⟨true, true, true⟩

def sentAt (settings : Settings) : List Request :=
  Server.unreachable.requests
    (decorateSupported 1 .earliest settings Decoration.sampleAnalysis Decoration.samplePullRequest)
    ()

def windingBase : String := " https://api.bitbucket.org/2.0/beta/%2E%2e/ "

theorem windingBase_reaches :
    isSupported windingBase = true ∧
    (∃ u, Url.parse (Text.trim windingBase) = .ok u ∧ u.IsUnder apiRoot) ∧
      ∃ settings, (settingsAt windingBase).validate = .ok settings ∧ ∃ r ∈ sentAt settings,
        ∃ key e, Decoration.samplePullRequest.key = some key ∧
        Endpoint.ofSettings settings key = .ok e ∧
          e.Reaches r := by
  obtain ⟨hsupported, hsent⟩ := supported_under_iff windingBase (settingsAt windingBase)
  have hbase : isSupported windingBase = true := by decide +kernel
  have htrim : Text.trim windingBase = defaultBase ++ "/" ++ "beta/%2E%2e/" := by decide +kernel
  have hstays : ¬ Url.ClimbsOut 0 (Url.tailSegments "beta/%2E%2e/".toList) := by decide +kernel
  obtain ⟨tail, u, htail, hu, -, hunder⟩ := hsupported hbase
  rw [htrim, String.append_right_inj] at htail
  subst htail
  have hvalid : (settingsAt windingBase).validate =
      .ok { sampleSettings with baseUrl := Text.trim windingBase } := by decide +kernel
  have hsome : (sentAt { sampleSettings with baseUrl := Text.trim windingBase }).isEmpty =
    false := by decide +kernel
  obtain ⟨r, hr⟩ := List.exists_mem_of_ne_nil _ (List.isEmpty_eq_false_iff.mp hsome)
  exact ⟨hbase, ⟨u, hu, hunder.mpr (.inl hstays)⟩, _, hvalid, r, hr,
    hsent _ hvalid Server.unreachable 1 .earliest Decoration.sampleAnalysis
      Decoration.samplePullRequest () r hr⟩

def climbingBase : String := "https://api.bitbucket.org/2.0/../1.0/"

theorem climbingBase_leaves :
    isSupported climbingBase = true ∧
    (∃ u, Url.parse (Text.trim climbingBase) = .ok u ∧ ¬ u.IsUnder apiRoot) ∧
      ∃ settings, (settingsAt climbingBase).validate = .ok settings ∧ checkBase settings = .ok () ∧
        ∃ r ∈ sentAt settings, ¬ r.url.IsUnder apiRoot := by
  have hparse : Url.parse (Text.trim climbingBase) =
    .ok (serviceUrl [['1', '.', '0'], []]) := by decide +kernel
  have hsent : ∃ r ∈ sentAt { sampleSettings with baseUrl := climbingBase },
      ¬ r.url.IsUnder apiRoot := by
    decide +kernel
  exact ⟨by decide +kernel, ⟨_, hparse, by decide⟩, { sampleSettings with baseUrl := climbingBase },
    by decide +kernel, by decide +kernel, hsent⟩

end Cloud
end PullDecoration
