import PullDecoration.Proofs.Cloud.Clearing
import PullDecoration.Proofs.Cloud.Resource
import PullDecoration.Proofs.Url.Faithful

/-! Where requests go. The URLs of a client are written by putting texts behind its root, and
nothing in these texts is encoded: a request stays inside the comments of the pull request exactly
if workspace, repository and key stand for themselves in a path, and one that deletes a comment
exactly if its id does so too. Numbers always do; a text that a listing gives as an id can lead to
any other place of the service. -/
namespace PullDecoration
namespace Cloud

open Http

namespace Endpoint

/-- The URL is one of the service, and behind the root its path has one segment for each text that
denotes it. -/
structure IsBelow (e : Endpoint) (root texts : List (List Char)) (url : Url) : Prop where
  origin : url.SharesOrigin e.base
  path : ∃ ss, url.path = .segments (root ++ ss) ∧ List.Forall₂ Url.Denotes ss texts

/-- Workspace, repository and key stand for themselves in a path. -/
structure IsFaithful (settings : Settings) (key : PullRequestKey) : Prop where
  workspace : Url.IsFaithful settings.workspace.toList
  repository : Url.IsFaithful settings.repository.toList
  key : Url.IsFaithful key.text.toList

structure EndsFaithfully (text : List Char) : Prop where
  faithful : Url.IsFaithful text
  visible : ∀ c ∈ text.getLast?, ' ' < c

theorem endsFaithfully_iff {text : List Char} :
    EndsFaithfully text ↔ Url.IsFaithful text ∧
    text.getLast?.all (fun c => decide (' ' < c)) = true := by
  rw [Option.all_eq_true]
  constructor
  · intro h
    exact ⟨h.faithful, fun c hc => decide_eq_true (h.visible c hc)⟩
  · rintro ⟨hfaithful, hvisible⟩
    exact ⟨hfaithful, fun c hc => of_decide_eq_true (hvisible c hc)⟩

instance (text : List Char) : Decidable (EndsFaithfully text) :=
  decidable_of_iff' _ endsFaithfully_iff

variable {settings : Settings} {key : PullRequestKey} {e : Endpoint} {root : List (List Char)}

theorem faithful_commentsPath_iff :
    (∀ t ∈ commentsPath settings key, Url.IsFaithful t) ↔ IsFaithful settings key := by
  have hfixed : Url.IsFaithful "repositories".toList ∧ Url.IsFaithful "pullrequests".toList ∧
      Url.IsFaithful "comments".toList := by decide +kernel
  obtain ⟨hrepositories, hpullrequests, hcomments⟩ := hfixed
  constructor
  · intro h
    simp only [commentsPath, List.forall_mem_cons] at h
    obtain ⟨-, hworkspace, hrepository, -, hkey, -⟩ := h
    exact ⟨hworkspace, hrepository, hkey⟩
  · intro h
    simp only [commentsPath, List.forall_mem_cons]
    exact ⟨hrepositories, h.workspace, h.repository, hpullrequests, h.key, hcomments,
      List.forall_mem_nil _⟩

theorem endsVisibly_commentsPath : Url.EndsVisibly (commentsPath settings key) := by
  have hlast : (commentsPath settings key).getLast? = some "comments".toList := rfl
  have hcomments : EndsFaithfully "comments".toList := by decide +kernel
  intro t ht
  rw [hlast, Option.mem_some] at ht
  exact ht ▸ hcomments.visible

theorem endsFaithfully_decimal (n : Nat) : EndsFaithfully (Text.decimal n) := by
  have hplain := plain_decimal n
  refine ⟨hplain.faithful, fun c hc => ?_⟩
  exact (Url.unreserved_kept (hplain.unreserved c (List.mem_of_getLast? hc))).1

section Requests

variable (he : ofSettings settings key = .ok e) (hroot : HasRoot settings root)
include hroot

/-- Texts behind the base are where they are written exactly if they are faithful and end
visibly. -/
theorem isBelow_iff {texts : List (List Char)} (hne : texts ≠ []) {text : String}
    (htext : text = withoutSlashes (settings.baseUrl.getD defaultBase) ++
      String.ofList (Url.Path.segments texts).chars)
    {url : Url} (hparse : Url.parse text = .ok url) {sent : Url} (hpath : sent.path = url.path)
    (horigin : sent.SharesOrigin e.base) :
    (e.IsBelow root texts sent ↔ (∀ t ∈ texts, Url.IsFaithful t) ∧ Url.EndsVisibly texts) ∧
      (e.IsBelow root texts sent → url.query = none) := by
  obtain ⟨u, hu⟩ := hroot
  obtain ⟨v, hv, -, hiff, hnone⟩ := hu.parse_denotes hne
  rw [htext, hv, Except.ok.injEq] at hparse
  subst hparse
  have hbelow : e.IsBelow root texts sent ↔
      ∃ ss, v.path = .segments (root ++ ss) ∧ List.Forall₂ Url.Denotes ss texts := by
    rw [← hpath]
    exact ⟨fun h => h.path, fun h => ⟨horigin, h⟩⟩
  exact ⟨hbelow.trans hiff, fun h => (hnone (hiff.mp (hbelow.mp h))).1⟩

include he

/-- What is sent to the URL of the comments, with whatever query, goes there exactly if that can be
written. -/
theorem comments_isBelow_iff {url sent : Url} (hparse : Url.parse e.commentsUrl = .ok url)
    (hpath : sent.path = url.path) (horigin : sent.SharesOrigin e.base) :
    (e.IsBelow root (commentsPath settings key) sent ↔ IsFaithful settings key) ∧
      (e.IsBelow root (commentsPath settings key) sent → url.query = none) := by
  obtain ⟨-, -, hcomments⟩ := ofSettings_eq_ok he
  rw [resource_eq] at hcomments
  have hne : commentsPath settings key ≠ [] := List.cons_ne_nil _ _
  obtain ⟨hiff, hquery⟩ := isBelow_iff hroot hne hcomments hparse hpath horigin
  refine ⟨hiff.trans ?_, hquery⟩
  rw [faithful_commentsPath_iff]
  exact and_iff_left endsVisibly_commentsPath

theorem createRequest_isBelow_iff {c : NewComment} {r : Request} (h : e.createRequest c = .ok r) :
    (e.IsBelow root (commentsPath settings key) r.url ↔ IsFaithful settings key) ∧
      (IsFaithful settings key → r.url.query = none) := by
  obtain ⟨url, hparse, hsent⟩ := (creates_of_createRequest h).url
  obtain ⟨hpath, hquery⟩ := detach_rest url
  rw [← hsent] at hpath hquery
  obtain ⟨hiff, hnone⟩ :=
    comments_isBelow_iff he hroot hparse hpath (createRequest_sharesOrigin he h)
  exact ⟨hiff, fun hfaithful => hquery.trans (hnone (hiff.mpr hfaithful))⟩

theorem listRequest_isBelow_iff {r : Request} (h : e.listRequest .first = .ok r) :
    e.IsBelow root (commentsPath settings key) r.url ↔ IsFaithful settings key := by
  have horigin := listRequest_sharesOrigin he h
  cases fetches_of_listRequest h with
  | first _ hparse hsent =>
    obtain ⟨hpath, -⟩ := detach_rest (Url.addParameter _ "q" markedFilter)
    rw [← hsent] at hpath
    exact (comments_isBelow_iff he hroot hparse hpath horigin).1

theorem deleteRequest_isBelow_iff {id : CommentId} {r : Request} (h : e.deleteRequest id = .ok r) :
    (e.IsBelow root (commentsPath settings key ++ [id.text.toList]) r.url ↔
        IsFaithful settings key ∧ EndsFaithfully id.text.toList) ∧
      (IsFaithful settings key → EndsFaithfully id.text.toList → r.url.query = none) := by
  obtain ⟨url, hparse, hsent⟩ := (deletes_of_deleteRequest h).url
  obtain ⟨hpath, hquery⟩ := detach_rest url
  rw [← hsent] at hpath hquery
  obtain ⟨-, -, hcomments⟩ := ofSettings_eq_ok he
  have htext : e.commentsUrl ++ "/" ++ id.text =
    withoutSlashes (settings.baseUrl.getD defaultBase) ++
      String.ofList (Url.Path.segments (commentsPath settings key ++ [id.text.toList])).chars := by
    refine String.toList_inj.mp ?_
    simp [hcomments, resource_eq, Url.Path.chars]
  obtain ⟨hiff, hnone⟩ :=
    isBelow_iff hroot (by simp) htext hparse hpath (deleteRequest_sharesOrigin he h)
  have hfaithful : (∀ t ∈ commentsPath settings key ++ [id.text.toList], Url.IsFaithful t) ∧
      Url.EndsVisibly (commentsPath settings key ++ [id.text.toList]) ↔
        IsFaithful settings key ∧ EndsFaithfully id.text.toList := by
    rw [List.forall_mem_append, List.forall_mem_singleton, faithful_commentsPath_iff, and_assoc]
    refine and_congr_right fun _ => ?_
    constructor
    · rintro ⟨hid, hvisible⟩
      exact ⟨hid, hvisible _ (by simp)⟩
    · intro hid
      refine ⟨hid.faithful, fun t ht => ?_⟩
      rw [List.getLast?_concat, Option.mem_some] at ht
      exact ht ▸ hid.visible
  rw [hfaithful] at hiff
  exact ⟨hiff, fun hsettings hid => hquery.trans (hnone (hiff.mpr ⟨hsettings, hid⟩))⟩

/-- A comment with a number is deleted at its own place below the comments, wherever these are. -/
theorem deleteRequest_number_isBelow_iff {n : Nat} {r : Request}
    (h : e.deleteRequest (.ofNat n) = .ok r) :
    e.IsBelow root (commentsPath settings key ++ [Text.decimal n]) r.url ↔
      IsFaithful settings key := by
  have htext : (CommentId.ofNat n).text.toList = Text.decimal n := by simp [CommentId.ofNat]
  have hiff := (deleteRequest_isBelow_iff he hroot h).1
  rw [htext] at hiff
  exact hiff.trans (and_iff_left (endsFaithfully_decimal n))

end Requests
end Endpoint

/-- Requests that post and list stay at the comments of the pull request exactly if workspace,
repository and key stand for themselves in a path. One that deletes a comment stays below them
exactly if the id does so too at the end of a path, and numbers do. -/
theorem requests_stay_iff {settings : Settings} {key : PullRequestKey} {e : Endpoint}
    {root : List (List Char)} (he : Endpoint.ofSettings settings key = .ok e)
    (hroot : Endpoint.HasRoot settings root) :
    (∀ c r, e.createRequest c = .ok r →
      (e.IsBelow root (Endpoint.commentsPath settings key) r.url ↔
        Endpoint.IsFaithful settings key) ∧
        (Endpoint.IsFaithful settings key → r.url.query = none)) ∧
    (∀ r, e.listRequest .first = .ok r →
      (e.IsBelow root (Endpoint.commentsPath settings key) r.url ↔
        Endpoint.IsFaithful settings key)) ∧
    (∀ id r, e.deleteRequest id = .ok r →
      (e.IsBelow root (Endpoint.commentsPath settings key ++ [id.text.toList]) r.url ↔
          Endpoint.IsFaithful settings key ∧ Endpoint.EndsFaithfully id.text.toList) ∧
        (Endpoint.IsFaithful settings key → Endpoint.EndsFaithfully id.text.toList →
          r.url.query = none)) ∧
    ∀ n r, e.deleteRequest (.ofNat n) = .ok r →
      (e.IsBelow root (Endpoint.commentsPath settings key ++ [Text.decimal n]) r.url ↔
        Endpoint.IsFaithful settings key) := by
  refine ⟨?_, ?_, ?_, ?_⟩
  · intro c r h
    exact Endpoint.createRequest_isBelow_iff he hroot h
  · intro r h
    exact Endpoint.listRequest_isBelow_iff he hroot h
  · intro id r h
    exact Endpoint.deleteRequest_isBelow_iff he hroot h
  · intro n r h
    exact Endpoint.deleteRequest_number_isBelow_iff he hroot h

def namedId : CommentId := ⟨"draft 12", by decide⟩

theorem namedComment_stays :
    Endpoint.ofSettings sampleSettings ⟨"7", by decide⟩ = .ok sampleEndpoint ∧
      Endpoint.HasRoot sampleSettings [['2', '.', '0']] ∧
      ∃ r, sampleEndpoint.deleteRequest namedId = .ok r ∧ sampleEndpoint.IsBelow [['2', '.', '0']]
        (Endpoint.commentsPath sampleSettings ⟨"7", by decide⟩ ++ [namedId.text.toList]) r.url ∧
      r.url.query = none := by
  have hroot : Endpoint.HasRoot sampleSettings [['2', '.', '0']] := Endpoint.hasRoot_default rfl
  obtain ⟨r, hr⟩ : ∃ r, sampleEndpoint.deleteRequest namedId = .ok r :=
    isOk_iff.mp (by decide +kernel)
  obtain ⟨-, -, hdeletes, -⟩ := requests_stay_iff sampleEndpoint_eq hroot
  obtain ⟨hiff, hquery⟩ := hdeletes _ _ hr
  have hfaithful : Endpoint.IsFaithful sampleSettings ⟨"7", by decide⟩ :=
    ⟨by decide +kernel, by decide +kernel, by decide +kernel⟩
  have hid : Endpoint.EndsFaithfully namedId.text.toList := by decide +kernel
  exact ⟨sampleEndpoint_eq, hroot, r, hr, hiff.mpr ⟨hfaithful, hid⟩, hquery hfaithful hid⟩

def strayingId : CommentId := ⟨"../../8/comments/5", by decide⟩

/-- A listing can give this id, and the clear of one pull request then deletes a comment of another
one. -/
theorem strayingId_deletes_elsewhere :
    strayingId ∈ Entry.decorationIds [⟨.text "../../8/comments/5", none, false⟩] ∧
      ∃ r, sampleEndpoint.deleteRequest strayingId = .ok r ∧ r.method = .delete ∧
        r.url.path = .segments
          ([['2', '.', '0']] ++ Endpoint.commentsPath sampleSettings ⟨"8", by decide⟩ ++ [['5']]) ∧
        ¬ sampleEndpoint.IsBelow [['2', '.', '0']]
          (Endpoint.commentsPath sampleSettings ⟨"7", by decide⟩ ++ [strayingId.text.toList])
            r.url := by
  obtain ⟨r, hr⟩ : ∃ r, sampleEndpoint.deleteRequest strayingId = .ok r :=
    isOk_iff.mp (by decide +kernel)
  have hpath : (sampleEndpoint.deleteRequest strayingId).map (fun r => r.url.path) =
      .ok (.segments ([['2', '.', '0']] ++ Endpoint.commentsPath sampleSettings
        ⟨"8", by decide⟩ ++ [['5']])) := by
    decide +kernel
  rw [hr, Except.map, Except.ok.injEq] at hpath
  refine ⟨by decide +kernel, r, hr, (Endpoint.deletes_of_deleteRequest hr).method, hpath, ?_⟩
  rintro ⟨-, ss, hss, hdenotes⟩
  rw [hpath, Url.Path.segments.injEq, List.append_assoc] at hss
  rw [← List.append_cancel_left hss] at hdenotes
  have hkey : Url.Denotes "8".toList "7".toList := by
    simp only [Endpoint.commentsPath, List.cons_append, List.forall₂_cons] at hdenotes
    exact hdenotes.2.2.2.2.1
  exact absurd hkey (by decide +kernel)

end Cloud
end PullDecoration
