import Mathlib.Data.Nat.Digits.Defs
import PullDecoration.Proofs.Cloud.Origin
import PullDecoration.Proofs.Cloud.Supported
import PullDecoration.Proofs.Url.Segments
import PullDecoration.Provider.Store

/-! Where the comments of a pull request are. If workspace, repository and key are plain, the
requests that post and delete go to their path under the root and to the ids below it; and wherever
the comments can be listed, a comment with a number of 64 bits can be deleted. -/
namespace PullDecoration
namespace Cloud
namespace Endpoint

open Http

/-- Workspace, repository and key are segments of a path as they are. -/
structure IsPlain (settings : Settings) (key : PullRequestKey) : Prop where
  workspace : Url.IsPlain settings.workspace.toList
  repository : Url.IsPlain settings.repository.toList
  key : Url.IsPlain key.text.toList

def commentsPath (settings : Settings) (key : PullRequestKey) : List (List Char) :=
  ["repositories".toList, settings.workspace.toList, settings.repository.toList,
    "pullrequests".toList, key.text.toList, "comments".toList]

def HasRoot (settings : Settings) (root : List (List Char)) : Prop :=
  ∃ u, Url.IsRoot (withoutSlashes (settings.baseUrl.getD defaultBase)) u root

theorem isRoot_defaultBase :
    Url.IsRoot defaultBase (serviceUrl [['2', '.', '0'], []]) [['2', '.', '0']] :=
  ⟨by decide +kernel, .inr rfl, rfl, rfl, rfl⟩

/-- Without a base URL of their own settings lead to the second version of the interface. -/
theorem hasRoot_default {settings : Settings} (h : settings.baseUrl = none) :
    HasRoot settings [['2', '.', '0']] := by
  have hsame : withoutSlashes defaultBase = defaultBase := by decide
  rw [HasRoot, h, Option.getD_none, hsame]
  exact ⟨_, isRoot_defaultBase⟩

/-- The URL is one of the service, with this path and no query. -/
structure IsAt (e : Endpoint) (path : List (List Char)) (url : Url) : Prop where
  origin : url.SharesOrigin e.base
  path : url.path = .segments path
  query : url.query = none

theorem resource_eq (base : String) (settings : Settings) (key : PullRequestKey) :
    resource base settings.workspace settings.repository key =
      base ++ String.ofList (Url.Path.segments (commentsPath settings key)).chars := by
  refine String.toList_inj.mp ?_
  simp [resource, Url.Path.chars, commentsPath]

theorem plain_commentsPath {settings : Settings} {key : PullRequestKey} (h : IsPlain settings key) :
    ∀ t ∈ commentsPath settings key, Url.IsPlain t := by
  intro t ht
  simp only [commentsPath, List.mem_cons, List.not_mem_nil, or_false] at ht
  rcases ht with rfl | rfl | rfl | rfl | rfl | rfl
  · decide
  · exact h.workspace
  · exact h.repository
  · decide
  · exact h.key
  · decide

theorem plain_decimal (n : Nat) : Url.IsPlain (Text.decimal n) := by
  have hdigit : ∀ c ∈ Text.decimal n, c.isDigit = true := fun c => Text.isDigit_of_mem_decimal
  refine ⟨fun c hc => ?_, fun h => ?_, fun h => ?_⟩
  · simp [Url.isUnreserved, Char.isAlphanum, hdigit c hc]
  · exact absurd (hdigit '.' (by simp [h])) (by decide)
  · exact absurd (hdigit '.' (by simp [h])) (by decide)

theorem decimal_length {n : Nat} (h : n < UInt64.size) : (Text.decimal n).length ≤ 20 :=
  Nat.toDigits_length 10 n 20 (by decide) (Nat.lt_trans h (by decide))

theorem detach_rest (u : Url) : (detach u).1.path = u.path ∧ (detach u).1.query = u.query := by
  unfold detach
  split <;> exact ⟨rfl, rfl⟩

theorem isAt_detach {e : Endpoint} {u : Url} {path : List (List Char)} (hquery : u.query = none)
    (horigin : (detach (u.withPath path)).1.SharesOrigin e.base) :
    e.IsAt path (detach (u.withPath path)).1 := by
  obtain ⟨hpath, hnone⟩ := detach_rest (u.withPath path)
  exact ⟨horigin, hpath, hnone.trans hquery⟩

theorem length_filter {u : Url} (hquery : u.query = none) :
    u.chars.length + 21 ≤ (u.addParameter "q" markedFilter).chars.length := by
  have hfilter : 20 ≤
      (Url.formEncode "q".toList ++ '=' :: Url.formEncode markedFilter.toList).length := by
    decide +kernel
  have hauthority : (u.addParameter "q" markedFilter).authorityChars = u.authorityChars := rfl
  have hmarked : Url.markedChars '?' (u.addParameter "q" markedFilter).query =
      '?' :: (Url.formEncode "q".toList ++ '=' :: Url.formEncode markedFilter.toList) := by
    simp [Url.addParameter, hquery, Url.markedChars]
  have hrest : (u.addParameter "q" markedFilter).scheme = u.scheme ∧
      (u.addParameter "q" markedFilter).path = u.path ∧
      (u.addParameter "q" markedFilter).fragment = u.fragment := ⟨rfl, rfl, rfl⟩
  simp only [Url.chars, hauthority, hmarked, hrest, hquery]
  simp only [Url.markedChars, List.length_append, List.length_cons, List.length_nil] at hfilter ⊢
  omega

section Requests

variable {settings : Settings} {key : PullRequestKey} {e : Endpoint} {root : List (List Char)}
variable (he : ofSettings settings key = .ok e) (hroot : HasRoot settings root)
  (hplain : IsPlain settings key)
include he hroot hplain

theorem parse_comments : ∃ u : Url, u.query = none ∧
    Url.parse e.commentsUrl = .ok (u.withPath (root ++ commentsPath settings key)) ∧
    ∀ n, Url.parse (e.commentsUrl ++ "/" ++ (CommentId.ofNat n).text) =
      .ok (u.withPath (root ++ commentsPath settings key ++ [Text.decimal n])) := by
  obtain ⟨u, hu⟩ := hroot
  obtain ⟨-, -, hcomments⟩ := ofSettings_eq_ok he
  have hsegments := plain_commentsPath hplain
  refine ⟨u, hu.query, ?_, fun n => ?_⟩
  · rw [hcomments, resource_eq]
    exact hu.parse_segments hsegments (List.cons_ne_nil _ _)
  · have hbelow : ∀ t ∈ commentsPath settings key ++ [Text.decimal n], Url.IsPlain t :=
      List.forall_mem_append.mpr ⟨hsegments, List.forall_mem_singleton.mpr (plain_decimal n)⟩
    have hurl : e.commentsUrl ++ "/" ++ (CommentId.ofNat n).text =
        withoutSlashes (settings.baseUrl.getD defaultBase) ++
          String.ofList
            (Url.Path.segments (commentsPath settings key ++ [Text.decimal n])).chars := by
      refine String.toList_inj.mp ?_
      simp [hcomments, resource_eq, Url.Path.chars, CommentId.ofNat]
    rw [hurl, List.append_assoc]
    exact hu.parse_segments hbelow (by simp)

theorem createRequest_isAt {c : NewComment} {r : Request} (h : e.createRequest c = .ok r) :
    r.method = .post ∧ e.IsAt (root ++ commentsPath settings key) r.url ∧
      r.body = (NewComment.codec.write c).text := by
  have hcreates := creates_of_createRequest h
  obtain ⟨u, hquery, hparse, -⟩ := parse_comments he hroot hplain
  obtain ⟨url, hurl, hsent⟩ := hcreates.url
  rw [hparse, Except.ok.injEq] at hurl
  subst hurl
  have horigin := createRequest_sharesOrigin he h
  rw [hsent] at horigin ⊢
  exact ⟨hcreates.method, isAt_detach hquery horigin, hcreates.body⟩

theorem deleteRequest_isAt {n : Nat} {r : Request} (h : e.deleteRequest (.ofNat n) = .ok r) :
    r.method = .delete ∧ e.IsAt (root ++ commentsPath settings key ++ [Text.decimal n]) r.url := by
  have hdeletes := deletes_of_deleteRequest h
  obtain ⟨u, hquery, -, hparse⟩ := parse_comments he hroot hplain
  obtain ⟨url, hurl, hsent⟩ := hdeletes.url
  rw [hparse, Except.ok.injEq] at hurl
  subst hurl
  have horigin := deleteRequest_sharesOrigin he h
  rw [hsent] at horigin ⊢
  exact ⟨hdeletes.method, isAt_detach hquery horigin⟩

/-- The URL of a comment is no longer than that of the first page, in which the filter stands. -/
theorem deleteRequest_sent {r : Request} (hlist : e.listRequest .first = .ok r) {n : Nat}
    (hn : n < UInt64.size) :
    ∃ r', e.deleteRequest (.ofNat n) = .ok r' := by
  obtain ⟨u, hquery, hcomments, hbelow⟩ := parse_comments he hroot hplain
  obtain ⟨url, hurl, hrequest⟩ := bind_eq_ok.mp hlist
  have hurl := mapError_eq_ok.mp hurl
  rw [hcomments, Except.ok.injEq] at hurl
  have hsendable := request_isOk e .get (url.addParameter "q" markedFilter) none
  rw [hrequest] at hsendable
  obtain ⟨-, hhost, hfits⟩ := isSendable_detach.mp hsendable.symm
  rw [detach_addParameter, ← hurl, detach_withPath] at hfits
  obtain ⟨-, hsame⟩ := detach_scheme_host u
  have hsome : (detach u).1.host.isSome := by
    have hsent : hostIsSent u.host = true := by rwa [← hurl] at hhost
    rw [hsame]
    cases hu : u.host with
    | none => simp [hu, hostIsSent] at hsent
    | some host => rfl
  have hnone : (detach u).1.query = none := (detach_rest u).2.trans hquery
  have hfilter :=
    length_filter (u := (detach u).1.withPath (root ++ commentsPath settings key)) hnone
  have hsegment := Url.length_segment hsome (root ++ commentsPath settings key) (Text.decimal n)
  have hdigits := decimal_length hn
  have hshort : e.isTooLong (.ofNat n) = false := by
    simp only [isTooLong, hbelow n, detach_withPath, decide_eq_false_iff_not, Nat.not_lt]
    omega
  refine isOk_iff.mp ?_
  rw [deleteRequest_isOk (ofSettings_end he) (by decide) hlist, hshort]
  rfl

end Requests
end Endpoint
end Cloud
end PullDecoration
