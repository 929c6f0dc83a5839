import PullDecoration.Proofs.Cloud.Service

/-! Passes through the service refine passes against the store. Call by call the comments of the
service stay those of the store, and so do the replies, so that every run of passes leaves the same
comments and the same reports. -/
namespace PullDecoration
namespace Decoration

/-- A pass among others: when it runs, what it is to do, and what it is about. -/
structure Round where
  occasion : Occasion
  toggles : Toggles
  analysis : Analysis
  descriptor : Descriptor

def Round.pass (r : Round) : Pass Report :=
  Decoration.pass r.occasion r.toggles r.analysis r.descriptor

def rounds (rs : List Round) : Pass (List Report) := inTurn (rs.map Round.pass)

theorem orderly_rounds {s : Store} (hs : s.Numbered) (rs : List Round) :
    Store.Orderly (rounds rs) s := by
  refine Store.orderly_inTurn (fun u hu s hs => ?_) hs
  obtain ⟨r, -, rfl⟩ := List.mem_map.mp hu
  exact Store.orderly_pass hs r.occasion r.toggles r.analysis r.descriptor

end Decoration

namespace Cloud

open Http Decoration

section Refinement

variable {σ α : Type} {server : Server σ} {settings : Settings}
  {key : PullRequestKey} {e : Endpoint}
variable {root : List (List Char)} {view : σ → Store} {s : σ}

variable (he : Endpoint.ofSettings settings key = .ok e) (hroot : Endpoint.HasRoot settings root)
variable (hplain : Endpoint.IsPlain settings key)
variable (hhosts : e.Hosts server (root ++ Endpoint.commentsPath settings key) view)
include he hroot hplain hhosts

theorem perform_hosted {d : Pass α} (horderly : Store.Orderly d (view s))
    (hnumbered : (view s).Numbered)
    (hsize : (Store.provider.run d (view s)).2.lastNumber < UInt64.size) :
    ∃ pages s', view s' = (Store.provider.run d (view s)).2 ∧ ∀ limit, pages ≤ limit →
      server.run (e.perform limit d) s = (some (Store.provider.run d (view s)).1, s') := by
  induction d generalizing s with
  | done a => exact ⟨0, s, rfl, fun limit _ => rfl⟩
  | ask call next ih =>
    cases horderly with
    | ask hcall hnext =>
      rw [Partner.run_ask] at hsize
      have hbefore : (view s).lastNumber < UInt64.size :=
        Nat.lt_of_le_of_lt (Nat.le_trans (Store.lastNumber_le_answer call _)
          (Store.lastNumber_le_run _ _)) hsize
      obtain ⟨here, between, hview, hcalled⟩ :=
        Endpoint.reply_hosted he hroot hplain hhosts hcall hnumbered hbefore
      have hkept : (Store.provider.answer call (view s)).2.Numbered :=
        Store.answer_keeps (fun _ body path line hs => hs.post body path line)
          (fun _ id hs => hs.remove id) call hnumbered
      rw [← hview] at hnext hkept hsize
      obtain ⟨later, s', hleft, hperformed⟩ := ih _ hnext hkept hsize
      refine ⟨max here later, s', ?_, fun limit hlimit => ?_⟩
      · rw [hleft, Partner.run_ask, hview]
      · rw [Endpoint.perform, Partner.run_bind,
          hcalled limit (Nat.le_trans (Nat.le_max_left _ _) hlimit)]
        simp only [Partner.run_ask, ← hview]
        exact hperformed limit (Nat.le_trans (Nat.le_max_right _ _) hlimit)

end Refinement

def sampleEntry (c : Comment) : Entry :=
  ⟨.number (Text.digitsValue c.id.text.toList), some c.body, false⟩

def samplePage (s : Store) (url : Url) : Page Entry :=
  if url.query = some "page=2".toList then ⟨(s.comments.drop 1).map sampleEntry, none⟩
  else ⟨(s.comments.take 1).map sampleEntry, some "https://api.bitbucket.org/2.0/comments?page=2"⟩

def sampleRemoval (s : Store) (url : Url) : Store :=
  match url.path with
  | .segments ss =>
    { s with comments := s.comments.filter fun c => c.id.text ≠ String.ofList (ss.getLastD []) }
  | .opaque_ _ => s

def sampleService : Server Store where
  answer r s := match r.method with
    | .get => (some (sampleReply (samplePage s r.url)), s)
    | .delete => (some ⟨204, some []⟩, sampleRemoval s r.url)
    | .post => match NewComment.codec.decode r.body with
      | .ok c =>
        (some ⟨201, some []⟩, s.post c.text (c.anchor.map (·.path)) (c.anchor.bind (·.line)))
      | .error _ => (some ⟨400, some []⟩, s)

theorem sampleEntry_shows {s : Store} (hs : s.Numbered) {c : Comment} (hc : c ∈ s.comments) :
    (sampleEntry c).Shows c := by
  obtain ⟨n, -, hid⟩ := hs.bounded c hc
  refine ⟨n, hid, ?_⟩
  simp [sampleEntry, hid, CommentId.ofNat]

theorem sampleEntry_size {s : Store} (hs : s.Numbered)
    (hsize : s.lastNumber < UInt64.size) {cs : List Comment} (hcs : cs ⊆ s.comments) :
    ∀ entry ∈ cs.map sampleEntry, ∀ n, entry.id = .number n → n < UInt64.size := by
  intro entry hentry n hn
  obtain ⟨c, hc, rfl⟩ := List.mem_map.mp hentry
  obtain ⟨m, hm, hid⟩ := hs.bounded c (hcs hc)
  have hsame : m = n := by simpa [sampleEntry, hid, CommentId.ofNat] using hn
  exact hsame ▸ Nat.lt_of_le_of_lt hm hsize

theorem sampleEndpoint_pages :
    (∃ r, sampleEndpoint.listRequest .first = .ok r ∧ r.method = .get ∧
      r.url.query ≠ some "page=2".toList) ∧
      ∃ r, sampleEndpoint.listRequest (.next "https://api.bitbucket.org/2.0/comments?page=2") =
        .ok r ∧
        r.method = .get ∧ r.url.query = some "page=2".toList := by
  have hfirst : ∀ r ∈ (sampleEndpoint.listRequest .first).toOption, r.url.query ≠
      some "page=2".toList := by
    decide +kernel
  have hsecond : ∀ r ∈ (sampleEndpoint.listRequest (.next
      "https://api.bitbucket.org/2.0/comments?page=2")).toOption, r.url.query =
      some "page=2".toList := by
    decide +kernel
  obtain ⟨r, hr⟩ := sampleEndpoint_first
  obtain ⟨r', hr'⟩ := sampleEndpoint_second
  exact ⟨⟨r, hr, Endpoint.get_of_listRequest hr, hfirst r (toOption_eq_some.mpr hr)⟩,
    r', hr', Endpoint.get_of_listRequest hr', hsecond r' (toOption_eq_some.mpr hr')⟩

theorem sampleService_get {r : Request} (h : r.method = .get) (s : Store) :
    sampleService.answer r s = (some (sampleReply (samplePage s r.url)), s) := by
  simp [sampleService, h]

theorem sampleService_hosts :
    sampleEndpoint.Hosts sampleService
      ([['2', '.', '0']] ++ Endpoint.commentsPath sampleSettings ⟨"7", by decide⟩) id where
  listed s hs hsize := by
    obtain ⟨⟨r, hr, hget, hfirst⟩, r', hr', hget', hsecond⟩ := sampleEndpoint_pages
    have hpage : samplePage s r.url = ⟨(s.comments.take 1).map sampleEntry,
        some "https://api.bitbucket.org/2.0/comments?page=2"⟩ := if_neg hfirst
    have hlast : samplePage s r'.url = ⟨(s.comments.drop 1).map sampleEntry, none⟩ := if_pos hsecond
    have htake : Endpoint.IsPage (some (sampleReply (samplePage s r.url))) (samplePage s r.url) :=
      isPage_sampleReply
      (by rw [hpage]; exact sampleEntry_size hs hsize (List.take_subset 1 s.comments))
    have hdrop : Endpoint.IsPage (some (sampleReply (samplePage s r'.url))) (samplePage s r'.url) :=
      isPage_sampleReply
      (by rw [hlast]; exact sampleEntry_size hs hsize (List.drop_subset 1 s.comments))
    have hserves : sampleEndpoint.Serves sampleService .first s
        [.first, .next "https://api.bitbucket.org/2.0/comments?page=2"]
        [samplePage s r.url, samplePage s r'.url] s := by
      have hanswer := sampleService_get hget s
      have hanswer' := sampleService_get hget' s
      have hmore : sampleEndpoint.Serves sampleService
        (.next "https://api.bitbucket.org/2.0/comments?page=2") s
          [.next "https://api.bitbucket.org/2.0/comments?page=2"] [samplePage s r'.url]
          (sampleService.answer r' s).2 :=
            .last hr' (by rw [hanswer']; exact hdrop) (by simp [hlast])
      rw [hanswer'] at hmore
      refine .more hr (by rw [hanswer]; exact htake) (by rw [hpage]) (by decide) ?_
      rw [hanswer]
      exact hmore
    refine ⟨_, _, s, hserves, by decide, ?_, rfl⟩
    have hall : [samplePage s r.url, samplePage s r'.url].flatMap (·.values) =
        s.comments.map sampleEntry := by
      simp only [List.flatMap_cons, List.flatMap_nil, List.append_nil, hpage, hlast]
      rw [← List.map_append, List.take_append_drop]
    rw [hall, List.forall₂_map_left_iff]
    exact List.forall₂_same.mpr fun c hc => sampleEntry_shows hs hc
  posted s r c hmethod _ hpayload := by
    obtain ⟨v, htext, hv⟩ := hpayload
    exact ⟨⟨201, some []⟩, by simp [sampleService, hmethod, hv.decode htext], rfl,
      by simp [sampleService, hmethod, hv.decode htext]⟩
  removed s r n hmethod hat _ := by
    have hremoval : sampleRemoval s r.url = s.remove (.ofNat n) := by
      have hid (id : CommentId) : id.text = String.ofList (Text.decimal n) ↔ id = .ofNat n := by
        cases id
        simp [CommentId.ofNat]
      have hend (path : List (List Char)) : (path ++ [Text.decimal n]).getLastD [] =
        Text.decimal n := by simp
      simp only [sampleRemoval, hat.path, hend, Store.remove, ne_eq, hid]
    exact ⟨⟨204, some []⟩, by simp [sampleService, hmethod],
      rfl, by simp [sampleService, hmethod, hremoval]⟩

/-- A comment of an earlier pass, one of a reviewer, and another one of an earlier pass on a
line. -/
def sampleStore : Store :=
  ((Store.empty.post (Marker.put "old") none none).post "LGTM" none none).post (Marker.put "stale")
    (some ⟨"src/lib.rs", by decide⟩) (some 3)

def sampleRounds : List Round :=
  [⟨.earliest, .all, sampleAnalysis, samplePullRequest⟩,
    ⟨.earliest, ⟨true, false, false⟩, sampleAnalysis, samplePullRequest⟩]

end Cloud
end PullDecoration
