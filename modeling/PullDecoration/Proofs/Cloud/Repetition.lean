import PullDecoration.Proofs.Cloud.Clearing

/-! Comments that a listing names more than once. A sweep asks for a deletion each time that the
pages name a comment, and reports each of them; so it reports no comment twice exactly if the pages
name none twice. Pages name one twice as soon as the first of them has a link back to itself. -/
namespace PullDecoration

def Sweep.IsOnce (w : Sweep) : Prop := (w.deleted ++ w.failed.map (·.id)).Nodup

instance (w : Sweep) : Decidable w.IsOnce := inferInstanceAs (Decidable (List.Nodup _))

namespace Cloud

open Http Endpoint

variable {σ : Type} {server : Server σ} {e : Endpoint} {s : σ} {limit : Nat}

/-- Whatever pages a server sends, overlapping or in a circle, a sweep that has a result has asked
for one deletion each time that a page named a target, and has reported each of these. So it reports
every comment once exactly if the pages name it once. -/
theorem sweep_isOnce_iff {settings : Settings} {key : PullRequestKey} {result : Sweep}
    (he : Endpoint.ofSettings settings key = .ok e)
    (hrun : (server.run (e.perform limit Sweep.pass) s).1 = some (.ok result)) :
    ∃ fetches pages followed between deletions,
      Reads server e (.start s) fetches pages ⟨followed, none, between⟩ ∧ pages.length ≤ limit ∧
        let ids := Entry.decorationIds (pages.flatMap (·.values))
        Entry.Targets (pages.flatMap (·.values)) ids ∧
          server.requests (e.perform limit Sweep.pass) s = fetches ++ deletions ∧
          List.Forall₂ e.Deletes (ids.filter fun id => !e.isTooLong id) deletions ∧
          result.deleted.Sublist ids ∧ (result.failed.map (·.id)).Sublist ids ∧
          (result.deleted ++ result.failed.map (·.id)).Perm ids ∧ (result.IsOnce ↔ ids.Nodup) := by
  obtain ⟨fetches, pages, followed, between, hreads, hlimit⟩ := reads_of_sweep hrun
  obtain ⟨hsweep, hsent⟩ := sweep_of_reads hreads hlimit
  rw [hsweep] at hrun
  obtain ⟨result', hresult, hok⟩ := Option.map_eq_some_iff.mp hrun
  cases hok
  obtain ⟨hdeleted, hkept, hperm⟩ := deleteAll_split hresult
  obtain ⟨r, hr⟩ := hreads.first_sent
  have hdeletes := deleteAll_deletes he hr server limit
    (Entry.decorationIds (pages.flatMap (·.values))) between
  exact ⟨fetches, pages, followed, between, _, hreads, hlimit,
    Entry.targets_decorationIds _, hsent, hdeletes, hdeleted, hkept, hperm, hperm.nodup_iff⟩

/-- The two pages name no comment twice, and neither does what became of their comments. -/
theorem samplePages_swept_once :
    ∃ result, Endpoint.ofSettings sampleSettings ⟨"7", by decide⟩ = .ok sampleEndpoint ∧
      (sampleServer.run (sampleEndpoint.perform 2 Sweep.pass) 0).1 = some (.ok result) ∧
      result.IsOnce := by
  obtain ⟨requests, followed, hreads, -⟩ :=
    samplePages_served.reads (List.forall_mem_nil _) (by decide)
  have htwo : samplePages.length ≤ 2 := by decide
  obtain ⟨hrun, -⟩ := sweep_of_reads hreads htwo
  obtain ⟨⟨result, hresult⟩, -⟩ := deleteAll_requests sampleServer sampleEndpoint 2
    (Entry.decorationIds (samplePages.flatMap (·.values))) 2
  have hsweep : (sampleServer.run (sampleEndpoint.perform 2 Sweep.pass) 0).1 =
      some (.ok result) := by
    rw [hrun, hresult]
    rfl
  obtain ⟨_, pages, _, _, _, hreads', hlimit, -, -, -, -, -, -, honce⟩ :=
    sweep_isOnce_iff sampleEndpoint_eq hsweep
  have hsame : pages.flatMap (·.values) = samplePages.flatMap (·.values) := by
    have hentries := (entries_of_reads hreads' hlimit).1.symm.trans (entries_of_reads hreads htwo).1
    simpa using congrArg Prod.fst hentries
  rw [hsame] at honce
  exact ⟨result, sampleEndpoint_eq, hsweep, honce.mpr (by decide +kernel)⟩

/-- The page with its one comment, as long as that is there, and with a link back to the page. -/
def circlePage (present : Bool) : Page Entry :=
  ⟨if present then [⟨.number 3, some (Marker.put "stale"), false⟩] else [],
    some (sampleEndpoint.commentsUrl ++ "?page=1")⟩

def circleServer : Server Bool where
  answer r present := match r.method with
    | .get => (some (sampleReply (circlePage present)), present)
    | .post => (some ⟨201, some []⟩, present)
    | .delete => (some ⟨if present then 204 else 404, some []⟩, false)

/-- The one comment is deleted and then, since the page is read twice, reported as one that is
left. -/
theorem circle_swept_twice :
    ∃ fetches deletions result,
      circleServer.run (sampleEndpoint.perform 2 Sweep.pass) true = (some (.ok result), false) ∧
        circleServer.requests (sampleEndpoint.perform 2 Sweep.pass) true = fetches ++ deletions ∧
        List.Forall₂ sampleEndpoint.Deletes [⟨"3", by decide⟩, ⟨"3", by decide⟩] deletions ∧
        result = ⟨[⟨"3", by decide⟩], [⟨⟨"3", by decide⟩, .api 404 "Not Found"⟩]⟩ ∧
        ¬ result.IsOnce := by
  obtain ⟨r, hr⟩ := sampleEndpoint_first
  obtain ⟨r', hr'⟩ : ∃ r,
    sampleEndpoint.listRequest (.next (sampleEndpoint.commentsUrl ++ "?page=1")) = .ok r :=
    isOk_iff.mp (by decide +kernel)
  have hanswer {r : Request} {link : Link} (hr : sampleEndpoint.listRequest link = .ok r) :
      circleServer.answer r true = (some (sampleReply (circlePage true)), true) := by
    simp [circleServer, get_of_listRequest hr]
  have hpage {r : Request} {link : Link} (hr : sampleEndpoint.listRequest link = .ok r) :
      Delivers (circleServer.answer r true).1 (circlePage true) := by
    rw [hanswer hr]
    exact (isPage_sampleReply (by simp [circlePage, UInt64.size])).delivers
  have hreads : Reads circleServer sampleEndpoint (.start true) [r, r']
    [circlePage true, circlePage true]
      ⟨[sampleEndpoint.commentsUrl ++ "?page=1"], none, true⟩ := by
    have hlast : Reads circleServer sampleEndpoint ⟨[sampleEndpoint.commentsUrl ++ "?page=1"],
        some (.next (sampleEndpoint.commentsUrl ++ "?page=1")), true⟩ [r'] [circlePage true]
        ⟨[sampleEndpoint.commentsUrl ++ "?page=1"], none, (circleServer.answer r' true).2⟩ :=
      .last hr' (hpage hr') fun text htext => .inr (by simpa [circlePage, eq_comm] using htext)
    rw [hanswer hr'] at hlast
    refine .more hr (hpage hr) rfl (by decide) List.not_mem_nil ?_
    rw [hanswer hr]
    exact hlast
  obtain ⟨hrun, hsent⟩ :=
    sweep_of_reads hreads (by decide : [circlePage true, circlePage true].length ≤ 2)
  have hids : Entry.decorationIds ([circlePage true, circlePage true].flatMap (·.values)) =
      [⟨"3", by decide⟩, ⟨"3", by decide⟩] := by decide +kernel
  have hdeleted : circleServer.run
      (sampleEndpoint.perform 2 (Sweep.deleteAll [⟨"3", by decide⟩, ⟨"3", by decide⟩])) true =
        (some ⟨[⟨"3", by decide⟩], [⟨⟨"3", by decide⟩, .api 404 "Not Found"⟩]⟩, false) := by
          decide +kernel
  have hshort : ([⟨"3", by decide⟩, ⟨"3", by decide⟩] : List CommentId).filter
      (fun id => !sampleEndpoint.isTooLong id) =
        [⟨"3", by decide⟩, ⟨"3", by decide⟩] := by decide +kernel
  rw [hids] at hrun hsent
  rw [hdeleted] at hrun
  exact ⟨_, _, _, hrun, hsent,
    hshort ▸ deleteAll_deletes sampleEndpoint_eq hr circleServer 2 _ true, rfl, by decide +kernel⟩

end Cloud
end PullDecoration
