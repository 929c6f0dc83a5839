import PullDecoration.Proofs.Provider.History

/-! Sweeps of a store some of whose calls are refused. The sweep goes through the listing once: what
is not refused is gone and what is refused stays, so that the two lists of its result part the
marked comments as the refusals do, and nothing else in the store changes. -/
namespace PullDecoration
namespace Store

variable {s s' : Store}

def refusing (refusal : Call → Option ProviderError) : Provider Store :=
  provider.interrupted fun call _ => refusal call

theorem refusing_none : refusing (fun _ => none) = provider := rfl

def without (s : Store) (ids : List CommentId) : Store :=
  { s with comments := s.comments.filter fun c => c.id ∉ ids }

@[simp] theorem without_nil (s : Store) : s.without [] = s := by
  simp [without]

theorem without_cons (s : Store) (id : CommentId) (ids : List CommentId) :
    s.without (id :: ids) = (s.remove id).without ids := by
  have hfilter : (fun c : Comment => decide (c.id ∉ id :: ids)) =
      fun c => decide (c.id ∉ ids) && decide (c.id ≠ id) := by
    funext c
    simp [Bool.and_comm]
  simp only [without, remove, List.filter_filter, hfilter]

end Store

namespace Sweep

variable {refusal : Call → Option ProviderError} {ids : List CommentId}

def parted (refusal : Call → Option ProviderError) (ids : List CommentId) : Sweep where
  deleted := ids.filter fun id => refusal (.delete id) = .none
  failed := ids.filterMap fun id => (refusal (.delete id)).map (⟨id, ·⟩)

theorem parted_cons_of_none {id : CommentId} (h : refusal (.delete id) = .none) :
    parted refusal (id :: ids) = (parted refusal ids).note id (.ok ()) := by
  simp [parted, note, h]

theorem parted_cons_of_some {id : CommentId} {e : ProviderError}
    (h : refusal (.delete id) = some e) :
    parted refusal (id :: ids) = (parted refusal ids).note id (.error e) := by
  simp [parted, note, h]

theorem parted_of_none (h : ∀ id, refusal (.delete id) = .none) :
    parted refusal ids = ⟨ids, []⟩ := by
  simp [parted, h]

theorem parted_failed_ids (refusal : Call → Option ProviderError) (ids : List CommentId) :
    (parted refusal ids).failed.map (·.id) = ids.filter fun id =>
      (refusal (.delete id)).isSome := by
  induction ids with
  | nil => rfl
  | cons id ids ih =>
    cases h : refusal (.delete id) with
    | none => simpa [parted_cons_of_none h, note, h] using ih
    | some e => simpa [parted_cons_of_some h, note, h] using ih

theorem mem_parted_deleted {id : CommentId} :
    id ∈ (parted refusal ids).deleted ↔ id ∈ ids ∧ refusal (.delete id) = .none := by
  simp [parted]

theorem mem_parted_failed {f : FailedDeletion} :
    f ∈ (parted refusal ids).failed ↔ f.id ∈ ids ∧ refusal (.delete f.id) = some f.error := by
  obtain ⟨id, error⟩ := f
  simp [parted]

theorem parted_perm (refusal : Call → Option ProviderError) (ids : List CommentId) :
    ((parted refusal ids).deleted ++ (parted refusal ids).failed.map (·.id)).Perm ids := by
  have hfailed : (fun id => (refusal (.delete id)).isSome) =
      fun id => !decide (refusal (.delete id) = .none) := by
    funext id
    cases refusal (.delete id) <;> rfl
  rw [parted_failed_ids, hfailed]
  exact List.filter_append_perm _ ids

end Sweep

namespace Store

variable {s s' : Store} {refusal : Call → Option ProviderError}

theorem run_deleteAll (refusal : Call → Option ProviderError) (ids : List CommentId) (s : Store) :
    (refusing refusal).run (Sweep.deleteAll ids) s =
      (Sweep.parted refusal ids, s.without (Sweep.parted refusal ids).deleted) := by
  induction ids generalizing s with
  | nil => simp [Sweep.deleteAll, Sweep.parted, Sweep.none]
  | cons id ids ih =>
    cases h : refusal (.delete id) with
    | none =>
      have hanswer : (refusing refusal).answer (.delete id) s = (.ok (), s.remove id) := by
        simp [refusing, Provider.interrupted, h, provider]
      simp only [Sweep.deleteAll, Partner.run, Partner.run_bind, hanswer, ih,
        Sweep.parted_cons_of_none h, Sweep.note, without_cons]
    | some e =>
      have hanswer : (refusing refusal).answer (.delete id) s = (.error e, s) := by
        simp [refusing, Provider.interrupted, h]
      simp only [Sweep.deleteAll, Partner.run, Partner.run_bind, hanswer, ih,
        Sweep.parted_cons_of_some h, Sweep.note]

theorem run_sweep_of_unlisted {e : ProviderError} (h : refusal .list = some e) (s : Store) :
    (refusing refusal).run Sweep.pass s = (.error e, s) := by
  have hanswer : (refusing refusal).answer .list s = (.error e, s) := by
    simp [refusing, Provider.interrupted, h]
  simp only [Sweep.pass, Partner.run, hanswer]

theorem run_sweep_of_listed (h : refusal .list = none) (s : Store) :
    (refusing refusal).run Sweep.pass s =
      (.ok (Sweep.parted refusal s.marked), s.without (Sweep.parted refusal s.marked).deleted) := by
  have hanswer : (refusing refusal).answer .list s = (.ok s.marked, s) := by
    simp [refusing, Provider.interrupted, h, provider]
  simp only [Sweep.pass, Partner.run, Partner.run_bind, hanswer, run_deleteAll]

/-- Since no two comments share a number, the listed numbers are those of marked comments only. -/
theorem mem_marked (hs : (s.comments.map (·.id)).Nodup) {c : Comment} (hc : c ∈ s.comments) :
    c.id ∈ s.marked ↔ Marker.isIn c.body = true := by
  constructor
  · intro h
    obtain ⟨c', hc', hid⟩ := List.mem_map.mp h
    obtain ⟨hmem, hmark⟩ := List.mem_filter.mp hc'
    have heq : c' = c := List.inj_on_of_nodup_map hs hmem hc hid
    rw [← heq]
    exact hmark
  · intro h
    exact List.mem_map.mpr ⟨c, List.mem_filter.mpr ⟨hc, h⟩, rfl⟩

theorem marked_nodup (hs : (s.comments.map (·.id)).Nodup) : s.marked.Nodup :=
  hs.sublist (List.filter_sublist.map _)

theorem marked_without_deleted (hs : (s.comments.map (·.id)).Nodup) :
    (s.without (Sweep.parted refusal s.marked).deleted).marked =
      (Sweep.parted refusal s.marked).failed.map (·.id) := by
  rw [Sweep.parted_failed_ids]
  simp only [marked, without, List.filter_map, List.filter_filter]
  congr 1
  apply List.filter_congr
  intro c hc
  have hmem := mem_marked hs hc
  rw [marked] at hmem
  cases hmark : Marker.isIn c.body with
  | false => simp
  | true =>
    rw [hmark] at hmem
    cases hrefusal : refusal (.delete c.id) <;> simp [Sweep.mem_parted_deleted, hmem, hrefusal]

theorem unmarked_without_deleted (hs : (s.comments.map (·.id)).Nodup) :
    ((s.without (Sweep.parted refusal s.marked).deleted).comments.filter fun c =>
      !Marker.isIn c.body) =
      s.comments.filter fun c => !Marker.isIn c.body := by
  rw [without, List.filter_filter]
  apply List.filter_congr
  intro c hc
  cases hmark : Marker.isIn c.body with
  | false => simp [Sweep.mem_parted_deleted, mem_marked hs hc, hmark]
  | true => simp

/-- What a sweep returns for a store under these refusals, and the store that it leaves. -/
structure Swept (refusal : Call → Option ProviderError) (s : Store) (result : Sweep)
    (s' : Store) : Prop where
  together : (result.deleted ++ result.failed.map (·.id)).Perm s.marked
  once : (result.deleted ++ result.failed.map (·.id)).Nodup
  deleted_inOrder : result.deleted.Sublist s.marked
  failed_inOrder : (result.failed.map (·.id)).Sublist s.marked
  mem_failed : ∀ f, f ∈ result.failed ↔ f.id ∈ s.marked ∧ refusal (.delete f.id) = some f.error
  left : s' = s.without result.deleted
  marked_left : s'.marked = result.failed.map (·.id)
  unmarked_left : (s'.comments.filter fun c => !Marker.isIn c.body) =
    s.comments.filter fun c => !Marker.isIn c.body

theorem swept_parted (hs : (s.comments.map (·.id)).Nodup) :
    Swept refusal s (Sweep.parted refusal s.marked)
    (s.without (Sweep.parted refusal s.marked).deleted) where
  together := Sweep.parted_perm refusal s.marked
  once := (Sweep.parted_perm refusal s.marked).nodup_iff.mpr (marked_nodup hs)
  deleted_inOrder := List.filter_sublist
  failed_inOrder := by
    rw [Sweep.parted_failed_ids]
    exact List.filter_sublist
  mem_failed _ := Sweep.mem_parted_failed
  left := rfl
  marked_left := marked_without_deleted hs
  unmarked_left := unmarked_without_deleted hs

/-- Whichever calls are refused: without a listing the sweep returns the error of the listing and
the store stays as it is, and with one it returns every marked comment once, deleted or failed as
its deletion is refused or not, and leaves the marked comments that failed among the others. -/
theorem sweep_exact (hs : (s.comments.map (·.id)).Nodup) (refusal : Call → Option ProviderError) :
    (∀ e, refusal .list = some e → (refusing refusal).run Sweep.pass s = (.error e, s)) ∧
      (refusal .list = none → ∃ result s',
        (refusing refusal).run Sweep.pass s = (.ok result, s') ∧ Swept refusal s result s' ∧
          (result.failed = [] → s'.marked = [])) := by
  refine ⟨fun e hlist => run_sweep_of_unlisted hlist s, fun hlist => ?_⟩
  have hswept : Swept refusal s _ _ := swept_parted hs
  refine ⟨_, _, run_sweep_of_listed hlist s, hswept, fun hfailed => ?_⟩
  rw [hswept.marked_left, hfailed, List.map_nil]

def litteredStore : Store :=
  (((Store.empty.post (Marker.put "a") none none).post "LGTM" none none).post
    (Marker.put "b") none none).post
    (Marker.put "c") none none

def thirdRefused : Call → Option ProviderError :=
  (Failures.mk none [("3", .api 403 "forbidden")] []).failure?

theorem litteredStore_swept :
    (litteredStore.comments.map (·.id)).Nodup ∧ thirdRefused .list = none ∧
      ∃ result s', (refusing thirdRefused).run Sweep.pass litteredStore = (.ok result, s') ∧
        Swept thirdRefused litteredStore result s' ∧
        result = ⟨[.ofNat 1, .ofNat 4], [⟨.ofNat 3, .api 403 "forbidden"⟩]⟩ ∧
        s'.marked = [.ofNat 3] := by
  have hs : (litteredStore.comments.map (·.id)).Nodup := by decide +kernel
  have hlist : thirdRefused .list = none := rfl
  obtain ⟨result, s', hrun, hswept, -⟩ := (sweep_exact hs thirdRefused).2 hlist
  have hresult : Except.ok result =
    ((refusing thirdRefused).run Sweep.pass litteredStore).1 := by rw [hrun]
  have hparted : ((refusing thirdRefused).run Sweep.pass litteredStore).1 =
      .ok ⟨[.ofNat 1, .ofNat 4], [⟨.ofNat 3, .api 403 "forbidden"⟩]⟩ := by
    rw [run_sweep_of_listed hlist]
    exact congrArg Except.ok (by decide +kernel)
  obtain rfl : result = ⟨[.ofNat 1, .ofNat 4], [⟨.ofNat 3, .api 403 "forbidden"⟩]⟩ :=
    Except.ok.inj (hresult.trans hparted)
  exact ⟨hs, hlist, _, s', hrun, hswept, rfl, hswept.marked_left⟩

end Store
end PullDecoration
