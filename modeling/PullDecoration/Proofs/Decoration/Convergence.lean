import PullDecoration.Proofs.Decoration.Schedule
import PullDecoration.Proofs.Provider.Marker
import PullDecoration.Proofs.Provider.Removal

/-! Passes against the store in memory. A full pass without failures leaves the comments of others
and then exactly the comments of its own analysis, whatever earlier passes left behind; so a second
one changes nothing but the numbers. -/
namespace PullDecoration

abbrev Content : Type := String × Option SourcePath × Option UInt32

/-- What a full pass posts: the summary, and a comment on each open issue. A line needs a path. -/
def Analysis.contents (a : Analysis) : List Content :=
  (Marker.put a.summary, none, none) :: a.openIssues.map fun i =>
    (Marker.put i.text, i.sourcePath, if i.sourcePath.isSome then i.line else none)

theorem Issue.anchoredLine_eq (i : Issue) :
    i.anchoredLine = if i.sourcePath.isSome then i.line else none := by
  unfold anchoredLine
  cases i.sourcePath <;> rfl

namespace Store

variable {s : Store}

def cleared (s : Store) : Store :=
  { s with comments := s.comments.filter fun c => !Marker.isIn c.body }

def newComments (last : Nat) : List Content → List Comment
  | [] => []
  | c :: cs => ⟨.ofNat (last + 1), c.1, c.2.1, c.2.2⟩ :: newComments (last + 1) cs

def postAll (s : Store) (cs : List Content) : Store :=
  ⟨s.comments ++ newComments s.lastNumber cs, s.lastNumber + cs.length⟩

@[simp] theorem newComments_content (last : Nat) (cs : List Content) :
    (newComments last cs).map Comment.content = cs := by
  induction cs generalizing last with
  | nil => rfl
  | cons c cs ih => simp [newComments, Comment.content, ih]

theorem postAll_nil (s : Store) : s.postAll [] = s := by
  simp [postAll, newComments]

theorem postAll_cons (s : Store) (c : Content) (cs : List Content) :
    s.postAll (c :: cs) = (s.post c.1 c.2.1 c.2.2).postAll cs := by
  simp [postAll, post, newComments]
  omega

theorem without_marked (hs : s.Numbered) : s.without s.marked = s.cleared := by
  have hfilter : s.comments.filter (fun c => c.id ∉ s.marked) =
      s.comments.filter fun c => !Marker.isIn c.body := by
    apply List.filter_congr
    intro c hc
    cases hmark : Marker.isIn c.body <;> simp [mem_marked hs.nodup hc, hmark]
  rw [without, hfilter, cleared]

theorem run_sweep (hs : s.Numbered) :
    provider.run Sweep.pass s = (.ok ⟨s.marked, []⟩, s.cleared) := by
  have hrun := @run_sweep_of_listed (fun _ => none) rfl s
  rwa [refusing_none, Sweep.parted_of_none fun _ => rfl, without_marked hs] at hrun

end Store

namespace Decoration

open Store

theorem run_inTurn_state {σ α : Type} (p : Provider σ) (units : List (Pass α)) (s : σ) :
    (p.run (inTurn units) s).2 = units.foldl (fun s u => (p.run u s).2) s := by
  induction units generalizing s with
  | nil => rfl
  | cons u units ih => simp [inTurn, Partner.run_bind, ih]

theorem run_issueSteps (positions : List (Issue × Nat)) (s : Store) :
    (positions.map fun p => issueStep p.1 p.2).foldl (fun s u => (provider.run u s).2) s =
      s.postAll
        (positions.map fun p => (Marker.put p.1.text, p.1.sourcePath, p.1.anchoredLine)) := by
  induction positions generalizing s with
  | nil => exact s.postAll_nil.symm
  | cons p positions ih =>
    rw [List.map_cons, List.foldl_cons, List.map_cons, postAll_cons, ih]
    rfl

/-- A full pass clears the store of marked comments and posts those of the analysis. -/
theorem run_pass {s : Store} (hs : s.Numbered) (o : Occasion) (a : Analysis) {d : Descriptor}
    (hd : d.type = .pullRequest) :
    (provider.run (pass o .all a d) s).2 = s.cleared.postAll a.contents := by
  obtain ⟨key, hkey⟩ := Option.isSome_iff_exists.mp (d.key_iff.mpr hd)
  have hplan : plan .all a = clearStep :: summaryStep a ::
      a.openPositions.map fun p => issueStep p.1 p.2 := rfl
  have hclear : (provider.run clearStep s).2 = s.cleared := by
    simp [clearStep, Partner.run_bind, run_sweep hs]
  have hsummary (s : Store) :
      (provider.run (summaryStep a) s).2 = s.post (Marker.put a.summary) none none := rfl
  have hcontents : a.contents = (Marker.put a.summary, none, none) :: a.openPositions.map fun p =>
      (Marker.put p.1.text, p.1.sourcePath, p.1.anchoredLine) := by
    simp only [Analysis.contents, ← a.openPositions_map_fst, List.map_map, ← Issue.anchoredLine_eq]
    rfl
  simp only [pass, hkey, steps, Partner.run_bind, Partner.run_done, run_inTurn_state, hplan,
    List.foldl_cons, hclear, hsummary, run_issueSteps, hcontents, postAll_cons]

theorem contents_marked {a : Analysis} {c : Content} (hc : c ∈ a.contents) :
    Marker.isIn c.1 = true := by
  rcases List.mem_cons.mp hc with rfl | hc
  · exact Marker.isIn_put _
  · obtain ⟨i, -, rfl⟩ := List.mem_map.mp hc
    exact Marker.isIn_put _

theorem run_pass_contents {s : Store} (hs : s.Numbered) (o : Occasion) (a : Analysis)
    {d : Descriptor} (hd : d.type = .pullRequest) :
    (provider.run (pass o .all a d) s).2.comments.map Comment.content =
      ((s.comments.map Comment.content).filter fun c => !Marker.isIn c.1) ++ a.contents := by
  rw [run_pass hs o a hd, postAll, List.map_append, newComments_content, cleared, List.filter_map]
  rfl

theorem run_pass_numbered {s : Store} (hs : s.Numbered) (o : Occasion) (a : Analysis)
    (d : Descriptor) : (provider.run (pass o .all a d) s).2.Numbered :=
  (History.start.pass (run_provider _ s)).numbered hs

/-- Full passes of one analysis change nothing that readers see once nothing is left to clear. -/
theorem repeated_contents (a : Analysis) (again : List (Occasion × Descriptor))
    (hagain : ∀ x ∈ again, x.2.type = .pullRequest) {s : Store} (hs : s.Numbered)
    (hsettled : ((s.comments.map Comment.content).filter fun c => !Marker.isIn c.1) ++ a.contents =
      s.comments.map Comment.content) :
    (again.foldl (fun s x => (provider.run (pass x.1 .all a x.2) s).2) s).comments.map
      Comment.content = s.comments.map Comment.content := by
  induction again generalizing s with
  | nil => rfl
  | cons x again ih =>
    have hnext := run_pass_contents hs x.1 a (hagain x List.mem_cons_self)
    rw [hsettled] at hnext
    have h := ih (fun y hy => hagain y (List.mem_cons_of_mem _ hy)) (run_pass_numbered hs x.1 a x.2)
      (by rw [hnext]; exact hsettled)
    exact h.trans hnext

/-- Among the comments of an analysis there is one summary, and none of another analysis. -/
theorem contents_countP_summary (a b : Analysis) :
    a.contents.countP (fun c => c.1 = Marker.put b.summary) =
      if b.summary = a.summary then 1 else 0 := by
  have hissues : (a.openIssues.map fun i : Issue => ((Marker.put i.text, i.sourcePath,
      if i.sourcePath.isSome then i.line else none) : Content)).countP
        (fun c => c.1 = Marker.put b.summary) = 0 := by
    rw [List.countP_eq_zero]
    intro c hc
    obtain ⟨i, -, rfl⟩ := List.mem_map.mp hc
    simp [Marker.put_inj, i.text_ne_summary b]
  rw [Analysis.contents, List.countP_cons, hissues]
  simp [Marker.put_inj, eq_comm]

/-- Whatever happened to a store since it was empty, a full pass without failures leaves the
unmarked comments as they were, then the summary, then the comments on the open issues. Passes of
the same analysis after it leave the same to be read, and of all summaries only that of the analysis
is there. -/
theorem pass_converges {s : Store} (hs : History .empty s) (o : Occasion) (a : Analysis)
    {d : Descriptor} (hd : d.type = .pullRequest) :
    let s' := (provider.run (pass o .all a d) s).2
    (∃ posted, s'.comments = (s.comments.filter fun c => !Marker.isIn c.body) ++ posted ∧
        posted.map Comment.content = a.contents) ∧
      (∀ again : List (Occasion × Descriptor), (∀ x ∈ again, x.2.type = .pullRequest) →
        (again.foldl (fun s x => (provider.run (pass x.1 .all a x.2) s).2) s').comments.map
          Comment.content = s'.comments.map Comment.content) ∧
      ∀ b : Analysis, s'.comments.countP (fun c => c.body = Marker.put b.summary) =
        if b.summary = a.summary then 1 else 0 := by
  intro s'
  have hnumbered : s.Numbered := hs.numbered empty_numbered
  have hrun : s' = s.cleared.postAll a.contents := run_pass hnumbered o a hd
  have hcomments : s'.comments = (s.comments.filter fun c => !Marker.isIn c.body) ++
      newComments s.lastNumber a.contents := by
    rw [hrun, postAll, cleared]
  have hcontents := run_pass_contents hnumbered o a hd
  refine ⟨⟨_, hcomments, newComments_content _ _⟩, ?_, ?_⟩
  · intro again hagain
    apply repeated_contents a again hagain (run_pass_numbered hnumbered o a d)
    have hmarked : a.contents.filter (fun c => !Marker.isIn c.1) = [] := by
      rw [List.filter_eq_nil_iff]
      intro c hc
      simp [contents_marked hc]
    rw [hcontents, List.filter_append, hmarked, List.append_nil, List.filter_filter]
    simp
  · intro b
    have hkept : ((s.comments.map Comment.content).filter fun c => !Marker.isIn c.1).countP
        (fun c => c.1 = Marker.put b.summary) = 0 := by
      rw [List.countP_eq_zero]
      intro c hc heq
      have hmark := (List.mem_filter.mp hc).2
      rw [of_decide_eq_true heq, Marker.isIn_put] at hmark
      cases hmark
    have hbodies : s'.comments.countP (fun c => c.body = Marker.put b.summary) =
        (s'.comments.map Comment.content).countP fun c => c.1 = Marker.put b.summary := by
      rw [List.countP_map]
      rfl
    rw [hbodies, hcontents, List.countP_append, hkept, Nat.zero_add, contents_countP_summary]

/-- A store with a comment of somebody else and with what a pass left whose last comment was
refused. -/
def interruptedStore : Store :=
  let failures : Failures := ⟨none, [], [("second", .api 500 "later")]⟩
  ((provider.interrupted fun call _ => failures.failure? call).run
    (pass .earliest .all sampleAnalysis samplePullRequest) (Store.empty.post "LGTM" none none)).2

theorem interruptedStore_converges :
    History .empty interruptedStore ∧ samplePullRequest.type = .pullRequest ∧
      interruptedStore.comments.length = 3 ∧
      (provider.run (pass .earliest .all sampleAnalysis samplePullRequest)
        interruptedStore).2.comments.map Comment.content =
          ("LGTM", none, none) :: sampleAnalysis.contents := by
  have hs : History .empty interruptedStore :=
    (History.start.seed "LGTM" none none).pass (run_interrupted _ _ _)
  obtain ⟨⟨posted, hcomments, hposted⟩, -, -⟩ :=
    pass_converges hs .earliest sampleAnalysis (d := samplePullRequest) rfl
  have hkept : (interruptedStore.comments.filter fun c => !Marker.isIn c.body) =
      [⟨.ofNat 1, "LGTM", none, none⟩] := by decide +kernel
  refine ⟨hs, rfl, by decide +kernel, ?_⟩
  rw [hcomments, hkept, List.map_append, hposted]
  rfl

end Decoration
end PullDecoration
