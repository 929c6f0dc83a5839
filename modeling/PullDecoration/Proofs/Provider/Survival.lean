import PullDecoration.Proofs.Decoration.Convergence

/-! The comments that no pass removes. They are those without the mark's token anywhere in the body;
that a body does not begin with the mark is not enough, since a comment that quotes one holds the
token as well. -/
namespace PullDecoration
namespace Store

variable {α β : Type} {s s' : Store}

def unmarked (s : Store) : List Comment := s.comments.filter fun c => !Marker.isIn c.body

theorem mem_unmarked {c : Comment} :
    c ∈ s.unmarked ↔ c ∈ s.comments ∧ Marker.isIn c.body = false := by
  simp [unmarked]

theorem unmarked_sublist_post (s : Store) (body : String) (path : Option SourcePath)
    (line : Option UInt32) : s.unmarked.Sublist (s.post body path line).unmarked :=
  (List.sublist_append_left _ _).filter _

theorem Numbered.unmarked_notMem_marked (hs : s.Numbered) {c : Comment} (hc : c ∈ s.unmarked) :
    c.id ∉ s.marked := by
  obtain ⟨hmem, hmark⟩ := mem_unmarked.mp hc
  rw [mem_marked hs.nodup hmem, hmark]
  exact Bool.false_ne_true

theorem sublist_remove {kept : List Comment} {id : CommentId} (hid : ∀ c ∈ kept, c.id ≠ id)
    (h : kept.Sublist s.comments) : kept.Sublist (s.remove id).comments := by
  have hfilter : kept.filter (·.id ≠ id) = kept := by
    simpa [List.filter_eq_self] using hid
  rw [← hfilter]
  exact h.filter _

theorem Run.bind_inv {d : Pass α} {f : α → Pass β} {b : β} (h : Run (d.bind f) s b s') :
    ∃ a between, Run d s a between ∧ Run (f a) between b s' := by
  induction d generalizing s with
  | done a => exact ⟨a, s, .done a s, h⟩
  | ask call next ih =>
    cases h with
    | answered h =>
      obtain ⟨a, between, hd, hf⟩ := ih _ h
      exact ⟨a, between, .answered hd, hf⟩
    | failed e h =>
      obtain ⟨a, between, hd, hf⟩ := ih _ h
      exact ⟨a, between, .failed e hd, hf⟩

theorem Run.numbered {d : Pass α} {a : α} (h : Run d s a s') (hs : s.Numbered) : s'.Numbered :=
  h.keeps (fun _ body path line hs => hs.post body path line) (fun _ id hs => hs.remove id) hs

theorem Run.deleteAll_keeps {kept : List Comment} {ids : List CommentId} {result : Sweep}
    (h : Run (Sweep.deleteAll ids) s result s') (hids : ∀ c ∈ kept, c.id ∉ ids)
    (hkept : kept.Sublist s.comments) : kept.Sublist s'.comments := by
  induction ids generalizing s s' result with
  | nil =>
    cases h
    exact hkept
  | cons id ids ih =>
    have hrest : ∀ c ∈ kept, c.id ∉ ids := fun c hc hmem => hids c hc (List.mem_cons_of_mem _ hmem)
    cases h with
    | answered h =>
      obtain ⟨result, between, hall, hlast⟩ := h.bind_inv
      cases hlast
      exact ih hall hrest
        (sublist_remove (fun c hc heq => hids c hc (heq ▸ List.mem_cons_self)) hkept)
    | failed e h =>
      obtain ⟨result, between, hall, hlast⟩ := h.bind_inv
      cases hlast
      exact ih hall hrest hkept

/-- Work that leaves unmarked comments alone, whichever of its calls fail. -/
def Careful (d : Pass α) : Prop :=
  ∀ ⦃s s' : Store⦄ ⦃a : α⦄, s.Numbered → Run d s a s' → s.unmarked.Sublist s'.unmarked

namespace Careful

theorem done (a : α) : Careful (.done a) := by
  intro s s' b _ h
  cases h
  exact List.Sublist.refl _

theorem bind {d : Pass α} {f : α → Pass β} (hd : Careful d) (hf : ∀ a, Careful (f a)) :
    Careful (d.bind f) := by
  intro s s' b hs h
  obtain ⟨a, between, hfirst, hrest⟩ := h.bind_inv
  exact (hd hs hfirst).trans (hf a (hfirst.numbered hs) hrest)

theorem create {text : String} {path : Option SourcePath} {line : Option UInt32}
    {next : Reply (.create text path line) → Pass α} (hnext : ∀ reply, Careful (next reply)) :
    Careful (.ask (.create text path line) next) := by
  intro s s' a hs h
  cases h with
  | answered h => exact (s.unmarked_sublist_post text path line).trans (hnext _ (hs.post ..) h)
  | failed e h => exact hnext _ hs h

theorem sweep : Careful Sweep.pass := by
  intro s s' result hs h
  cases h with
  | failed e h => exact done _ hs h
  | answered h =>
    obtain ⟨deleted, between, hall, hlast⟩ := h.bind_inv
    cases hlast
    have hkept : s.unmarked.Sublist s'.comments :=
      hall.deleteAll_keeps (fun c hc => hs.unmarked_notMem_marked hc) List.filter_sublist
    have hfilter : s.unmarked.filter (fun c => !Marker.isIn c.body) = s.unmarked := by
      rw [unmarked, List.filter_filter]
      simp
    rw [← hfilter]
    exact hkept.filter _

theorem inTurn {units : List (Pass α)} (hunits : ∀ u ∈ units, Careful u) :
    Careful (Decoration.inTurn units) := by
  induction units with
  | nil => exact done []
  | cons u units ih =>
    have hrest := ih fun v hv => hunits v (List.mem_cons_of_mem _ hv)
    exact (hunits u List.mem_cons_self).bind fun a => hrest.bind fun as => done (a :: as)

theorem perform (a : Analysis) (t : Decoration.Task) : Careful (Decoration.perform a t) := by
  cases t with
  | sweep => exact sweep.bind fun result => done _
  | summary => exact create fun reply => done _
  | issue i position => exact create fun reply => done _

theorem pass (o : Decoration.Occasion) (toggles : Toggles) (a : Analysis) (d : Descriptor) :
    Careful (Decoration.pass o toggles a d) := by
  unfold Decoration.pass
  cases d.key with
  | none => exact done _
  | some key =>
    have hsteps : Careful (Decoration.steps toggles a) := by
      rw [Decoration.steps, Decoration.plan_eq_map_perform]
      refine inTurn fun u hu => ?_
      obtain ⟨t, -, rfl⟩ := List.mem_map.mp hu
      exact perform a t
    exact hsteps.bind fun steps => done _

end Careful

theorem History.unmarked_sublist (h : History s s') (hs : s.Numbered) :
    s.unmarked.Sublist s'.unmarked := by
  induction h with
  | start => exact List.Sublist.refl _
  | seed _ body path line ih => exact ih.trans (unmarked_sublist_post _ body path line)
  | pass hbefore hrun ih => exact ih.trans (Careful.pass _ _ _ _ (hbefore.numbered hs) hrun)
  | sweep hbefore hrun ih => exact ih.trans (Careful.sweep (hbefore.numbered hs) hrun)

/-- Every comment that does not begin with the mark stays, whatever becomes of the store. -/
def OnlyOwnRemoved (s : Store) : Prop :=
  ∀ s', History s s' → ∀ c ∈ s.comments, ¬ Marker.link.toList <+: c.body.toList → c ∈ s'.comments

def quotation : Store :=
  Store.empty.post "> [](https://[PR-DECORATION])\nWhy is this still open?" none none

theorem quotation_removed : History .empty quotation ∧ ¬ OnlyOwnRemoved quotation := by
  refine ⟨History.start.seed _ none none, fun hown => ?_⟩
  have hsweep : History quotation (provider.run Sweep.pass quotation).2 :=
    History.start.sweep (run_provider _ _)
  have hkept := hown _ hsweep
    ⟨.ofNat 1, "> [](https://[PR-DECORATION])\nWhy is this still open?", none, none⟩
    (by simp [quotation, Store.post, empty]) (by decide +kernel)
  revert hkept
  decide +kernel

/-- The comments without the token stay, in their order, through every later history of a store; and
every other one is removed by the next sweep that goes through, whether it begins with the mark or
not. -/
theorem unmarked_survive (hs : History .empty s) (h : History s s') :
    (s.comments.filter fun c => !Marker.isIn c.body).Sublist s'.comments ∧
      (∀ c ∈ s.comments, Marker.isIn c.body = false → c ∈ s'.comments) ∧
      (provider.run Sweep.pass s').2.comments = s'.comments.filter fun c =>
        !Marker.isIn c.body := by
  have hnumbered : s.Numbered := hs.numbered empty_numbered
  have hsublist : s.unmarked.Sublist s'.comments :=
    (h.unmarked_sublist hnumbered).trans List.filter_sublist
  refine ⟨hsublist, fun c hc hmark => ?_, ?_⟩
  · exact hsublist.subset (mem_unmarked.mpr ⟨hc, hmark⟩)
  · rw [run_sweep (h.numbered hnumbered)]
    rfl

theorem approval_survives :
    let s := (Store.empty.post "LGTM" none none).post (Marker.put "old") none none
    let failures : Failures := ⟨none, [("2", .api 403 "no")], []⟩
    let s' := ((provider.interrupted fun call _ => failures.failure? call).run
      (Decoration.pass .earliest .all Decoration.sampleAnalysis Decoration.samplePullRequest) s).2
    History .empty s ∧ History s s' ∧ s'.comments.length = 5 ∧
      (⟨.ofNat 1, "LGTM", none, none⟩ : Comment) ∈ s'.comments := by
  intro s failures s'
  have hs : History .empty s :=
    (History.start.seed "LGTM" none none).seed (Marker.put "old") none none
  have h : History s s' := History.start.pass (run_interrupted _ _ _)
  refine ⟨hs, h, by decide +kernel, (unmarked_survive hs h).2.1 _ ?_ (by decide +kernel)⟩
  simp [s, Store.post, empty]

end Store
end PullDecoration
