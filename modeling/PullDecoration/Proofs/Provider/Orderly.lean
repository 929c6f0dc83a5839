import PullDecoration.Proofs.Provider.Survival

/-! Orderly work against the store: it only deletes comments that are there, and names a line only
together with a path. Every pass is orderly, and so are passes one after the other. -/
namespace PullDecoration

def Call.Orderly (s : Store) : Call → Prop
  | .list => True
  | .create _ path line => path = none → line = none
  | .delete id => id ∈ s.comments.map (·.id)

namespace Store

variable {α β : Type} {s : Store}

/-- Every call that the work comes to against this store is orderly. -/
inductive Orderly : Pass α → Store → Prop
  | done (a : α) (s : Store) : Orderly (.done a) s
  | ask {call : Call} {next : Reply call → Pass α} {s : Store} (hcall : call.Orderly s)
      (hnext : Orderly (next (provider.answer call s).1) (provider.answer call s).2) :
      Orderly (.ask call next) s

theorem Orderly.bind {d : Pass α} {f : α → Pass β} (hd : Orderly d s)
    (hf : Orderly (f (provider.run d s).1) (provider.run d s).2) : Orderly (d.bind f) s := by
  induction hd with
  | done a s => exact hf
  | ask hcall _ ih => exact .ask hcall (ih hf)

theorem orderly_deleteAll {ids : List CommentId} (hdistinct : ids.Nodup)
    (hthere : ∀ id ∈ ids, id ∈ s.comments.map (·.id)) : Orderly (Sweep.deleteAll ids) s := by
  induction ids generalizing s with
  | nil => exact .done _ s
  | cons id ids ih =>
    obtain ⟨hid, hdistinct⟩ := List.nodup_cons.mp hdistinct
    obtain ⟨hhere, hothers⟩ := List.forall_mem_cons.mp hthere
    have hleft : ∀ other ∈ ids, other ∈ (s.remove id).comments.map (·.id) := by
      intro other hother
      obtain ⟨c, hc, rfl⟩ := List.mem_map.mp (hothers other hother)
      have hne : c.id ≠ id := fun h => hid (h ▸ hother)
      exact List.mem_map.mpr ⟨c, List.mem_filter.mpr ⟨hc, by simpa using hne⟩, rfl⟩
    exact .ask hhere ((ih hdistinct hleft).bind (.done _ _))

theorem orderly_sweep (hs : s.Numbered) : Orderly Sweep.pass s := by
  have hdistinct : s.marked.Nodup := hs.nodup.sublist (List.filter_sublist.map _)
  have hthere : ∀ id ∈ s.marked, id ∈ s.comments.map (·.id) :=
    fun id hid => (List.filter_sublist.map Comment.id).subset hid
  exact .ask trivial ((orderly_deleteAll hdistinct hthere).bind (.done _ _))

theorem orderly_perform (hs : s.Numbered) (a : Analysis) (t : Decoration.Task) :
    Orderly (Decoration.perform a t) s := by
  cases t with
  | sweep => exact (orderly_sweep hs).bind (.done _ _)
  | summary => exact .ask (fun _ => rfl) (.done _ _)
  | issue i position =>
    have hline : i.sourcePath = none → i.anchoredLine = none :=
      fun h => by simp [i.anchoredLine_eq, h]
    exact .ask hline (.done _ _)

theorem numbered_run (hs : s.Numbered) (d : Pass α) : (provider.run d s).2.Numbered :=
  (run_provider d s).numbered hs

theorem orderly_inTurn {units : List (Pass α)}
    (hunits : ∀ u ∈ units, ∀ s : Store, s.Numbered → Orderly u s) (hs : s.Numbered) :
    Orderly (Decoration.inTurn units) s := by
  induction units generalizing s with
  | nil => exact .done [] s
  | cons u units ih =>
    obtain ⟨hu, hothers⟩ := List.forall_mem_cons.mp hunits
    exact (hu s hs).bind ((ih hothers (numbered_run hs u)).bind (.done _ _))

theorem orderly_pass (hs : s.Numbered) (o : Decoration.Occasion) (toggles : Toggles) (a : Analysis)
    (d : Descriptor) : Orderly (Decoration.pass o toggles a d) s := by
  unfold Decoration.pass
  cases d.key with
  | none => exact .done _ s
  | some key =>
    have hsteps : Orderly (Decoration.steps toggles a) s := by
      rw [Decoration.steps, Decoration.plan_eq_map_perform]
      refine orderly_inTurn (fun u hu s hs => ?_) hs
      obtain ⟨t, -, rfl⟩ := List.mem_map.mp hu
      exact orderly_perform hs a t
    exact hsteps.bind (.done _ _)

theorem lastNumber_le_answer (call : Call) (s : Store) :
    s.lastNumber ≤ (provider.answer call s).2.lastNumber := by
  cases call with
  | list => exact Nat.le_refl _
  | create text path line => exact Nat.le_succ _
  | delete id => exact Nat.le_refl _

theorem lastNumber_le_run (d : Pass α) (s : Store) :
    s.lastNumber ≤ (provider.run d s).2.lastNumber := by
  induction d generalizing s with
  | done a => exact Nat.le_refl _
  | ask call next ih => exact Nat.le_trans (lastNumber_le_answer call s) (ih _ _)

end Store
end PullDecoration
