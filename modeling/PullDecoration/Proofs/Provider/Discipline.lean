import PullDecoration.Proofs.Decoration.Schedule

/-! The order that a pass keeps to: it lists at most before it deletes, deletes only what it has
listed, and once it has posted a comment does nothing but post. It keeps to this order whatever is
replied, so that the calls of others in between make no difference. -/
namespace PullDecoration

variable {α : Type} {P Q : CommentId → Prop}

def Call.IsPosting : Call → Prop
  | .create .. => True
  | .list | .delete _ => False

/-- Work that lists and deletes first, and then only posts. It deletes what `P` holds of, and what
it has listed itself. -/
inductive Pass.Clears {α : Type} : (CommentId → Prop) → Pass α → Prop
  | posts {P : CommentId → Prop} {d : Pass α} (h : d.Puts Call.IsPosting) : Clears P d
  | list {P : CommentId → Prop} {next : Reply .list → Pass α}
      (hnext : ∀ reply, Clears (fun id => P id ∨ id ∈ Decoration.listed reply) (next reply)) :
      Clears P (.ask .list next)
  | delete {P : CommentId → Prop} {id : CommentId} {next : Reply (.delete id) → Pass α} (hid : P id)
      (hnext : ∀ reply, Clears P (next reply)) : Clears P (.ask (.delete id) next)

namespace Pass.Clears

theorem mono {d : Pass α} (h : Pass.Clears P d) (hPQ : ∀ id, P id → Q id) : Pass.Clears Q d := by
  induction h generalizing Q with
  | posts h => exact .posts h
  | list _ ih =>
    refine .list fun reply => ih reply ?_
    rintro id (hid | hid)
    · exact .inl (hPQ id hid)
    · exact .inr hid
  | delete hid _ ih => exact .delete (hPQ _ hid) fun reply => ih reply hPQ

theorem deleteAll {ids : List CommentId} {f : Sweep → Pass α} (hids : ∀ id ∈ ids, P id)
    (hf : ∀ s, Pass.Clears P (f s)) : Pass.Clears P ((Sweep.deleteAll ids).bind f) := by
  induction ids generalizing f with
  | nil => exact hf _
  | cons id ids ih =>
    obtain ⟨hid, hrest⟩ := List.forall_mem_cons.mp hids
    refine .delete hid fun reply => ?_
    rw [Dialogue.bind_assoc]
    exact ih hrest fun s => hf _

theorem clearStep {f : StepOutcome → Pass α} (hf : ∀ o, (f o).Puts Call.IsPosting) :
    Pass.Clears P (Decoration.clearStep.bind f) := by
  refine .list fun reply => ?_
  cases reply with
  | error e => exact .posts (hf _)
  | ok ids =>
    simp only [Dialogue.bind_assoc]
    exact deleteAll (fun id hid => .inr hid) fun s => .posts (hf _)

end Pass.Clears

namespace Decoration

theorem perform_posts (a : Analysis) {t : Task} (ht : t ≠ .sweep) :
    (perform a t).Puts Call.IsPosting := by
  cases t with
  | sweep => exact absurd rfl ht
  | summary => exact .ask trivial fun _ => .done _
  | issue i position => exact .ask trivial fun _ => .done _

theorem inTurn_puts {P : Call → Prop} {units : List (Pass α)} (h : ∀ u ∈ units, u.Puts P) :
    (inTurn units).Puts P := by
  induction units with
  | nil => exact .done []
  | cons u units ih =>
    obtain ⟨hu, hunits⟩ := List.forall_mem_cons.mp h
    exact hu.bind fun _ => (ih hunits).bind fun _ => .done _

theorem postings_posts (toggles : Toggles) (a : Analysis) :
    (inTurn ((postings toggles a).map (perform a))).Puts Call.IsPosting := by
  refine inTurn_puts fun u hu => ?_
  obtain ⟨t, ht, rfl⟩ := List.mem_map.mp hu
  exact perform_posts a fun h => sweep_notMem_postings toggles a (h ▸ ht)

/-- A pass keeps to the order, and has nothing to delete before it has listed. -/
theorem pass_clears (o : Occasion) (toggles : Toggles) (a : Analysis) (d : Descriptor) :
    Pass.Clears (fun _ => False) (pass o toggles a d) := by
  cases hkey : d.key with
  | none =>
    simp only [pass, hkey]
    exact .posts (.done _)
  | some key =>
    have hposts := postings_posts toggles a
    rw [pass_of_key o toggles a hkey, steps, plan_eq_map_perform, tasks]
    cases toggles.clear with
    | false => exact .posts (hposts.bind fun _ => .done _)
    | true =>
      rw [if_pos rfl, List.singleton_append, List.map_cons, inTurn, Dialogue.bind_assoc]
      refine Pass.Clears.clearStep fun outcome => ?_
      rw [Dialogue.bind_assoc]
      exact hposts.bind fun _ => .done _

end Decoration
end PullDecoration
