import Mathlib.Data.List.Nodup
import PullDecoration.Provider.Store
import PullDecoration.Report.Pass

/-! Stores in the course of time. Others write comments, and passes run on the store while any of
their calls may fail. What every posting and every removal keeps is kept by all of this; in
particular the numbers of the comments stay distinct. -/
namespace PullDecoration
namespace Store

variable {α : Type} {s s' : Store}

/-- A run of a pass on a store. A call that fails leaves the store as it is. -/
inductive Run : Pass α → Store → α → Store → Prop
  | done (a : α) (s : Store) : Run (.done a) s a s
  | answered {call : Call} {next : Reply call → Pass α} {s s' : Store} {a : α}
      (h : Run (next (provider.answer call s).1) (provider.answer call s).2 a s') :
      Run (.ask call next) s a s'
  | failed {call : Call} {next : Reply call → Pass α} {s s' : Store} {a : α} (e : ProviderError)
      (h : Run (next (.error e)) s a s') : Run (.ask call next) s a s'

/-- What may become of a store. -/
inductive History (s : Store) : Store → Prop
  | start : History s s
  | seed {s' : Store} (h : History s s') (body : String) (path : Option SourcePath)
      (line : Option UInt32) : History s (s'.post body path line)
  | pass {s' s'' : Store} {o : Decoration.Occasion} {toggles : Toggles} {a : Analysis}
      {d : Descriptor} {report : Report} (h : History s s')
      (hrun : Run (Decoration.pass o toggles a d) s' report s'') : History s s''
  | sweep {s' s'' : Store} {result : Except ProviderError Sweep} (h : History s s')
      (hrun : Run Sweep.pass s' result s'') : History s s''

theorem run_interrupted (failure : Call → Store → Option ProviderError) (d : Pass α) (s : Store) :
    Run d s ((provider.interrupted failure).run d s).1
      ((provider.interrupted failure).run d s).2 := by
  induction d generalizing s with
  | done a => exact .done a s
  | ask call next ih =>
    rw [Partner.run]
    cases hfailure : failure call s with
    | none =>
      have hanswer : (provider.interrupted failure).answer call s = provider.answer call s := by
        simp [Provider.interrupted, hfailure]
      rw [hanswer]
      exact .answered (ih _ _)
    | some e =>
      have hanswer : (provider.interrupted failure).answer call s = (.error e, s) := by
        simp [Provider.interrupted, hfailure]
      rw [hanswer]
      exact .failed e (ih _ _)

theorem run_provider (d : Pass α) (s : Store) : Run d s (provider.run d s).1 (provider.run d s).2 :=
  run_interrupted (fun _ _ => none) d s

section Invariant

variable {P : Store → Prop}
variable (hpost : ∀ s body path line, P s → P (s.post body path line))
variable (hremove : ∀ s id, P s → P (s.remove id))
include hpost hremove

theorem answer_keeps (call : Call) (hs : P s) : P (provider.answer call s).2 := by
  cases call with
  | list => exact hs
  | create text path line => exact hpost s text path line hs
  | delete id => exact hremove s id hs

theorem Run.keeps {d : Pass α} {a : α} (h : Run d s a s') (hs : P s) : P s' := by
  induction h with
  | done a s => exact hs
  | answered _ ih => exact ih (answer_keeps hpost hremove _ hs)
  | failed e _ ih => exact ih hs

theorem History.keeps (h : History s s') (hs : P s) : P s' := by
  induction h with
  | start => exact hs
  | seed _ body path line ih => exact hpost _ body path line ih
  | pass _ hrun ih => exact hrun.keeps hpost hremove ih
  | sweep _ hrun ih => exact hrun.keeps hpost hremove ih

end Invariant

/-- Every comment has a number of its own, and the last number is the highest so far. -/
structure Numbered (s : Store) : Prop where
  nodup : (s.comments.map (·.id)).Nodup
  bounded : ∀ c ∈ s.comments, ∃ n ≤ s.lastNumber, c.id = .ofNat n

end Store

theorem CommentId.ofNat_inj {m n : Nat} : CommentId.ofNat m = CommentId.ofNat n ↔ m = n := by
  simp [CommentId.ofNat, String.ofList_inj, Text.decimal_inj]

namespace Store

variable {s s' : Store}

theorem empty_numbered : empty.Numbered := ⟨.nil, by simp [empty]⟩

theorem Numbered.next_notMem (h : s.Numbered) :
    CommentId.ofNat (s.lastNumber + 1) ∉ s.comments.map (·.id) := by
  intro hmem
  obtain ⟨c, hc, hid⟩ := List.mem_map.mp hmem
  obtain ⟨n, hn, hcn⟩ := h.bounded c hc
  have heq : n = s.lastNumber + 1 := CommentId.ofNat_inj.mp (hcn.symm.trans hid)
  omega

theorem Numbered.post (h : s.Numbered) (body : String) (path : Option SourcePath)
    (line : Option UInt32) : (s.post body path line).Numbered where
  nodup := by
    simp only [Store.post, List.map_append, List.map_cons, List.map_nil]
    exact List.nodup_append_comm.mp (List.nodup_cons.mpr ⟨h.next_notMem, h.nodup⟩)
  bounded c hc := by
    rcases List.mem_append.mp hc with hc | hc
    · obtain ⟨n, hn, hcn⟩ := h.bounded c hc
      exact ⟨n, Nat.le_succ_of_le hn, hcn⟩
    · rw [List.mem_singleton.mp hc]
      exact ⟨s.lastNumber + 1, Nat.le_refl _, rfl⟩

theorem Numbered.remove (h : s.Numbered) (id : CommentId) : (s.remove id).Numbered where
  nodup := h.nodup.sublist (List.filter_sublist.map _)
  bounded c hc := h.bounded c (List.mem_of_mem_filter hc)

theorem History.numbered (h : History s s') (hs : s.Numbered) : s'.Numbered :=
  h.keeps (fun _ body path line hs => hs.post body path line) (fun _ id hs => hs.remove id) hs

end Store
end PullDecoration
