import PullDecoration.Proofs.Provider.Discipline
import PullDecoration.Proofs.Provider.Survival

/-! Passes that run at the same time. Every call is answered in one piece, but between two calls of
one pass any calls of others may come, and others may write comments of their own. What a pass
deletes it has listed before, so an unmarked comment is never deleted; and what it creates gets a
number that no listing of before has named, so it is only deleted by a pass that listed it later. -/
namespace PullDecoration

variable {ι α : Type}

/-- A call, with its reply to be: a failure, which changes nothing, or what the store says. -/
structure Event (ι : Type) where
  who : ι
  call : Call
  failure : Option ProviderError
  before : Store
  deriving DecidableEq

namespace Event

def outcome (x : Event ι) : Reply x.call × Store :=
  (Store.provider.interrupted fun _ _ => x.failure).answer x.call x.before

def listing (x : Event ι) : List CommentId :=
  match x.call, x.failure with
  | .list, none => x.before.marked
  | _, _ => []

def created? (x : Event ι) : Option Comment :=
  match x.call, x.failure with
  | .create text path line, none => some ⟨.ofNat (x.before.lastNumber + 1), text, path, line⟩
  | _, _ => none

/-- The id was to be deleted, and that did not fail. -/
def Deletes (x : Event ι) (id : CommentId) : Prop := x.call = .delete id ∧ x.failure = none

end Event

/-- One store and the passes that run on it: what is left of each, and the calls made so far. -/
structure Interleaving (ι α : Type) where
  store : Store
  rest : ι → Pass α
  trace : List (Event ι)

/-- Someone writes a comment, or a pass makes its next call. -/
inductive Move (ι : Type)
  | seed (body : String) (path : Option SourcePath) (line : Option UInt32)
  | call (who : ι) (failure : Option ProviderError)

namespace Interleaving

def start (s : Store) (passes : ι → Pass α) : Interleaving ι α := ⟨s, passes, []⟩

def nextEvent (c : Interleaving ι α) (i : ι) (call : Call)
    (failure : Option ProviderError) : Event ι :=
  ⟨i, call, failure, c.store⟩

variable [DecidableEq ι]

def step (c : Interleaving ι α) : Move ι → Interleaving ι α
  | .seed body path line => { c with store := c.store.post body path line }
  | .call i failure => match c.rest i with
    | .done _ => c
    | .ask call next =>
      let x := c.nextEvent i call failure
      ⟨x.outcome.2, Function.update c.rest i (next x.outcome.1), c.trace ++ [x]⟩

def run (c : Interleaving ι α) (moves : List (Move ι)) : Interleaving ι α := moves.foldl step c

section Step

variable {c : Interleaving ι α} {i : ι} (failure : Option ProviderError)

theorem step_done {a : α} (h : c.rest i = .done a) : c.step (.call i failure) = c := by
  simp [step, h]

theorem step_ask {call : Call} {next : Reply call → Pass α} (h : c.rest i = .ask call next) :
    let x := c.nextEvent i call failure
    c.step (.call i failure) =
      ⟨x.outcome.2, Function.update c.rest i (next x.outcome.1), c.trace ++ [x]⟩ := by
  simp [step, h]

end Step

end Interleaving

namespace Store

/-- The store may come right behind the other one: its comments are among those of the other, or are
new. -/
structure Follows (s s' : Store) : Prop where
  numbered : s.Numbered → s'.Numbered
  lastNumber_le : s.lastNumber ≤ s'.lastNumber
  mem : ∀ u ∈ s'.comments, u ∈ s.comments ∨ u.id = .ofNat (s.lastNumber + 1)

theorem follows_self (s : Store) : s.Follows s := ⟨id, Nat.le_refl _, fun _ => .inl⟩

theorem follows_post (s : Store) (body : String) (path : Option SourcePath) (line : Option UInt32) :
    s.Follows (s.post body path line) where
  numbered h := h.post body path line
  lastNumber_le := Nat.le_succ _
  mem u hu := by
    rcases List.mem_append.mp hu with hu | hu
    · exact .inl hu
    · rw [List.mem_singleton.mp hu]
      exact .inr rfl

theorem follows_answer (call : Call) (s : Store) : s.Follows (provider.answer call s).2 := by
  cases call with
  | list => exact s.follows_self
  | create text path line => exact s.follows_post text path line
  | delete id => exact ⟨fun h => h.remove id, Nat.le_refl _,
    fun u hu => .inl (List.mem_of_mem_filter hu)⟩

/-- The id is one of a comment that is or was in the store, and not that of an unmarked one. -/
structure Owned (s : Store) (id : CommentId) : Prop where
  bounded : ∃ n ≤ s.lastNumber, id = .ofNat n
  spared : ∀ u ∈ s.unmarked, u.id ≠ id

variable {s s' : Store} {id : CommentId}

theorem Owned.ne_next (h : s.Owned id) : CommentId.ofNat (s.lastNumber + 1) ≠ id := by
  obtain ⟨n, hn, rfl⟩ := h.bounded
  rw [Ne, CommentId.ofNat_inj]
  omega

theorem Owned.follows (h : s.Owned id) (hfollows : s.Follows s') : s'.Owned id where
  bounded := by
    obtain ⟨n, hn, hid⟩ := h.bounded
    exact ⟨n, Nat.le_trans hn hfollows.lastNumber_le, hid⟩
  spared u hu := by
    obtain ⟨hmem, hmark⟩ := mem_unmarked.mp hu
    rcases hfollows.mem u hmem with hold | hnew
    · exact h.spared u (mem_unmarked.mpr ⟨hold, hmark⟩)
    · rw [hnew]
      exact h.ne_next

theorem Numbered.owned_of_marked (hs : s.Numbered) (h : id ∈ s.marked) : s.Owned id where
  bounded := by
    obtain ⟨u, hu, rfl⟩ := List.mem_map.mp h
    exact hs.bounded u (List.mem_of_mem_filter hu)
  spared u hu := fun heq => hs.unmarked_notMem_marked hu (heq ▸ h)

end Store

namespace Event

variable {x : Event ι} {id : CommentId}

theorem follows (x : Event ι) : x.before.Follows x.outcome.2 := by
  unfold outcome Provider.interrupted
  cases x.failure with
  | some e => exact x.before.follows_self
  | none => exact Store.follows_answer x.call x.before

theorem mem_outcome {u : Comment} (hu : u ∈ x.before.comments) :
    u ∈ x.outcome.2.comments ∨ x.Deletes u.id := by
  obtain ⟨who, call, failure, before⟩ := x
  cases failure with
  | some e => exact .inl hu
  | none =>
    cases call with
    | list => exact .inl hu
    | create text path line => exact .inl (List.mem_append_left _ hu)
    | delete id =>
      by_cases hid : u.id = id
      · exact .inr ⟨congrArg _ hid.symm, rfl⟩
      · exact .inl (List.mem_filter.mpr ⟨hu, by simpa using hid⟩)

theorem created_cases {u : Comment} (h : x.created? = some u) :
    x.call.IsPosting ∧ u.id = .ofNat (x.before.lastNumber + 1) ∧ u ∈ x.outcome.2.comments := by
  obtain ⟨who, call, failure, before⟩ := x
  cases call with
  | list => cases failure <;> cases h
  | delete id => cases failure <;> cases h
  | create text path line =>
    cases failure with
    | some e => cases h
    | none =>
      cases h
      exact ⟨trivial, rfl, List.mem_append_right _ List.mem_cons_self⟩

theorem listing_cases (h : id ∈ x.listing) : x.call = .list ∧ id ∈ x.before.marked := by
  obtain ⟨who, call, failure, before⟩ := x
  cases call with
  | create text path line => cases h
  | delete id => cases h
  | list =>
    cases failure with
    | some e => cases h
    | none => exact ⟨rfl, h⟩

end Event

theorem pair_sublist {β : Type} {a b : β} {l : List β} (ha : a ∈ l) (hb : b ∈ l) (hne : a ≠ b) :
    [a, b].Sublist l ∨ [b, a].Sublist l := by
  obtain ⟨before, behind, rfl⟩ := List.append_of_mem ha
  rcases List.mem_append.mp hb with hb | hb
  · have hbefore : [b].Sublist before := List.singleton_sublist.mpr hb
    exact .inr (hbefore.append (List.singleton_sublist.mpr List.mem_cons_self))
  · have hbehind : [b].Sublist behind :=
      List.singleton_sublist.mpr ((List.mem_cons.mp hb).resolve_left (Ne.symm hne))
    exact .inl ((hbehind.cons_cons a).trans (List.sublist_append_right before _))

/-- A pass has had the id in a listing. -/
def Heard (trace : List (Event ι)) (i : ι) (id : CommentId) : Prop :=
  ∃ x ∈ trace, x.who = i ∧ id ∈ x.listing

/-- What was created by `e` was listed by some pass later, and behind that deleted by the same
pass. -/
def Removed (trace : List (Event ι)) (e : Event ι) (id : CommentId) : Prop :=
  ∃ x y, [e, x, y].Sublist trace ∧ x.who = y.who ∧ id ∈ x.listing ∧ y.Deletes id

section Trace

variable {trace : List (Event ι)} {e x : Event ι} {i : ι} {id : CommentId}

theorem Heard.append (h : Heard trace i id) (x : Event ι) : Heard (trace ++ [x]) i id := by
  obtain ⟨y, hy, hwho, hid⟩ := h
  exact ⟨y, List.mem_append_left _ hy, hwho, hid⟩

theorem Removed.append (h : Removed trace e id) (x : Event ι) : Removed (trace ++ [x]) e id := by
  obtain ⟨y, z, hsub, hrest⟩ := h
  exact ⟨y, z, hsub.trans (List.sublist_append_left _ _), hrest⟩

/-- A pass that deletes what it has heard of has heard of it since it was created. -/
theorem Heard.removed (hfresh : trace.Pairwise fun x y => ∀ u ∈ y.created?, u.id ∉ x.listing)
    (he : e ∈ trace) {u : Comment} (hu : e.created? = some u) (hheard : Heard trace x.who u.id)
    (hx : x.Deletes u.id) :
    Removed (trace ++ [x]) e u.id := by
  obtain ⟨y, hy, hwho, hid⟩ := hheard
  have hne : e ≠ y := by
    rintro rfl
    have hposting := (Event.created_cases hu).1
    rw [(Event.listing_cases hid).1] at hposting
    exact hposting
  rcases pair_sublist he hy hne with hafter | hbefore
  · exact ⟨y, x, hafter.append (List.Sublist.refl [x]), hwho, hid, hx⟩
  · exact absurd hid (List.pairwise_iff_forall_sublist.mp hfresh hbefore u hu)

end Trace

namespace Pass.Clears

variable {P : CommentId → Prop} {call : Call} {next : Reply call → Pass α}

theorem behind (h : Pass.Clears P (.ask call next)) (i : ι)
    (failure : Option ProviderError) (s : Store) :
    let x : Event ι := ⟨i, call, failure, s⟩
    Pass.Clears (fun id => P id ∨ id ∈ x.listing) (next x.outcome.1) := by
  intro x
  cases h with
  | posts h =>
    cases h with
    | ask _ hnext => exact .posts (hnext _)
  | delete _ hnext => exact (hnext _).mono fun id => .inl
  | list hnext =>
    have hlisted : Decoration.listed x.outcome.1 = x.listing := by
      cases failure <;> rfl
    have h := hnext x.outcome.1
    rwa [hlisted] at h

theorem heard {id : CommentId} {next : Reply (.delete id) → Pass α}
    (h : Pass.Clears P (.ask (.delete id) next)) :
    P id := by
  cases h with
  | posts h =>
    cases h with
    | ask hposting _ => exact hposting.elim
  | delete hid _ => exact hid

theorem posts_of_posting (h : Pass.Clears P (.ask call next)) (hcall : call.IsPosting) :
    Dialogue.Puts Call.IsPosting (.ask call next) := by
  cases h with
  | posts h => exact h
  | list _ => exact hcall.elim
  | delete _ _ => exact hcall.elim

end Pass.Clears

namespace Interleaving

structure Sound (c : Interleaving ι α) : Prop where
  numbered : c.store.Numbered
  clears : ∀ i, Pass.Clears (Heard c.trace i) (c.rest i)
  posted : ∀ x ∈ c.trace, x.call.IsPosting → (c.rest x.who).Puts Call.IsPosting
  owned : ∀ x ∈ c.trace, ∀ id ∈ x.listing, c.store.Owned id
  deletes : ∀ x ∈ c.trace, ∀ id, x.call = .delete id → Heard c.trace x.who id
  fresh : c.trace.Pairwise fun x y => ∀ u ∈ y.created?, u.id ∉ x.listing
  foreign : ∀ x ∈ c.trace, ∀ y ∈ c.trace, x.who = y.who → ∀ id, x.call = .delete id →
    ∀ u ∈ y.created?, u.id ≠ id
  kept : ∀ e ∈ c.trace, ∀ u ∈ e.created?, u ∈ c.store.comments ∨ Removed c.trace e u.id

variable {c : Interleaving ι α} {i : ι} {id : CommentId}

theorem Sound.owned_of_heard (h : c.Sound) (hid : Heard c.trace i id) : c.store.Owned id := by
  obtain ⟨x, hx, -, hid⟩ := hid
  exact h.owned x hx id hid

theorem start_sound {passes : ι → Pass α} (h : ∀ i, Pass.Clears (fun _ => False) (passes i)) :
    (start .empty passes).Sound where
  numbered := Store.empty_numbered
  clears i := (h i).mono fun _ => False.elim
  posted := List.forall_mem_nil _
  owned := List.forall_mem_nil _
  deletes := List.forall_mem_nil _
  fresh := .nil
  foreign := List.forall_mem_nil _
  kept := List.forall_mem_nil _

theorem Sound.seed (h : c.Sound) (body : String) (path : Option SourcePath) (line : Option UInt32) :
    ({ c with store := c.store.post body path line } : Interleaving ι α).Sound where
  numbered := h.numbered.post body path line
  clears := h.clears
  posted := h.posted
  owned x hx id hid := (h.owned x hx id hid).follows (c.store.follows_post body path line)
  deletes := h.deletes
  fresh := h.fresh
  foreign := h.foreign
  kept e he u hu := (h.kept e he u hu).imp_left (List.mem_append_left _)

section Call

variable {call : Call} {next : Reply call → Pass α} (failure : Option ProviderError)

theorem Sound.clears_call [DecidableEq ι] (h : c.Sound)
    (hrest : c.rest i = .ask call next) (j : ι) :
    let x := c.nextEvent i call failure
    Pass.Clears (Heard (c.trace ++ [x]) j) (Function.update c.rest i (next x.outcome.1) j) := by
  intro x
  by_cases hj : j = i
  · subst hj
    have hclears := h.clears j
    rw [hrest] at hclears
    rw [Function.update_self]
    refine (hclears.behind j failure c.store).mono ?_
    rintro id (hid | hid)
    · exact hid.append x
    · exact ⟨x, List.mem_append_right _ List.mem_cons_self, rfl, hid⟩
  · rw [Function.update_of_ne hj]
    exact (h.clears j).mono fun id hid => hid.append x

theorem Sound.posted_call [DecidableEq ι] (h : c.Sound) (hrest : c.rest i = .ask call next) :
    let x := c.nextEvent i call failure
    ∀ y ∈ c.trace ++ [x], y.call.IsPosting →
      (Function.update c.rest i (next x.outcome.1) y.who).Puts Call.IsPosting := by
  intro x y hy hposting
  have hbefore : (c.rest y.who).Puts Call.IsPosting := by
    rcases List.mem_append.mp hy with hy | hy
    · exact h.posted y hy hposting
    · rw [List.mem_singleton.mp hy] at hposting ⊢
      have hclears := h.clears i
      rw [hrest] at hclears
      have hposts := hclears.posts_of_posting hposting
      rwa [← hrest] at hposts
  by_cases hwho : y.who = i
  · rw [hwho, hrest] at hbefore
    rw [hwho, Function.update_self]
    cases hbefore with
    | ask _ hnext => exact hnext _
  · rwa [Function.update_of_ne hwho]

theorem Sound.heard_of_delete (h : c.Sound) (hrest : c.rest i = .ask call next)
    (hcall : call = .delete id) :
    Heard c.trace i id := by
  subst hcall
  have hclears := h.clears i
  rw [hrest] at hclears
  exact hclears.heard

theorem Sound.deletes_call (h : c.Sound) (hrest : c.rest i = .ask call next) :
    let x := c.nextEvent i call failure
    ∀ y ∈ c.trace ++ [x], ∀ id, y.call = .delete id → Heard (c.trace ++ [x]) y.who id := by
  intro x y hy id hcall
  rcases List.mem_append.mp hy with hy | hy
  · exact (h.deletes y hy id hcall).append x
  · rw [List.mem_singleton.mp hy] at hcall ⊢
    exact (h.heard_of_delete hrest hcall).append x

theorem Sound.owned_call (h : c.Sound) :
    let x := c.nextEvent i call failure
    ∀ y ∈ c.trace ++ [x], ∀ id ∈ y.listing, x.outcome.2.Owned id := by
  intro x y hy id hid
  have hbefore : c.store.Owned id := by
    rcases List.mem_append.mp hy with hy | hy
    · exact h.owned y hy id hid
    · rw [List.mem_singleton.mp hy] at hid
      exact h.numbered.owned_of_marked (Event.listing_cases hid).2
  exact hbefore.follows x.follows

theorem Sound.fresh_call (h : c.Sound) :
    (c.trace ++ [c.nextEvent i call failure]).Pairwise fun x y => ∀ u ∈ y.created?,
    u.id ∉ x.listing := by
  refine List.pairwise_append.mpr ⟨h.fresh, List.pairwise_singleton _ _, ?_⟩
  intro y hy x hx u hu hid
  rw [List.mem_singleton.mp hx] at hu
  exact (h.owned y hy u.id hid).ne_next (Event.created_cases hu).2.1.symm

theorem Sound.foreign_call (h : c.Sound) (hrest : c.rest i = .ask call next) :
    let x := c.nextEvent i call failure
    ∀ y ∈ c.trace ++ [x], ∀ z ∈ c.trace ++ [x], y.who = z.who → ∀ id, y.call = .delete id →
      ∀ u ∈ z.created?, u.id ≠ id := by
  intro x y hy z hz hwho id hcall u hu heq
  have hposting : z.call.IsPosting := (Event.created_cases hu).1
  rcases List.mem_append.mp hy with hy | hy
  · rcases List.mem_append.mp hz with hz | hz
    · exact h.foreign y hy z hz hwho id hcall u hu heq
    · rw [List.mem_singleton.mp hz] at hu
      have howned := h.owned_of_heard (h.deletes y hy id hcall)
      exact howned.ne_next ((Event.created_cases hu).2.1.symm.trans heq)
  · rw [List.mem_singleton.mp hy] at hwho hcall
    have hposted : (c.rest i).Puts Call.IsPosting := by
      rcases List.mem_append.mp hz with hz | hz
      · rw [show i = z.who from hwho]
        exact h.posted z hz hposting
      · rw [List.mem_singleton.mp hz] at hposting
        have hclears := h.clears i
        rw [hrest] at hclears ⊢
        exact hclears.posts_of_posting hposting
    rw [hrest] at hposted
    cases hposted with
    | ask hq _ =>
      rw [show call = .delete id from hcall] at hq
      exact hq

theorem Sound.kept_call (h : c.Sound) (hrest : c.rest i = .ask call next) :
    let x := c.nextEvent i call failure
    ∀ e ∈ c.trace ++ [x], ∀ u ∈ e.created?, u ∈ x.outcome.2.comments ∨
    Removed (c.trace ++ [x]) e u.id := by
  intro x e he u hu
  rcases List.mem_append.mp he with he | he
  · rcases h.kept e he u hu with hmem | hremoved
    · refine (Event.mem_outcome hmem).imp_right fun hdeletes => ?_
      exact (h.heard_of_delete hrest hdeletes.1).removed h.fresh he hu hdeletes
    · exact .inr (hremoved.append x)
  · rw [List.mem_singleton.mp he] at hu
    exact .inl (Event.created_cases hu).2.2

theorem Sound.ask [DecidableEq ι] (h : c.Sound) (hrest : c.rest i = .ask call next) :
    let x := c.nextEvent i call failure
    (⟨x.outcome.2, Function.update c.rest i (next x.outcome.1),
      c.trace ++ [x]⟩ : Interleaving ι α).Sound where
  numbered := (Event.follows _).numbered h.numbered
  clears := h.clears_call failure hrest
  posted := h.posted_call failure hrest
  owned := h.owned_call failure
  deletes := h.deletes_call failure hrest
  fresh := h.fresh_call failure
  foreign := h.foreign_call failure hrest
  kept := h.kept_call failure hrest

end Call

variable [DecidableEq ι]

theorem Sound.step (h : c.Sound) (m : Move ι) : (c.step m).Sound := by
  cases m with
  | seed body path line => exact h.seed body path line
  | call i failure =>
    cases hrest : c.rest i with
    | done a =>
      rw [step_done failure hrest]
      exact h
    | ask call next =>
      rw [step_ask failure hrest]
      exact h.ask failure hrest

theorem Sound.run (h : c.Sound) (moves : List (Move ι)) : (c.run moves).Sound := by
  induction moves generalizing c with
  | nil => exact h
  | cons m moves ih => exact ih (h.step m)

theorem Sound.unmarked_step (h : c.Sound) (m : Move ι) {u : Comment} (hu : u ∈ c.store.unmarked) :
    u ∈ (c.step m).store.unmarked := by
  obtain ⟨hmem, hmark⟩ := Store.mem_unmarked.mp hu
  refine Store.mem_unmarked.mpr ⟨?_, hmark⟩
  cases m with
  | seed body path line => exact List.mem_append_left _ hmem
  | call i failure =>
    cases hrest : c.rest i with
    | done a =>
      rw [step_done failure hrest]
      exact hmem
    | ask call next =>
      rw [step_ask failure hrest]
      have hafter : u ∈ (c.nextEvent i call failure).outcome.2.comments ∨
          (c.nextEvent i call failure).Deletes u.id := Event.mem_outcome hmem
      refine hafter.resolve_right fun hdeletes => ?_
      have howned := h.owned_of_heard (h.heard_of_delete hrest hdeletes.1)
      exact howned.spared u hu rfl

theorem Sound.unmarked_run (h : c.Sound) (moves : List (Move ι)) {u : Comment}
    (hu : u ∈ c.store.unmarked) :
    u ∈ (c.run moves).store.unmarked := by
  induction moves generalizing c with
  | nil => exact hu
  | cons m moves ih => exact ih (h.step m) (h.unmarked_step m hu)

/-- However the calls of decoration passes come one after the other, and whichever of them fail:
unmarked comments stay as they are; no pass asks for the deletion of what it has created itself; and
what was created is there in the end, or was listed later by a pass that then deleted it. -/
theorem interleaved_passes_safe (o : ι → Decoration.Occasion)
    (toggles : ι → Toggles) (a : ι → Analysis) (d : ι → Descriptor) (moves later : List (Move ι)) :
    let now := (start .empty fun i => Decoration.pass (o i) (toggles i) (a i) (d i)).run moves
    let final := now.run later
    (∀ u ∈ now.store.comments, Marker.isIn u.body = false → u ∈ final.store.comments) ∧
      (∀ x ∈ final.trace, ∀ y ∈ final.trace, x.who = y.who → ∀ id, x.call = .delete id →
        ∀ u ∈ y.created?, u.id ≠ id) ∧
      ∀ e ∈ final.trace, ∀ u ∈ e.created?, u ∈ final.store.comments ∨
      Removed final.trace e u.id := by
  intro now final
  have hstart : (start .empty fun i => Decoration.pass (o i) (toggles i) (a i) (d i)).Sound :=
    start_sound fun i => Decoration.pass_clears (o i) (toggles i) (a i) (d i)
  have hnow : now.Sound := hstart.run moves
  have hfinal : final.Sound := hnow.run later
  refine ⟨fun u hu hmark => ?_, hfinal.foreign, hfinal.kept⟩
  exact (Store.mem_unmarked.mp (hnow.unmarked_run later (Store.mem_unmarked.mpr ⟨hu, hmark⟩))).1

/-- Two passes over a pull request with an approval. The first has posted its summary when the
second begins. -/
def sampleMoves : List (Move Bool) := [.seed "LGTM" none none, .call false none, .call false none]

/-- The second lists, the first posts an issue, the second deletes, and the first fails to post the
other issue. -/
def sampleLater : List (Move Bool) :=
  [.call true none, .call false none, .call true none,
    .call false (some (.transport "reset")), .call true none]

def sampleNow : Interleaving Bool Report :=
  (start .empty fun _ : Bool => Decoration.pass .earliest .all Decoration.sampleAnalysis
    Decoration.samplePullRequest).run sampleMoves

def approval : Comment := ⟨.ofNat 1, "LGTM", none, none⟩

/-- The approval stays, and the summary of the first pass is gone by the hand of the second. -/
theorem overlapping_passes_safe :
    approval ∈ (sampleNow.run sampleLater).store.comments ∧
      (sampleNow.run sampleLater).store.comments.map (·.id) = [.ofNat 1, .ofNat 3, .ofNat 4] ∧
      ∃ e ∈ (sampleNow.run sampleLater).trace, e.who = false ∧
        Removed (sampleNow.run sampleLater).trace e (.ofNat 2) := by
  have hsafe := interleaved_passes_safe (fun _ : Bool => .earliest) (fun _ => .all)
    (fun _ => Decoration.sampleAnalysis) (fun _ => Decoration.samplePullRequest)
      sampleMoves sampleLater
  have hnow : (start .empty fun _ : Bool => Decoration.pass .earliest .all Decoration.sampleAnalysis
      Decoration.samplePullRequest).run sampleMoves = sampleNow := rfl
  simp only [hnow] at hsafe
  obtain ⟨hunmarked, -, hkept⟩ := hsafe
  have happroval : approval ∈ sampleNow.store.comments := by
    decide +kernel
  have hmark : Marker.isIn approval.body = false := by
    decide +kernel
  have hids : (sampleNow.run sampleLater).store.comments.map (·.id) =
      [.ofNat 1, .ofNat 3, .ofNat 4] := by
    decide +kernel
  have hcreated : ∃ e ∈ (sampleNow.run sampleLater).trace, e.who = false ∧
      e.created?.map (·.id) = some (.ofNat 2) := by
    decide +kernel
  obtain ⟨e, he, hwho, hid⟩ := hcreated
  obtain ⟨u, hu, hnumber⟩ := Option.map_eq_some_iff.mp hid
  have hgone : u ∉ (sampleNow.run sampleLater).store.comments := by
    intro hmem
    have hnone : CommentId.ofNat 2 ∉ (sampleNow.run sampleLater).store.comments.map (·.id) := by
      simp [hids, CommentId.ofNat_inj]
    exact hnone (hnumber ▸ List.mem_map_of_mem hmem)
  have hremoved := (hkept e he u hu).resolve_left hgone
  rw [hnumber] at hremoved
  exact ⟨hunmarked approval happroval hmark, hids, e, he, hwho, hremoved⟩

end Interleaving
end PullDecoration
