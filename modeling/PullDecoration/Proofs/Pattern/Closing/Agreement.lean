import PullDecoration.Pattern.Basic
import PullDecoration.Proofs.Pattern.Progress

/-! A pattern that is to match from start to end is read with a parenthesis and a mark for the end
behind it. A reader does the same with them there, unless it would fail without them or a comment is
left open; then it goes on into them, so that they are missing where the pattern should end. The
judgement about a reader is put together from those about its parts. -/
namespace PullDecoration
namespace Pattern

open Reader

def closing : List Char := [')', '$']

/-- A mark of a comment that no line break follows: in a spaced pattern the comment does not end. -/
def OpenComment (cs : List Char) : Prop :=
  ∃ before comment, cs = before ++ '#' :: comment ∧ '\n' ∉ comment

theorem OpenComment.of_suffix {cs ds : List Char} (h : OpenComment ds) (hs : ds <:+ cs) :
    OpenComment cs := by
  obtain ⟨before, comment, rfl, hline⟩ := h
  obtain ⟨front, rfl⟩ := hs
  exact ⟨front ++ before, comment, (List.append_assoc _ _ _).symm, hline⟩

def Cursor.enclosed (c : Cursor) : Cursor := { c with rest := c.rest ++ closing }

variable {α β : Type} {j k n m r : Nat} {c : Cursor}

theorem drop_enclosed {i : Nat} (h : i ≤ c.rest.length) :
    { c.enclosed with rest := c.enclosed.rest.drop i } =
      { c with rest := c.rest.drop i }.enclosed := by
  simp only [Cursor.enclosed, List.drop_append_of_le_length h]

theorem one_le_length {d : Char} (h : c.rest.head? = some d) : 1 ≤ c.rest.length := by
  obtain ⟨cs, hcs⟩ := List.head?_eq_some_iff.mp h
  simp [hcs]

theorem head?_enclosed {d : Char} (h : c.rest.head? = some d) : c.enclosed.rest.head? = some d := by
  rw [Cursor.enclosed, List.head?_append, h]
  rfl

theorem head?_enclosed_nil (h : c.rest.head? = none) : c.enclosed.rest.head? = some ')' := by
  rw [Cursor.enclosed, List.head?_append, h]
  rfl

theorem head?_enclosed_ne {d : Char} (h : c.rest.head? ≠ some d) (hd : d ≠ ')') :
    c.enclosed.rest.head? ≠ some d := by
  cases hhead : c.rest.head? with
  | none =>
    rw [head?_enclosed_nil hhead]
    exact fun heq => hd (Option.some.inj heq).symm
  | some d' => rwa [head?_enclosed hhead, ← hhead]

/-- On the same place, `x` without and `y` with the closing text behind give the same; or `x` fails
or a comment does not end, and `y`, if it does not fail, leaves at most `k` characters. -/
inductive Agrees (k : Nat) (x y : Reader α) (c : Cursor) : Prop
  | same {a : α} {c' : Cursor} (hx : x.run c = .ok (a, c'))
      (hy : y.run c.enclosed = .ok (a, c'.enclosed)) (hsuffix : c'.rest <:+ c.rest)
  | apart (hx : (∃ e, x.run c = .error e) ∨ OpenComment c.rest)
      (hy : ∀ b d, y.run c.enclosed = .ok (b, d) → d.rest.length ≤ k)

namespace Agrees

theorem of_le {x y : Reader α} (h : Agrees j x y c) (hle : j ≤ k) : Agrees k x y c := by
  cases h with
  | same hx hy hs => exact .same hx hy hs
  | apart hx hy => exact .apart hx fun b d hrun => (hy b d hrun).trans hle

theorem done (a : α) : Agrees k (pure a) (pure a) c := .same rfl rfl List.suffix_rfl

theorem fail (e : PatternError) : Agrees k (throw e : Reader α) (throw e) c :=
  .apart (.inl ⟨e, rfl⟩) fun _ _ hrun => by cases hrun

theorem bind {x y : Reader α} {f g : α → Reader β} (h : Agrees j x y c)
    (hg : ∀ a, Uses m (g a)) (hjk : j ≤ k + m) (hf : ∀ a c', x.run c = .ok (a, c') →
      Agrees k (f a) (g a) c') : Agrees k (x >>= f) (y >>= g) c := by
  cases h with
  | @same a c' hx hy hs =>
    cases hf a c' hx with
    | same hx' hy' hs' =>
      exact .same ((run_bind_of_eq_ok hx).trans hx')
        ((run_bind_of_eq_ok hy).trans hy') (hs'.trans hs)
    | apart hx' hy' =>
      refine .apart ?_ fun b d hrun => hy' b d ((run_bind_of_eq_ok hy).symm.trans hrun)
      rcases hx' with ⟨e, he⟩ | hopen
      · exact .inl ⟨e, (run_bind_of_eq_ok hx).trans he⟩
      · exact .inr (hopen.of_suffix hs)
  | apart hx hy =>
    -- The first part is too far in the closing text already, and the second can only use up more of
    -- it.
    refine .apart ?_ fun b d hrun => ?_
    · rcases hx with ⟨e, he⟩ | hopen
      · exact .inl ⟨e, run_bind_of_eq_error he⟩
      · exact .inr hopen
    · obtain ⟨a, c', hfirst, hrest⟩ := run_bind_eq_ok.mp hrun
      have hleft := hy a c' hfirst
      have hused := (hg a hrest).1.length
      omega

theorem first {x y : Reader α} {f g : α → Reader β} (h : Agrees k x y c) (hg : ∀ a, Uses 0 (g a))
    (hf : ∀ a c', x.run c = .ok (a, c') → Agrees k (f a) (g a) c') :
    Agrees k (x >>= f) (y >>= g) c :=
  h.bind hg (Nat.le_refl k) hf

theorem at_end {x y : Reader α} (hend : c.rest = []) (hx : ∃ e, x.run c = .error e)
    (hy : Uses m y) (hk : 2 ≤ k + m) :
    Agrees k x y c := by
  refine .apart (.inl hx) fun b d hrun => ?_
  have hused := (hy hrun).1.length
  have hlength : c.enclosed.rest.length = 2 := by
    rw [Cursor.enclosed, hend]
    rfl
  omega

theorem moved {x x' y y' : Reader α} {d : Cursor} (h : Agrees k x' y' d) (hx : x.run c = x'.run d)
    (hy : y.run c.enclosed = y'.run d.enclosed) (hsuffix : d.rest <:+ c.rest) : Agrees k x y c := by
  cases h with
  | same h h' hs => exact .same (hx.trans h) (hy.trans h') (hs.trans hsuffix)
  | apart h h' => exact .apart (by rw [hx]; exact h.imp_right (·.of_suffix hsuffix)) (by rwa [hy])

theorem congr {x x' y y' : Reader α} (h : Agrees k x' y' c) (hx : x.run c = x'.run c)
    (hy : y.run c.enclosed = y'.run c.enclosed) : Agrees k x y c := h.moved hx hy List.suffix_rfl

theorem get {f g : Cursor → Reader α} (h : Agrees k (f c) (g c.enclosed) c) :
    Agrees k (MonadState.get >>= f) (MonadState.get >>= g) c := h.congr rfl rfl

theorem peek {f g : Option Char → Reader α}
    (hend : c.rest = [] → Agrees k (f none) (g (some ')')) c)
    (hmore : ∀ d cs, c.rest = d :: cs → Agrees k (f (some d)) (g (some d)) c) :
    Agrees k (Reader.peek >>= f) (Reader.peek >>= g) c := by
  cases hrest : c.rest with
  | nil =>
    refine (hend hrest).congr ?_ ?_
    · rw [peek_bind_run, hrest, List.head?_nil]
    · rw [peek_bind_run, head?_enclosed_nil (by rw [hrest, List.head?_nil])]
  | cons d cs =>
    refine (hmore d cs hrest).congr ?_ ?_
    · rw [peek_bind_run, hrest, List.head?_cons]
    · rw [peek_bind_run, head?_enclosed (by rw [hrest, List.head?_cons])]

theorem bump {f g : Unit → Reader α} (hlength : 1 ≤ c.rest.length)
    (h : Agrees k (f ()) (g ()) { c with rest := c.rest.drop 1 }) :
    Agrees k (Reader.bump >>= f) (Reader.bump >>= g) c := by
  refine h.moved (bump_bind_run f c) ((bump_bind_run g _).trans ?_) (List.drop_suffix 1 c.rest)
  rw [drop_enclosed hlength]

end Agrees

/-- Where at least `r` characters are left, the reader uses up at least `n` of what there is; and it
does the same with the closing text behind, or goes so far into it that at most `k` characters are
left. -/
structure Local (r n k : Nat) (x : Reader α) : Prop where
  uses : Uses n x
  agrees : ∀ {c : Cursor}, r ≤ c.rest.length → Agrees k x x c

namespace Local

theorem done (a : α) : Local r 0 k (pure a) := ⟨reads_pure trivial, fun _ => .done a⟩

theorem fail (e : PatternError) : Local r n k (throw e : Reader α) :=
  ⟨reads_throw, fun _ => .fail e⟩

theorem of_le {x : Reader α} (h : Local r n j x) (hle : j ≤ k) : Local r n k x :=
  ⟨h.uses, fun hc => (h.agrees hc).of_le hle⟩

theorem any {x : Reader α} (h : Local r n k x) : Local r 0 k x := ⟨h.uses.any, h.agrees⟩

theorem there {x : Reader α} (h : Local 0 n k x) : Local r n k x :=
  ⟨h.uses, fun _ => h.agrees (Nat.zero_le _)⟩

theorem bind {x : Reader α} {f : α → Reader β} (hx : Local r n j x)
    (hf : ∀ a, Local 0 m k (f a)) (hjk : j ≤ k + m) :
    Local r (n + m) k (x >>= f) :=
  ⟨Reads.bind hx.uses fun a _ => (hf a).uses,
    fun hc => (hx.agrees hc).bind (fun a => (hf a).uses) hjk fun a _ _ =>
      (hf a).agrees (Nat.zero_le _)⟩

theorem first {x : Reader α} {f : α → Reader β} (hx : Local r n k x) (hf : ∀ a, Local 0 0 k (f a)) :
    Local r n k (x >>= f) := hx.bind hf (Nat.le_refl k)

theorem later {x : Reader α} {f : α → Reader β} (hx : Local r 0 0 x) (hf : ∀ a, Local 0 n k (f a)) :
    Local r n k (x >>= f) := by
  simpa using hx.bind hf (Nat.zero_le _)

theorem ite {p : Prop} [Decidable p] {x y : Reader α} (hx : Local r n k x) (hy : Local r n k y) :
    Local r n k (if p then x else y) := by
  split
  · exact hx
  · exact hy

theorem guard {p : Prop} [Decidable p] {e : PatternError} {next : Unit → Reader α}
    (h : Local r n k (next ())) :
    Local r n k (if p then throw e >>= next else next ()) := by
  split
  · exact ⟨.bind (n := n) (m := 0) (P := fun _ => False) reads_throw fun _ => False.elim,
      fun _ => .apart (.inl ⟨e, rfl⟩) fun _ _ hrun => by cases hrun⟩
  · exact h

theorem peek {f : Option Char → Reader α} (hk : 2 ≤ n + k)
    (hnone : ∀ c, ∃ e, (f none).run c = .error e) (hf : ∀ d, Local 1 n k (f (some d))) :
    Local 0 n k (Reader.peek >>= f) := by
  have hstop : Uses n (f none) := by
    intro c a c' hrun
    obtain ⟨e, he⟩ := hnone c
    rw [he] at hrun
    cases hrun
  refine ⟨uses_peek.later fun ch => ?_, fun {c} _ => .peek (fun hend => ?_) fun d cs hrest => ?_⟩
  · cases ch with
    | none => exact hstop
    | some d => exact (hf d).uses
  · exact .at_end hend (hnone c) (hf ')').uses (Nat.add_comm n k ▸ hk)
  · exact (hf d).agrees (by rw [hrest]; exact Nat.le_add_left 1 _)

theorem peek_same {f : Option Char → Reader α} (hnone : f none = f (some ')'))
    (hend : Local 0 n k (f none)) (hf : ∀ d, Local 1 n k (f (some d))) :
    Local 0 n k (Reader.peek >>= f) := by
  refine ⟨uses_peek.later fun ch => ?_, fun {c} _ => .peek (fun _ => ?_) fun d cs hrest => ?_⟩
  · cases ch with
    | none => exact hend.uses
    | some d => exact (hf d).uses
  · exact hnone ▸ hend.agrees (Nat.zero_le _)
  · exact (hf d).agrees (by rw [hrest]; exact Nat.le_add_left 1 _)

end Local

/-- Blanks and comments end where the closing text begins, unless that is in a comment. -/
theorem skipSpace_closing (comment : Bool) (cs : List Char) :
    skipSpace comment (cs ++ closing) = skipSpace comment cs ++ closing ∨
      (OpenComment cs ∨ comment = true ∧ '\n' ∉ cs) ∧ skipSpace comment (cs ++ closing) = [] := by
  fun_induction skipSpace comment cs with
  | case1 comment =>
    cases comment with
    | false => exact .inl rfl
    | true => exact .inr ⟨.inr ⟨rfl, List.not_mem_nil⟩, rfl⟩
  | case2 c cs hblank ih =>
    rw [List.cons_append, skipSpace, if_pos hblank]
    refine ih.imp_right fun h => ⟨.inl ?_, h.2⟩
    exact (h.1.resolve_right fun h => Bool.false_ne_true h.1).of_suffix (List.suffix_cons c cs)
  | case3 cs hblank ih =>
    rw [List.cons_append, skipSpace, if_neg hblank, if_pos rfl]
    refine ih.imp_right fun h => ⟨.inl ?_, h.2⟩
    rcases h.1 with hopen | ⟨-, hline⟩
    · exact hopen.of_suffix (List.suffix_cons _ cs)
    · exact ⟨[], cs, rfl, hline⟩
  | case4 c cs hblank hmark =>
    rw [List.cons_append, skipSpace, if_neg hblank, if_neg hmark]
    exact .inl rfl
  | case5 c cs ih =>
    rw [List.cons_append, skipSpace]
    refine ih.imp_right fun h => ⟨h.1.imp (·.of_suffix (List.suffix_cons c cs)) ?_, h.2⟩
    rintro ⟨hc, hline⟩
    exact ⟨rfl, List.not_mem_cons_of_ne_of_not_mem (Ne.symm (of_decide_eq_true hc)) hline⟩

theorem skipped_closing (c : Cursor) : skipped c.enclosed = (skipped c).enclosed ∨
    OpenComment c.rest ∧ (skipped c.enclosed).rest = [] := by
  unfold skipped Cursor.enclosed
  dsimp only
  split
  · rcases skipSpace_closing false c.rest with h | ⟨hopen, h⟩
    · exact .inl (by rw [h])
    · exact .inr ⟨hopen.resolve_right fun h => Bool.false_ne_true h.1, h⟩
  · exact .inl rfl

theorem local_space : Local 0 0 k space := by
  refine ⟨uses_space, fun {c} _ => ?_⟩
  rcases skipped_closing c with h | ⟨hopen, h⟩
  · exact .same (space_run c) (by rw [space_run, h]) (skipped_suffix c)
  · refine .apart (.inr hopen) fun b d hrun => ?_
    cases hrun
    exact (congrArg List.length h).le.trans (Nat.zero_le k)

theorem local_bump : Local 1 1 k bump := by
  refine ⟨uses_bump, fun {c} hc => .same (bump_run c) ?_ (List.drop_suffix 1 c.rest)⟩
  rw [bump_run, Cursor.enclosed, Cursor.enclosed, List.drop_append_of_le_length hc]

theorem local_bumpSpace : Local 1 1 k bumpSpace := local_bump.first fun _ => local_space

/-- Behind the character something follows: with the closing text there, its first character if
nothing else. -/
theorem Local.bumpTo {e : PatternError} {f : Char → Reader α} (hk : 2 ≤ n + k)
    (hf : ∀ d, Local 1 n k (f d)) :
    Local 1 1 k (Reader.bumpTo e >>= f) := by
  have heq : Reader.bumpTo e >>= f =
      bumpSpace >>= fun _ => Reader.peek >>= fun ch => ch.elim (MonadExcept.throw e) f := by
    unfold Reader.bumpTo
    simp only [bind_assoc]
    refine bind_congr fun _ => bind_congr fun ch => ?_
    cases ch <;> rfl
  rw [heq]
  have hnext : Local 0 n k (Reader.peek >>= fun ch => ch.elim (MonadExcept.throw e) f) :=
    .peek hk (fun _ => ⟨e, rfl⟩) hf
  exact local_bumpSpace.first fun _ => hnext.any

theorem takeWhile_stop {p : Char → Bool} {i : Nat} {acc : List Char}
    (h : ∀ d ∈ c.rest.head?, p d = false) :
    (takeWhile.go p i acc).run c = .ok (acc.reverse, c) := by
  cases i with
  | zero => rfl
  | succ i =>
    rw [takeWhile.go, peek_bind_run]
    cases hhead : c.rest.head? with
    | none => rfl
    | some d =>
      dsimp only
      rw [h d hhead, if_neg Bool.false_ne_true]
      rfl

theorem takeWhile_step {p : Char → Bool} {i : Nat} {acc : List Char} {d : Char}
    (hhead : c.rest.head? = some d) (hp : p d = true) :
    (takeWhile.go p (i + 1) acc).run c =
      (bumpSpace >>= fun _ => takeWhile.go p i (d :: acc)).run c := by
  rw [takeWhile.go, peek_bind_run, hhead]
  dsimp only
  rw [if_pos hp]

section TakeWhile

variable {p : Char → Bool} {i l : Nat} {acc : List Char} {f g : List Char → Reader β}

theorem takeWhile_go_bind_stop (h : ∀ d ∈ c.rest.head?, p d = false) :
    (takeWhile.go p i acc >>= f).run c = (f acc.reverse).run c :=
      run_bind_of_eq_ok (takeWhile_stop h)

theorem takeWhile_go_bind_step {d : Char} (hhead : c.rest.head? = some d) (hd : p d = true) :
    (takeWhile.go p (i + 1) acc >>= f).run c =
      (bumpSpace >>= fun _ => takeWhile.go p i (d :: acc) >>= f).run c := by
  rw [← bind_assoc]
  exact run_bind_congr (takeWhile_step hhead hd)

/-- With the closing text behind, the characters are the same unless they go up to the end. -/
theorem agrees_takeWhile (hg : ∀ ds, Uses 0 (g ds)) (hf : ∀ ds c', Agrees k (f ds) (g ds) c')
    (hend : ∀ {acc l c}, c.rest = [] → 2 ≤ l →
      Agrees k (f acc.reverse) (takeWhile.go p l acc >>= g) c)
    (hi : c.rest.length ≤ i) (hl : c.rest.length + 2 ≤ l) :
    Agrees k (takeWhile.go p i acc >>= f) (takeWhile.go p l acc >>= g) c := by
  induction i generalizing l acc c with
  | zero =>
    have hrest : c.rest = [] := List.eq_nil_of_length_eq_zero (Nat.le_zero.mp hi)
    exact .congr (hend hrest (by omega)) (takeWhile_go_bind_stop (by simp [hrest])) rfl
  | succ i ih =>
    cases hrest : c.rest with
    | nil => exact .congr (hend hrest (by omega)) (takeWhile_go_bind_stop (by simp [hrest])) rfl
    | cons d cs =>
      have hhead : c.rest.head? = some d := by rw [hrest]; rfl
      have hhead' := head?_enclosed hhead
      cases hd : p d with
      | false =>
        exact .congr (hf _ c) (takeWhile_go_bind_stop (by simp [hhead, hd]))
          (takeWhile_go_bind_stop (by simp [hhead', hd]))
      | true =>
        obtain ⟨l, rfl⟩ : ∃ l', l = l' + 1 := ⟨l - 1, by omega⟩
        refine .congr ?_ (takeWhile_go_bind_step hhead hd) (takeWhile_go_bind_step hhead' hd)
        refine (local_bumpSpace.agrees (one_le_length hhead)).first
          (fun _ => (uses_takeWhile_go _ _ _).first hg)
          fun _ c' hrun => ?_
        have hlength := (uses_bumpSpace hrun).1.length
        simp only [hrest, List.length_cons] at hi hl hlength
        exact ih (by omega) (by omega)

theorem Local.takeWhile_of_end (hf : ∀ ds, Local 0 n k (f ds))
    (hend : ∀ {acc l c}, c.rest = [] → 2 ≤ l →
      Agrees k (f acc.reverse) (takeWhile.go p l acc >>= f) c) :
    Local 0 n k (Reader.takeWhile p >>= f) := by
  refine ⟨(uses_takeWhile p).later fun ds => (hf ds).uses, fun {c} _ => ?_⟩
  have hgo : Agrees k (takeWhile.go p c.rest.length [] >>= f)
      (takeWhile.go p c.enclosed.rest.length [] >>= f) c :=
    agrees_takeWhile (fun ds => (hf ds).uses.any)
    (fun ds _ => (hf ds).agrees (Nat.zero_le _)) hend (Nat.le_refl _)
      (by simp [Cursor.enclosed, closing])
  exact hgo.congr rfl rfl

theorem Local.takeWhile (hp : p ')' = false) (hf : ∀ ds, Local 0 n k (f ds)) :
    Local 0 n k (Reader.takeWhile p >>= f) := by
  refine .takeWhile_of_end hf fun {acc l c} hrest _ => ?_
  have hagrees : Agrees k (f acc.reverse) (f acc.reverse) c := (hf _).agrees (Nat.zero_le _)
  exact hagrees.congr rfl (takeWhile_go_bind_stop (by simp [head?_enclosed_nil, hrest, hp]))

theorem Local.takeWhile_through (hp : p ')' = true) (hp' : p '$' = true)
    (hstop : ∀ ds c, c.rest = [] → ∃ e, (f ds).run c = .error e) (hf : ∀ ds, Local 0 n k (f ds)) :
    Local 0 n k (Reader.takeWhile p >>= f) := by
  refine .takeWhile_of_end hf fun {acc l c} hrest hl =>
    .apart (.inl (hstop _ _ hrest)) fun b d hrun => ?_
  obtain ⟨l, rfl⟩ : ∃ i, l = i + 2 := ⟨l - 2, by omega⟩
  rw [takeWhile_go_bind_step (d := ')') (head?_enclosed_nil (by simp [hrest])) hp,
    run_bind_of_eq_ok (bumpSpace_run _)] at hrun
  have hmark : skipped { c.enclosed with rest := c.enclosed.rest.drop 1 } =
      { c with rest := ['$'] } := by
    unfold skipped
    simp only [Cursor.enclosed, hrest]
    split <;> rfl
  rw [hmark, takeWhile_go_bind_step (d := '$') rfl hp'] at hrun
  have hused :=
    ((uses_bumpSpace.first fun _ => (uses_takeWhile_go p l _).first fun ds =>
      (hf ds).uses.any) hrun).1
  exact hused.length.trans (Nat.zero_le _)

end TakeWhile

end Pattern
end PullDecoration
