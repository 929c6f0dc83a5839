import PullDecoration.Proofs.Pattern.Closing.Openings

/-! Whole patterns, with the closing text behind. More text means more fuel, so that runs with
different fuel are compared; the three readers of a pattern call each other, so they are compared
together, by induction on the fuel. -/
namespace PullDecoration
namespace Pattern

open Reader

variable {α β : Type} {j k n m r : Nat} {c : Cursor}

/-- What is read behind the body of a group: its parenthesis, and the items behind that. -/
def behindBody (fuel : Nat) (acc : List Tree) (change : FlagChange) (outside : Bool) (body : Tree) :
    Reader Tree := do
  if (← peek).isNone then throw .groupUnclosed
  bump
  modify ({ · with spaced := outside })
  concatenation fuel (.group change body :: acc)

/-- What is read behind an opening: for flags alone the items behind, for a group its body first. -/
def behindOpening (fuel : Nat) (acc : List Tree) : Opening → Reader Tree
  | .alone change => do
    modify fun c => { c with spaced := (change.get? .spaced).getD c.spaced }
    concatenation fuel (.flags change :: acc)
  | .group change => do
    let outside := (← get).spaced
    modify fun c => { c with spaced := (change.get? .spaced).getD c.spaced }
    let body ← alternatives fuel []
    behindBody fuel acc change outside body

section Concatenation

variable {fuel : Nat} {acc : List Tree}

theorem concatenation_run_stop (h : ∀ d ∈ (skipped c).rest.head?, d = ')' ∨ d = '|') :
    (concatenation (fuel + 1) acc).run c = .ok (.ofConcat acc.reverse, skipped c) := by
  rw [concatenation, space_bind_run, peek_bind_run]
  cases hhead : (skipped c).rest.head? with
  | none => rfl
  | some d =>
    rcases h d hhead with rfl | rfl
    · rfl
    · rfl

theorem concatenation_run_group (h : (skipped c).rest.head? = some '(') :
    (concatenation (fuel + 1) acc).run c =
      (opening >>= behindOpening fuel acc).run (skipped c) := by
  rw [concatenation, space_bind_run, peek_bind_run, h]
  refine congrArg (fun f => (opening >>= f).run (skipped c)) (funext fun o => ?_)
  cases o with
  | alone change => rfl
  | group change => rfl

theorem concatenation_run_class (h : (skipped c).rest.head? = some '[') :
    (concatenation (fuel + 1) acc).run c =
    (classTree fuel >>= fun t => concatenation fuel (.cls t :: acc)).run (skipped c) := by
  rw [concatenation, space_bind_run, peek_bind_run, h]
  rfl

def markCount? : Char → Option (Nat × Option Nat)
  | '?' => some (0, some 1)
  | '*' => some (0, none)
  | '+' => some (1, none)
  | _ => none

theorem concatenation_run_again {d : Char} {least : Nat} {most : Option Nat}
    (h : (skipped c).rest.head? = some d) (hmark : markCount? d = some (least, most)) :
    (concatenation (fuel + 1) acc).run c = (again least most fuel acc).run (skipped c) := by
  rw [concatenation, space_bind_run, peek_bind_run, h]
  unfold markCount? at hmark
  split at hmark
  · cases hmark
    rfl
  · cases hmark
    rfl
  · cases hmark
    rfl
  · cases hmark

theorem concatenation_run_count (h : (skipped c).rest.head? = some '{') :
    (concatenation (fuel + 1) acc).run c =
    (repeatable acc >>= fun p => count >>= fun bounds =>
      concatenation fuel (.repeated p.1 bounds.1 bounds.2 :: p.2)).run (skipped c) := by
  rw [concatenation, space_bind_run, peek_bind_run, h]
  rfl

/-- Characters that begin neither a group nor a class nor a repetition, and end nothing. -/
def isPlain (d : Char) : Bool := d ∉ [')', '|', '(', '[', '?', '*', '+', '{']

theorem concatenation_run_plain {d : Char} (h : (skipped c).rest.head? = some d)
    (hplain : isPlain d = true) :
    (concatenation (fuel + 1) acc).run c =
      (primitive d >>= fun t => concatenation fuel (t :: acc)).run (skipped c) := by
  rw [concatenation, space_bind_run, peek_bind_run, h]
  split
  all_goals rename_i heq
  all_goals first
    | exact absurd (Option.some.inj heq ▸ hplain) (by decide)
    | cases heq
  all_goals rfl

end Concatenation

theorem Agrees.repeatable {acc : List Tree} {f g : Tree × List Tree → Reader α}
    (h : ∀ p, Agrees k (f p) (g p) c) :
    Agrees k (Pattern.repeatable acc >>= f) (Pattern.repeatable acc >>= g) c := by
  unfold Pattern.repeatable
  split
  · exact .apart (.inl ⟨_, rfl⟩) fun _ _ hrun => by cases hrun
  · exact .apart (.inl ⟨_, rfl⟩) fun _ _ hrun => by cases hrun
  · exact .apart (.inl ⟨_, rfl⟩) fun _ _ hrun => by cases hrun
  · exact h _

theorem concatenation_hanging {fuel : Nat} {acc : List Tree} (h : Hanging c) :
    ∃ e, (concatenation fuel acc).run c = .error e := by
  cases fuel with
  | zero => exact ⟨_, rfl⟩
  | succ fuel =>
    have hskip := skipped_of_head h.brace (by decide) (by decide)
    rw [concatenation_run_count (by rw [hskip]; exact h.brace), hskip]
    unfold repeatable
    split
    · exact ⟨_, rfl⟩
    · exact ⟨_, rfl⟩
    · exact ⟨_, rfl⟩
    · obtain ⟨e, he⟩ := count_run_hanging h
      rw [pure_bind]
      exact ⟨e, run_bind_of_eq_error he⟩

theorem local_spaced {f : Cursor → Bool} (hf : ∀ c, f c.enclosed = f c) :
    Local 0 0 k (modify fun c => { c with spaced := f c }) :=
  ⟨uses_spaced f, fun {c} _ => .same rfl
    (by simp only [Cursor.enclosed, ← hf c]; rfl) List.suffix_rfl⟩

/-- With enough fuel for the text, patterns are read the same with the closing text behind. -/
structure PatternsAgree (fuel fuel' : Nat) : Prop where
  alternatives {c : Cursor} {acc : List Tree} (h : 2 * c.rest.length + 3 ≤ fuel) :
    Agrees 1 (alternatives fuel acc) (alternatives fuel' acc) c
  concatenation {c : Cursor} {acc : List Tree} (h : 2 * c.rest.length + 2 ≤ fuel) :
    Agrees 1 (concatenation fuel acc) (concatenation fuel' acc) c
  again {c : Cursor} {acc : List Tree} {least : Nat} {most : Option Nat}
  (h : 2 * c.rest.length + 1 ≤ fuel)
    (hlength : 1 ≤ c.rest.length) :
    Agrees 1 (again least most fuel acc) (again least most fuel' acc) c

section Steps

variable {fuel fuel' : Nat} {acc : List Tree}

theorem uses_concatenation : Uses 0 (concatenation fuel acc) := (uses_pattern fuel acc).2

theorem uses_behindBody (change : FlagChange) (outside : Bool) (body : Tree) :
    Uses 0 (behindBody fuel acc change outside body) :=
  uses_peek.first fun _ =>
    .guard (uses_bump.any.first fun _ => (uses_spaced _).first fun _ => uses_concatenation)

theorem uses_behindOpening (o : Opening) : Uses 0 (behindOpening fuel acc o) := by
  cases o with
  | alone change => exact (uses_spaced _).first fun _ => uses_concatenation
  | group change =>
    exact uses_get.first fun _ => (uses_spaced _).first fun _ =>
        (uses_pattern fuel []).1.first fun _ =>
      uses_behindBody _ _ _

theorem agrees_behindBody (h : PatternsAgree fuel fuel') (hc : 2 * c.rest.length ≤ fuel)
    (change : FlagChange) (outside : Bool) (body : Tree) :
    Agrees 1 (behindBody fuel acc change outside body)
    (behindBody fuel' acc change outside body) c := by
  refine .peek (fun hend => ?_) fun d cs hrest => ?_
  · exact .at_end hend ⟨_, rfl⟩
      (uses_bump.first fun _ => (uses_spaced _).first fun _ => uses_concatenation) (Nat.le_refl 2)
  · refine (local_bump.agrees (by simp [hrest])).first
      (fun _ => (uses_spaced _).first fun _ => uses_concatenation) fun _ c₁ hbump => ?_
    have hbumped := (uses_bump hbump).1.length
    refine ((local_spaced fun _ => rfl).agrees (Nat.zero_le _)).first (fun _ => uses_concatenation)
      fun _ c₂ hspaced => ?_
    have hused := (uses_spaced _ hspaced).1.length
    simp only [hrest, List.length_cons] at hc hbumped
    exact h.concatenation (by omega)

theorem agrees_behindOpening (h : PatternsAgree fuel fuel')
    (hc : 2 * c.rest.length + 3 ≤ fuel) (o : Opening) :
    Agrees 1 (behindOpening fuel acc o) (behindOpening fuel' acc o) c := by
  cases o with
  | alone change =>
    refine ((local_spaced fun _ => rfl).agrees (Nat.zero_le _)).first (fun _ => uses_concatenation)
      fun _ c' hrun => ?_
    have hused := (uses_spaced _ hrun).1.length
    exact h.concatenation (by omega)
  | group change =>
    refine .get (((local_spaced fun _ => rfl).agrees (Nat.zero_le _)).first
      (fun _ => (uses_pattern fuel' []).1.first fun _ => uses_behindBody _ _ _) fun _ c₁ hspaced =>
        ?_)
    have hused := (uses_spaced _ hspaced).1.length
    refine (h.alternatives (by omega)).first (fun _ => uses_behindBody _ _ _) fun body c₂ hbody =>
      ?_
    have hused' := ((uses_pattern fuel []).1 hbody).1.length
    exact agrees_behindBody h (by omega) _ _ body

theorem agrees_again (h : PatternsAgree fuel fuel') {least : Nat} {most : Option Nat}
    (hlength : 1 ≤ c.rest.length) (hc : 2 * c.rest.length + 1 ≤ fuel + 1) :
    Agrees 1 (again least most (fuel + 1) acc) (again least most (fuel' + 1) acc) c := by
  refine .repeatable fun p => (local_bump.agrees hlength).first
    (fun _ => uses_skipLazy.first fun _ => uses_concatenation) fun _ c₁ hbump => ?_
  have hbumped := (uses_bump hbump).1.length
  refine (local_skipLazy.agrees (Nat.zero_le _)).first
    (fun _ => uses_concatenation) fun _ c₂ hlazy => ?_
  have hused := (uses_skipLazy hlazy).1.length
  exact h.concatenation (by omega)

theorem agrees_alternatives (h : PatternsAgree fuel fuel') (hc : 2 * c.rest.length + 3 ≤ fuel + 1) :
    Agrees 1 (alternatives (fuel + 1) acc) (alternatives (fuel' + 1) acc) c := by
  have hmore (t : Tree) : Uses 0 (bump >>= fun _ => alternatives fuel' (t :: acc)) :=
    uses_bump.any.first fun _ => (uses_pattern fuel' _).1
  refine (h.concatenation (by omega)).first
    (fun t => uses_peek.first fun _ => .ite (hmore t) (reads_pure trivial))
    fun t c₁ hfirst => .peek (fun _ => .done _) fun d cs hrest => ?_
  have hused := (uses_concatenation hfirst).1.length
  by_cases hd : some d = some '|'
  · rw [if_pos hd, if_pos hd]
    refine (local_bump.agrees (by simp [hrest])).first
      (fun _ => (uses_pattern fuel' _).1) fun _ c₂ hbump => ?_
    have hbumped := (uses_bump hbump).1.length
    simp only [hrest, List.length_cons] at hused hbumped
    exact h.alternatives (by omega)
  · rw [if_neg hd, if_neg hd]
    exact .done _

theorem head_cases (d : Char) : (d = ')' ∨ d = '|') ∨ d = '(' ∨ d = '[' ∨ d = '{' ∨
    (∃ least most, markCount? d = some (least, most)) ∨ isPlain d = true := by
  by_cases hplain : isPlain d = true
  · exact .inr (.inr (.inr (.inr (.inr hplain))))
  · simp only [isPlain, decide_eq_true_eq, not_not, List.mem_cons,
      List.not_mem_nil, or_false] at hplain
    rcases hplain with rfl | rfl | rfl | rfl | rfl | rfl | rfl | rfl
    · exact .inl (.inl rfl)
    · exact .inl (.inr rfl)
    · exact .inr (.inl rfl)
    · exact .inr (.inr (.inl rfl))
    · exact .inr (.inr (.inr (.inr (.inl ⟨_, _, rfl⟩))))
    · exact .inr (.inr (.inr (.inr (.inl ⟨_, _, rfl⟩))))
    · exact .inr (.inr (.inr (.inr (.inl ⟨_, _, rfl⟩))))
    · exact .inr (.inr (.inr (.inl rfl)))

theorem agrees_item_escape (h : PatternsAgree fuel fuel') (hlength : 1 ≤ c.rest.length)
    (hc : 2 * c.rest.length + 2 ≤ fuel + 1) :
    Agrees 1 (primitive '\\' >>= fun t => concatenation fuel (t :: acc))
      (primitive '\\' >>= fun t => concatenation fuel' (t :: acc)) c := by
  rcases primitive_escape_agrees hlength with hagrees | ⟨⟨e, he⟩, d, hd, hhanging⟩
  · refine hagrees.first (fun _ => uses_concatenation) fun t c' hrun => ?_
    have hused := (reads_primitive kept_true '\\' hrun).1.length
    exact h.concatenation (by omega)
  · -- A brace is left hanging behind the escape, and the next item fails at it.
    refine .apart (.inl ⟨e, run_bind_of_eq_error he⟩) fun t d' hrun => ?_
    rw [run_bind_of_eq_ok hd] at hrun
    obtain ⟨e', he'⟩ := concatenation_hanging hhanging
    cases he'.symm.trans hrun

theorem agrees_item_plain (h : PatternsAgree fuel fuel') (hlength : 1 ≤ c.rest.length)
    (hc : 2 * c.rest.length + 2 ≤ fuel + 1) (d : Char) :
    Agrees 1 (primitive d >>= fun t => concatenation fuel (t :: acc))
      (primitive d >>= fun t => concatenation fuel' (t :: acc)) c := by
  by_cases hd : d = '\\'
  · subst hd
    exact agrees_item_escape h hlength hc
  · refine ((local_primitive hd).agrees hlength).first
      (fun _ => uses_concatenation) fun t c' hrun => ?_
    have hused := (reads_primitive kept_true d hrun).1.length
    exact h.concatenation (by omega)

/-- In front of a character nothing is skipped with the closing text behind that is not skipped
without it. -/
theorem agrees_concatenation_item (hfuel : fuel ≤ fuel') (h : PatternsAgree fuel fuel')
    (hc : 2 * c.rest.length + 2 ≤ fuel + 1)
    (hskip : skipped c.enclosed = (skipped c).enclosed) {d : Char}
    (hhead : (skipped c).rest.head? = some d) :
    Agrees 1 (concatenation (fuel + 1) acc) (concatenation (fuel' + 1) acc) c := by
  have hsuffix := skipped_suffix c
  have hspace := hsuffix.length_le
  have hhead' : (skipped c.enclosed).rest.head? = some d := by rw [hskip, head?_enclosed hhead]
  have hlength := one_le_length hhead
  have hgo {x y : Reader Tree} (hagrees : Agrees 1 x y (skipped c))
      (hx : (concatenation (fuel + 1) acc).run c = x.run (skipped c))
      (hy : (concatenation (fuel' + 1) acc).run c.enclosed = y.run (skipped c.enclosed)) :
      Agrees 1 (concatenation (fuel + 1) acc) (concatenation (fuel' + 1) acc) c :=
    hagrees.moved hx (hy.trans (by rw [hskip])) hsuffix
  rcases head_cases d with hstop | rfl | rfl | rfl | ⟨least, most, hmark⟩ | hplain
  · refine .same (concatenation_run_stop ?_)
      ((concatenation_run_stop ?_).trans (by rw [hskip])) hsuffix
    · simpa [hhead] using hstop
    · simpa [hhead'] using hstop
  · refine hgo ?_ (concatenation_run_group hhead) (concatenation_run_group hhead')
    refine (local_opening.agrees hlength).first uses_behindOpening fun o c' hrun => ?_
    have hused := (uses_opening hrun).1.length
    exact agrees_behindOpening h (by omega) o
  · refine hgo ?_ (concatenation_run_class hhead) (concatenation_run_class hhead')
    refine ((classesAgree hfuel).tree (by omega) hlength).first
      (fun _ => uses_concatenation) fun t c' hrun => ?_
    have hused := ((uses_class fuel).1 hrun).1.length
    exact h.concatenation (by omega)
  · refine hgo (.repeatable fun p => ?_) (concatenation_run_count hhead)
      (concatenation_run_count hhead')
    refine (local_count.agrees hlength).first (fun _ => uses_concatenation) fun bounds c' hrun => ?_
    have hused := (reads_count hrun).1.length
    exact h.concatenation (by omega)
  · exact hgo (h.again (by omega) hlength) (concatenation_run_again hhead hmark)
      (concatenation_run_again hhead' hmark)
  · exact hgo (agrees_item_plain h hlength (by omega) d) (concatenation_run_plain hhead hplain)
      (concatenation_run_plain hhead' hplain)

theorem agrees_concatenation (hfuel : fuel ≤ fuel') (h : PatternsAgree fuel fuel')
    (hc : 2 * c.rest.length + 2 ≤ fuel + 1) :
    Agrees 1 (concatenation (fuel + 1) acc) (concatenation (fuel' + 1) acc) c := by
  rcases skipped_closing c with hskip | ⟨hopen, hskip⟩
  · cases hhead : (skipped c).rest.head? with
    | none =>
      have hhead' : (skipped c.enclosed).rest.head? = some ')' := by
        rw [hskip, head?_enclosed_nil hhead]
      refine .same (concatenation_run_stop (by simp [hhead])) ?_ (skipped_suffix c)
      rw [concatenation_run_stop (by simp [hhead']), hskip]
    | some d => exact agrees_concatenation_item hfuel h hc hskip hhead
  · have hdone : (concatenation (fuel' + 1) acc).run c.enclosed =
        .ok (.ofConcat acc.reverse, skipped c.enclosed) :=
      concatenation_run_stop (by simp [hskip])
    refine .apart (.inr hopen) fun b d hrun => ?_
    cases hdone.symm.trans hrun
    exact (congrArg List.length hskip).le.trans (Nat.zero_le 1)

end Steps

theorem patternsAgree {fuel fuel' : Nat} (hfuel : fuel ≤ fuel') : PatternsAgree fuel fuel' := by
  -- The text bounds the smaller fuel; the greater one only goes down with it.
  induction fuel generalizing fuel' with
  | zero => exact ⟨fun h => absurd h (Nat.not_succ_le_zero _),
    fun h => absurd h (Nat.not_succ_le_zero _),
      fun h => absurd h (Nat.not_succ_le_zero _)⟩
  | succ fuel ih =>
    obtain ⟨fuel', rfl⟩ : ∃ i, fuel' = i + 1 := ⟨fuel' - 1, by omega⟩
    have hless := Nat.le_of_succ_le_succ hfuel
    exact ⟨agrees_alternatives (ih hless), agrees_concatenation hless (ih hless),
      fun hc hlength => agrees_again (ih hless) hlength hc⟩

/-- The reader stops only in front of these characters or at the end of the text. -/
def StopsAt (ends : List Char) (x : Reader α) : Prop :=
  ∀ ⦃c a c'⦄, x.run c = .ok (a, c') → ∀ d ∈ c'.rest.head?, d ∈ ends

namespace StopsAt

variable {ends : List Char}

theorem later {x : Reader α} {f : α → Reader β} (hf : ∀ a, StopsAt ends (f a)) :
    StopsAt ends (x >>= f) := by
  intro c b d hrun
  obtain ⟨a, c', -, hrest⟩ := run_bind_eq_ok.mp hrun
  exact hf a hrest

theorem throw {e : PatternError} : StopsAt ends (throw e : Reader α) := by
  intro c a c' hrun
  cases hrun

theorem guard {p : Prop} [Decidable p] {e : PatternError} {next : Unit → Reader α}
    (h : StopsAt ends (next ())) :
    StopsAt ends (if p then MonadExcept.throw e >>= next else next ()) := by
  split
  · exact later fun _ => h
  · exact h

end StopsAt

section Stops

variable {fuel : Nat} {acc : List Tree}

theorem stopsAt_alternatives (hitems : ∀ acc, StopsAt [')', '|'] (concatenation fuel acc))
    (hmore : ∀ acc, StopsAt [')'] (alternatives fuel acc)) :
    StopsAt [')'] (alternatives (fuel + 1) acc) := by
  intro c t c' hrun
  obtain ⟨t₁, c₁, hfirst, hrun⟩ := run_bind_eq_ok.mp hrun
  rw [peek_bind_run] at hrun
  split at hrun
  · exact StopsAt.later (fun _ => hmore _) hrun
  · rename_i hbar
    cases hrun
    intro d hd
    rcases List.mem_pair.mp (hitems [] hfirst d hd) with rfl | rfl
    · exact List.mem_singleton.mpr rfl
    · exact absurd hd hbar

theorem stopsAt_behindOpening (hitems : ∀ acc, StopsAt [')', '|'] (concatenation fuel acc))
    (o : Opening) :
    StopsAt [')', '|'] (behindOpening fuel acc o) := by
  cases o with
  | alone change => exact .later fun _ => hitems _
  | group change =>
    exact .later fun _ => .later fun _ => .later fun _ => .later fun _ => .guard
      (.later fun _ => .later fun _ => hitems _)

theorem stopsAt_concatenation (hitems : ∀ acc, StopsAt [')', '|'] (concatenation fuel acc))
    (hagain : ∀ least most, StopsAt [')', '|'] (again least most fuel acc)) :
    StopsAt [')', '|'] (concatenation (fuel + 1) acc) := by
  intro c t c' hrun
  cases hhead : (skipped c).rest.head? with
  | none =>
    rw [concatenation_run_stop (by simp [hhead])] at hrun
    cases hrun
    simp [hhead]
  | some d =>
    rcases head_cases d with hstop | rfl | rfl | rfl | ⟨least, most, hmark⟩ | hplain
    · have hends : ∀ d' ∈ (skipped c).rest.head?, d' = ')' ∨
        d' = '|' := by simpa [hhead] using hstop
      rw [concatenation_run_stop hends] at hrun
      cases hrun
      exact fun d' hd' => List.mem_pair.mpr (hends d' hd')
    · rw [concatenation_run_group hhead] at hrun
      exact StopsAt.later (stopsAt_behindOpening hitems) hrun
    · rw [concatenation_run_class hhead] at hrun
      exact StopsAt.later (fun _ => hitems _) hrun
    · rw [concatenation_run_count hhead] at hrun
      exact StopsAt.later (fun _ => .later fun _ => hitems _) hrun
    · rw [concatenation_run_again hhead hmark] at hrun
      exact hagain _ _ hrun
    · rw [concatenation_run_plain hhead hplain] at hrun
      exact StopsAt.later (fun _ => hitems _) hrun

end Stops

/-- Alternatives stop only in front of a closing parenthesis, the items of one also in front of a
bar. -/
theorem stopsAt_pattern (fuel : Nat) (acc : List Tree) : StopsAt [')'] (alternatives fuel acc) ∧
    StopsAt [')', '|'] (concatenation fuel acc) ∧
    ∀ least most, StopsAt [')', '|'] (again least most fuel acc) := by
  induction fuel generalizing acc with
  | zero => exact ⟨.throw, .throw, fun _ _ => .throw⟩
  | succ fuel ih =>
    have hitems (acc : List Tree) : StopsAt [')', '|'] (concatenation fuel acc) := (ih acc).2.1
    exact ⟨stopsAt_alternatives hitems fun acc => (ih acc).1,
      stopsAt_concatenation hitems (ih acc).2.2, fun _ _ => .later fun _ => .later fun _ =>
        .later fun _ => hitems _⟩

end Pattern
end PullDecoration
