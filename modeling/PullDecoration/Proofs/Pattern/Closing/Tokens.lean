import PullDecoration.Proofs.Pattern.Closing.Agreement

/-! Numbers, escapes and counts with the closing text behind. A brace behind the mark of a word edge
is where they differ most: at the end of the text it stands for nothing, and with the closing text
behind it begins a count, which then fails. -/
namespace PullDecoration
namespace Pattern

open Reader

variable {α β : Type} {j k n m r : Nat} {c : Cursor}

theorem dropBlanks_closing (cs : List Char) :
    (cs ++ closing).dropWhile Text.isBlankChar = cs.dropWhile Text.isBlankChar ++ closing := by
  rw [List.dropWhile_append]
  split
  · rename_i hempty
    rw [List.isEmpty_iff.mp hempty]
    rfl
  · rfl

theorem local_dropBlanks :
    Local 0 0 k (modify fun c => { c with rest := c.rest.dropWhile Text.isBlankChar }) := by
  refine ⟨uses_dropBlanks, fun {c} _ => .same rfl ?_ (List.dropWhile_suffix _)⟩
  simp only [Cursor.enclosed, ← dropBlanks_closing]
  rfl

theorem local_decimal : Local 0 0 k decimal := by
  refine local_dropBlanks.first fun _ => .takeWhile (by decide) fun ds =>
    .takeWhile (by decide) fun _ => ?_
  exact .ite (.done none) (.ite (.done _) (.fail _))

theorem local_charOfHex (ds : List Char) : Local 0 0 k (charOfHex ds) := by
  unfold charOfHex
  split
  · exact .ite (.done _) (.fail _)
  · exact .fail _

theorem local_hexDigits (i : Nat) : Local 0 0 1 (hexDigits i) ∧
    Local 0 1 1 (hexDigits (i + 1)) := by
  have hnext {i : Nat} (h : Local 0 0 1 (hexDigits i)) : Local 0 1 1 (hexDigits (i + 1)) :=
    .peek (Nat.le_refl 2) (fun _ => ⟨_, rfl⟩) fun d => .guard
      (local_bumpSpace.first fun _ => h.first fun _ => .done _)
  induction i with
  | zero => exact ⟨.done [], hnext (.done [])⟩
  | succ i ih => exact ⟨ih.2.any, hnext ih.2.any⟩

theorem local_hexEscape (i : Nat) : Local 1 1 1 (hexEscape (i + 1)) := by
  have hbraced (ds : List Char) : Local 0 1 1 (do
      if (← peek).isNone then throw .escapeUnfinished
      bumpSpace
      if ds.isEmpty then throw .escapeHexEmpty
      return Sign.mk (← charOfHex ds) false) :=
    .peek (Nat.le_refl 2) (fun _ => ⟨_, rfl⟩) fun d => .guard (local_bumpSpace.first fun _ => .guard
      ((local_charOfHex ds).first fun _ => .done _))
  refine .bumpTo (Nat.le_refl 2) fun d => .ite ?_ ?_
  · refine local_bumpSpace.first fun _ =>
      .takeWhile_through (by decide) (by decide) (fun ds c hend => ?_) fun ds => ?_
    · dsimp only
      by_cases hany : (ds.any fun d => (Text.hexValue? d).isNone) = true
      · exact ⟨_, by rw [if_pos hany]; rfl⟩
      · exact ⟨_, by rw [if_neg hany, peek_bind_run, hend]; rfl⟩
    · exact .guard (hbraced ds).any
  · exact (local_hexDigits i).2.there.first fun ds => (local_charOfHex ds).first fun _ => .done _

theorem local_propertyEscape : Local 1 1 1 propertyEscape := by
  have hbraced (name : List Char) : Local 0 1 1 (do
      if (← peek).isNone then throw .escapeUnfinished
      bump
      return propertyOf name) :=
    .peek (Nat.le_refl 2) (fun _ => ⟨_, rfl⟩) fun d => .guard (local_bump.first fun _ => .done _)
  refine .bumpTo (Nat.le_refl 2) fun d =>
    .ite ?_ (.ite (.fail _) (local_bumpSpace.first fun _ => .done _))
  refine local_bumpSpace.first fun _ =>
    .takeWhile_through (by decide) (by decide) (fun ds c hend => ?_) fun ds => ?_
  · exact ⟨_, by rw [peek_bind_run, hend]; rfl⟩
  · exact (hbraced ds).any

theorem local_skipLazy : Local 0 0 k skipLazy :=
  .peek_same rfl (.done ()) fun _ => .ite local_bump.any (.done ())

theorem local_countBounds (least : Option Nat) (d : Char) :
    Local 1 0 2 (countBounds least (some d)) := by
  cases least with
  | none => exact .ite (.any (.bumpTo (Nat.le_refl 2) fun _ => .fail _)) (.fail _)
  | some least =>
    refine .ite (.any (.bumpTo (Nat.le_refl 2) fun _ => .ite (.done _) ?_)) (.done _)
    refine local_decimal.there.first fun most => ?_
    cases most with
    | none => exact .fail _
    | some most => exact .done _

theorem local_countEnd (bounds : Nat × Option Nat) : Local 0 1 1 (countEnd bounds) := by
  refine .peek (Nat.le_refl 2) (fun _ => ⟨_, rfl⟩) fun d => .guard ?_
  exact local_bumpSpace.first fun _ => local_skipLazy.first fun _ => .guard (.done _)

theorem local_count : Local 1 1 1 count := by
  have hbounds (least : Option Nat) : Local 0 1 1
      (peek >>= fun ch => countBounds least ch >>= countEnd) := by
    refine .peek (Nat.le_refl 2)
      (fun _ => ⟨_, run_bind_of_eq_error (by cases least <;> rfl)⟩) fun d => ?_
    exact (local_countBounds least d).bind local_countEnd (Nat.le_refl 2)
  rw [count_eq]
  exact .bumpTo (Nat.le_refl 2) fun d => (local_decimal.later hbounds).there

def wordEdgeName : Reader Anchor := do
  let name ← takeWhile isWordEdgeChar
  if (← peek) ≠ some '}' then throw .wordEdgeUnclosed
  bump
  match String.ofList name with
  | "start" => return .wordStart
  | "end" => return .wordEnd
  | "start-half" => return .wordStartHalf
  | "end-half" => return .wordEndHalf
  | _ => throw .wordEdgeUnrecognized

theorem local_wordEdgeName : Local 0 1 1 wordEdgeName := by
  refine .takeWhile (by decide) fun name =>
    .peek (Nat.le_refl 2) (fun _ => ⟨_, rfl⟩) fun d => .guard ?_
  refine local_bump.first fun _ => ?_
  split
  · exact .done _
  · exact .done _
  · exact .done _
  · exact .done _
  · exact .fail _

theorem bumpTo_run (e : PatternError) (c : Cursor) :
    (bumpTo e).run c = match (skipped { c with rest := c.rest.drop 1 }).rest.head? with
      | some d => .ok (d, skipped { c with rest := c.rest.drop 1 })
      | none => .error e := by
  unfold bumpTo
  rw [run_bind_of_eq_ok (bumpSpace_run c), peek_bind_run]
  cases (skipped { c with rest := c.rest.drop 1 }).rest.head? <;> rfl

theorem wordEdgeKind_run_of_ne (h : c.rest.head? ≠ some '{') :
    wordEdgeKind.run c = .ok (.wordEdge, c) := by
  unfold wordEdgeKind
  rw [peek_bind_run, if_pos h]
  rfl

theorem wordEdgeKind_run (h : c.rest.head? = some '{') :
    wordEdgeKind.run c = match (skipped { c with rest := c.rest.drop 1 }).rest.head? with
      | none => .error .wordEdgeUnfinished
      | some d =>
        if isWordEdgeChar d then wordEdgeName.run (skipped { c with rest := c.rest.drop 1 })
        else .ok (.wordEdge, c) := by
  unfold wordEdgeKind
  rw [peek_bind_run, if_neg (not_not_intro h), get_bind_run]
  have hbump := bumpTo_run .wordEdgeUnfinished c
  cases hhead : (skipped { c with rest := c.rest.drop 1 }).rest.head? with
  | none =>
    rw [hhead] at hbump
    exact run_bind_of_eq_error hbump
  | some d =>
    rw [hhead] at hbump
    rw [run_bind_of_eq_ok hbump]
    cases hd : isWordEdgeChar d
    · simp only [hd]
      rfl
    · simp only [hd]
      rfl

/-- The brace at the place is taken for that of a count, of which nothing is there but the closing
text. -/
structure Hanging (c : Cursor) : Prop where
  brace : c.rest.head? = some '{'
  past : (skipped { c with rest := c.rest.drop 1 }).rest = closing

/-- The reader fails; with the closing text behind it stops in front of a brace that nothing belongs
to. -/
def Hangs (x : Reader α) (a : α) (c : Cursor) : Prop :=
  (∃ e, x.run c = .error e) ∧ ∃ d, x.run c.enclosed = .ok (a, d) ∧ Hanging d

theorem wordEdgeKind_agrees : Agrees 1 wordEdgeKind wordEdgeKind c ∨
    Hangs wordEdgeKind .wordEdge c := by
  by_cases hbrace : c.rest.head? = some '{'
  · have hx := wordEdgeKind_run hbrace
    have hy := wordEdgeKind_run (head?_enclosed hbrace)
    have hrest := one_le_length hbrace
    have hdrop := drop_enclosed hrest
    rcases skipped_closing { c with rest := c.rest.drop 1 } with hskip | ⟨hopen, hskip⟩
    · cases hhead : (skipped { c with rest := c.rest.drop 1 }).rest.head? with
      | none =>
        rw [hhead] at hx
        rw [hdrop, hskip, head?_enclosed_nil hhead] at hy
        refine .inr ⟨⟨_, hx⟩, c.enclosed, hy, head?_enclosed hbrace, ?_⟩
        rw [hdrop, hskip, Cursor.enclosed, List.head?_eq_none_iff.mp hhead]
        rfl
      | some d =>
        have hhead' := head?_enclosed hhead
        rw [← hskip, ← hdrop] at hhead'
        rw [hhead] at hx
        rw [hhead'] at hy
        refine .inl ?_
        cases hd : isWordEdgeChar d with
        | false =>
          simp only [hd] at hx hy
          exact .same hx hy List.suffix_rfl
        | true =>
          simp only [hd, if_true] at hx hy
          exact ((local_bumpSpace.bind (fun _ => local_wordEdgeName) (Nat.zero_le _)).agrees
            hrest).congr hx hy
    · rw [hdrop, hskip] at hy
      refine .inl (.apart (.inr (hopen.of_suffix (List.drop_suffix 1 c.rest))) fun b d hrun => ?_)
      rw [hy] at hrun
      cases hrun
  · refine .inl (.same (wordEdgeKind_run_of_ne hbrace) (wordEdgeKind_run_of_ne ?_) List.suffix_rfl)
    cases hhead : c.rest.head? with
    | none => simp [head?_enclosed_nil hhead]
    | some d => rwa [head?_enclosed hhead, ← hhead]

theorem skipped_of_head {d : Char} (h : c.rest.head? = some d) (hblank : Text.isBlankChar d = false)
    (hmark : d ≠ '#') :
    skipped c = c := by
  obtain ⟨cs, hcs⟩ := List.head?_eq_some_iff.mp h
  unfold skipped
  split
  · rw [hcs, skipSpace, if_neg (by simp [hblank]), if_neg hmark, ← hcs]
  · rfl

theorem decimal_run_closing (h : c.rest = closing) : decimal.run c = .ok (none, c) := by
  obtain ⟨rest, spaced, names⟩ := c
  subst h
  rfl

theorem count_run_hanging (h : Hanging c) : ∃ e, count.run c = .error e := by
  have hbump := bumpTo_run .countUnclosed c
  rw [h.past] at hbump
  rw [count_eq, run_bind_of_eq_ok hbump, run_bind_of_eq_ok (decimal_run_closing h.past),
    peek_bind_run, h.past]
  exact ⟨_, rfl⟩

theorem escape_run_wordEdge (h : (c.rest.drop 1).head? = some 'b') :
    escape.run c = (wordEdgeKind >>= fun a => pure (Escape.anchor a)).run
      { c with rest := c.rest.drop 2 } := by
  unfold escape
  rw [bump_bind_run, peek_bind_run, h]
  simp only [bump_bind_run, List.drop_drop]

theorem escape_agrees_of_ne (h : 1 ≤ c.rest.length) (hb : (c.rest.drop 1).head? ≠ some 'b') :
    Agrees 1 escape escape c := by
  unfold escape
  refine .bump h (.peek (fun hend => ?_) fun d cs hrest => ?_)
  · have hsign : Uses 1 (bump >>= fun _ => pure (Escape.sign ⟨')', false⟩) : Reader Escape) :=
      uses_bump.first fun _ => reads_pure trivial
    exact .at_end hend ⟨_, rfl⟩ hsign (Nat.le_refl 2)
  · refine Local.agrees (r := 1) (n := 1) ?_ (by rw [hrest]; simp)
    have hone (e : Escape) : Local 1 1 1 (do bump; return e : Reader Escape) :=
      local_bump.first fun _ => .done _
    have hhex (i : Nat) :
        Local 1 1 1 (do return Escape.sign (← hexEscape (i + 1)) : Reader Escape) :=
      (local_hexEscape i).first fun _ => .done _
    have hproperty (negated : Bool) :
        Local 1 1 1 (do return Escape.property (← propertyEscape) negated : Reader Escape) :=
      local_propertyEscape.first fun _ => .done _
    dsimp only
    split
    · exact hhex 1
    · exact hhex 3
    · exact hhex 7
    · exact hproperty false
    · exact hproperty true
    iterate 17 exact hone _
    · exact absurd (congrArg List.head? hrest) hb
    · exact .ite (.fail _) (.ite (hone _) (.fail _))

theorem escape_agrees (h : 1 ≤ c.rest.length) :
    Agrees 1 escape escape c ∨ Hangs escape (.anchor .wordEdge) c := by
  by_cases hb : (c.rest.drop 1).head? = some 'b'
  · have hlength : 2 ≤ c.rest.length := by
      obtain ⟨cs, hcs⟩ := List.head?_eq_some_iff.mp hb
      have := congrArg List.length hcs
      simp only [List.length_drop, List.length_cons] at this
      omega
    have hb' : (c.enclosed.rest.drop 1).head? = some 'b' := by
      rw [Cursor.enclosed, List.drop_append_of_le_length h, List.head?_append, hb]
      rfl
    have hx := escape_run_wordEdge hb
    have hy := escape_run_wordEdge hb'
    rw [drop_enclosed hlength] at hy
    rcases wordEdgeKind_agrees
      (c := { c with rest := c.rest.drop 2 }) with hagrees | ⟨⟨e, he⟩, d, hd, hhanging⟩
    · exact .inl ((hagrees.first (fun _ => reads_pure trivial) fun _ _ _ => .done _).moved hx hy
        (List.drop_suffix 2 c.rest))
    · exact .inr ⟨⟨e, hx.trans (run_bind_of_eq_error he)⟩, d,
        hy.trans (run_bind_of_eq_ok hd), hhanging⟩
  · exact .inl (escape_agrees_of_ne h hb)

theorem local_primitive {d : Char} (hd : d ≠ '\\') : Local 1 1 1 (primitive d) := by
  unfold primitive
  split
  · exact absurd rfl hd
  · exact local_bump.first fun _ => .done _
  · exact local_bump.first fun _ => .done _
  · exact local_bump.first fun _ => .done _
  · exact local_bump.first fun _ => .done _

theorem primitive_escape_agrees (h : 1 ≤ c.rest.length) :
    Agrees 1 (primitive '\\') (primitive '\\') c ∨
    Hangs (primitive '\\') (.anchor .wordEdge) c := by
  rcases escape_agrees h with hagrees | ⟨⟨e, he⟩, d, hd, hhanging⟩
  · refine .inl (hagrees.first (fun e => ?_) fun e _ _ => ?_)
    · cases e with
      | sign | anchor | shorthand | property => exact reads_pure trivial
    · cases e with
      | sign | anchor | shorthand | property => exact .done _
  · exact .inr ⟨⟨e, run_bind_of_eq_error he⟩, d, run_bind_of_eq_ok hd, hhanging⟩

end Pattern
end PullDecoration
