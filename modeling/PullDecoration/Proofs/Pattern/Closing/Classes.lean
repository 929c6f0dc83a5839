import PullDecoration.Proofs.Pattern.Closing.Tokens

/-! Classes in brackets with the closing text behind. A class that is not closed takes the closing
text for items of its own. -/
namespace PullDecoration
namespace Pattern

open Reader

variable {α β : Type} {j k n m r : Nat} {c : Cursor}

theorem local_classItem : Local 0 1 1 classItem := by
  refine ⟨uses_classItem, fun {c} _ => .peek (fun hend => ?_) fun d cs hrest => ?_⟩
  · have hsign : Uses 1 (bump >>= fun _ => pure (ClassTree.sign ⟨')', false⟩) : Reader ClassTree) :=
      uses_bump.first fun _ => reads_pure trivial
    exact .at_end hend ⟨_, rfl⟩ hsign (Nat.le_refl 2)
  · have hlength : 1 ≤ c.rest.length := one_le_length (by rw [hrest, List.head?_cons])
    by_cases hd : d = '\\'
    · subst hd
      rcases escape_agrees hlength with hagrees | ⟨⟨e, he⟩, d, hd, -⟩
      · refine hagrees.first (fun e => ?_) fun e _ _ => ?_
        · cases e with
          | anchor => exact reads_throw
          | sign | shorthand | property => exact reads_pure trivial
        · cases e with
          | anchor => exact .fail _
          | sign | shorthand | property => exact .done _
      · refine .apart (.inl ⟨e, run_bind_of_eq_error he⟩) fun b d' hrun => ?_
        cases (run_bind_of_eq_ok hd).symm.trans hrun
    · refine Local.agrees (r := 1) (n := 1) ?_ hlength
      split
      · rename_i heq
        exact absurd (Option.some.inj heq) hd
      · exact local_bump.first fun _ => .done _
      · exact .fail _

theorem isBlankChar_mark {d : Char} (h : Text.isBlankChar d = true) : d ≠ ']' ∧ d ≠ '-' := by
  constructor
  · rintro rfl
    revert h
    decide
  · rintro rfl
    revert h
    decide

theorem head?_of_dropBlanks {cs : List Char}
    (h : ∀ d ∈ (cs.dropWhile Text.isBlankChar).head?, d = '#') :
    cs.head? ≠ some ']' ∧ cs.head? ≠ some '-' := by
  cases cs with
  | nil => simp
  | cons d cs =>
    cases hd : Text.isBlankChar d with
    | true =>
      obtain ⟨h1, h2⟩ := isBlankChar_mark hd
      exact ⟨fun h => h1 (Option.some.inj h), fun h => h2 (Option.some.inj h)⟩
    | false =>
      rw [List.dropWhile_cons, hd, if_neg Bool.false_ne_true] at h
      obtain rfl := h d rfl
      simp

/-- With the closing text behind, the same sign follows, unless none does that has a meaning in a
class. -/
theorem peekPast_enclosed (h : 1 ≤ c.rest.length) : peekPast c.enclosed = peekPast c ∨
    ∀ d ∈ [peekPast c, peekPast c.enclosed], d ≠ some ']' ∧ d ≠ some '-' := by
  unfold peekPast
  simp only [Cursor.enclosed, List.drop_append_of_le_length h]
  generalize c.rest.drop 1 = next
  cases c.spaced with
  | false =>
    cases next with
    | nil => exact .inr (by decide)
    | cons d cs => exact .inl rfl
  | true =>
    have hparenthesis : some ')' ≠ some ']' ∧ some ')' ≠ some '-' := by decide
    simp only [dropBlanks_closing, Bool.not_true, Bool.false_eq_true, if_false]
    cases hdrop : next.dropWhile Text.isBlankChar with
    | nil =>
      have hnext := head?_of_dropBlanks
        (show ∀ d ∈ (next.dropWhile Text.isBlankChar).head?, d = '#' by simp [hdrop])
      exact .inr (List.forall_mem_cons.mpr ⟨hnext, List.forall_mem_singleton.mpr hparenthesis⟩)
    | cons d cs =>
      by_cases hd : d = '#'
      · subst hd
        simp only [List.cons_append, dropBlanks_closing]
        cases hcomment : cs.dropWhile Text.isBlankChar with
        | nil =>
          have hmark : ∀ d ∈ (next.dropWhile Text.isBlankChar).head?, d = '#' := by simp [hdrop]
          have hnext := head?_of_dropBlanks hmark
          exact .inr (List.forall_mem_cons.mpr ⟨hnext, List.forall_mem_singleton.mpr hparenthesis⟩)
        | cons d' ds => exact .inl rfl
      · left
        simp only [List.cons_append]

theorem peekPast_enclosed_iff (h : 1 ≤ c.rest.length) :
    peekPast c.enclosed = some ']' ∨ peekPast c.enclosed = some '-' ↔
    peekPast c = some ']' ∨ peekPast c = some '-' := by
  rcases peekPast_enclosed h with heq | hnone
  · rw [heq]
  · obtain ⟨⟨h1, h2⟩, hnone⟩ := List.forall_mem_cons.mp hnone
    obtain ⟨h3, h4⟩ := List.forall_mem_singleton.mp hnone
    exact iff_of_false (not_or.mpr ⟨h3, h4⟩) (not_or.mpr ⟨h1, h2⟩)

def rangeFrom (low : ClassTree) : Reader ClassTree := do
  let _ ← bumpTo .classUnclosed
  match low, ← classItem with
  | .sign l, .sign h => if l.char ≤ h.char then return .range l h else throw .classRangeInvalid
  | _, _ => throw .classRangeLiteral

theorem local_rangeFrom (low : ClassTree) : Local 1 0 2 (rangeFrom low) := by
  have hitem : Local 1 0 2 classItem := (local_classItem.of_le (Nat.le_succ 1)).any.there
  refine .any (.bumpTo (Nat.le_refl 2) fun _ => hitem.first fun high => ?_)
  split
  · exact .ite (.done _) (.fail _)
  · exact .fail _

theorem local_classRange : Local 0 1 2 classRange := by
  have hitem : Local 0 1 2 classItem := local_classItem.of_le (Nat.le_succ 1)
  refine hitem.first fun low => local_space.later fun _ =>
    .peek (Nat.le_refl 2) (fun _ => ⟨_, rfl⟩) fun d => ?_
  have hhigh := local_rangeFrom low
  refine ⟨uses_get.first fun c => .ite (reads_pure trivial) hhigh.uses, fun {c} hc => ?_⟩
  by_cases hstop : d ≠ '-' ∨ peekPast c = some ']' ∨ peekPast c = some '-'
  · have hstop' := hstop.imp_right (peekPast_enclosed_iff hc).mpr
    exact .congr (.done low) (by rw [get_bind_run, if_pos hstop])
      (by rw [get_bind_run, if_pos hstop'])
  · have hstop' := mt (Or.imp_right (peekPast_enclosed_iff hc).mp) hstop
    refine (hhigh.agrees hc).congr ((get_bind_run _ _).trans ?_) ((get_bind_run _ _).trans ?_)
    · exact congrArg (fun x : Reader ClassTree => x.run c) (if_neg hstop)
    · exact congrArg (fun x : Reader ClassTree => x.run c.enclosed) (if_neg hstop')

theorem local_classStart : Local 1 1 2 classStart := by
  have hitems (negated : Bool) (items : List ClassTree) : Local 0 0 2 (do
      if items.isEmpty ∧ (← peek) = some ']' then
        let _ ← bumpTo .classUnclosed
        return (negated, [ClassTree.sign ⟨']', false⟩])
      return (negated, items) : Reader (Bool × List ClassTree)) := by
    refine .peek_same (by simp) ?_ fun d =>
      .ite (.any (.bumpTo (Nat.le_refl 2) fun _ => .done _)) (.done _)
    rw [if_neg (by simp)]
    exact .done _
  have hdashes (negated : Bool) : Local 1 0 2 (do
      let dashes ← takeWhile (· = '-')
      if (← peek).isNone then throw .classUnclosed
      let items := dashes.map fun d => ClassTree.sign ⟨d, false⟩
      if items.isEmpty ∧ (← peek) = some ']' then
        let _ ← bumpTo .classUnclosed
        return (negated, [ClassTree.sign ⟨']', false⟩])
      return (negated, items) : Reader (Bool × List ClassTree)) :=
    .there (.takeWhile (by decide) fun dashes => .peek (Nat.le_refl 2)
      (fun _ => ⟨_, rfl⟩) fun d => .guard
      (hitems negated _).there)
  refine .bumpTo (Nat.le_refl 2) fun d => ?_
  dsimp only
  split
  · exact .any (.bumpTo (Nat.le_refl 2) fun _ => hdashes _)
  · exact hdashes _

/-- What ends in a character that the closing text has not is in front of it. -/
theorem of_append_closing {cs back : List Char} (front : List Char) {d : Char}
    (h : cs ++ closing = front ++ d :: back) (hd : d ∉ closing) :
    ∃ rest, back = rest ++ closing ∧ cs = front ++ d :: rest := by
  rcases List.append_eq_append_iff.mp h with ⟨as, -, hback⟩ | ⟨bs, hfront, hback⟩
  · exact absurd (hback ▸ List.mem_append_right as List.mem_cons_self) hd
  · cases bs with
    | nil => exact absurd ((List.nil_append _).symm.trans hback.symm ▸ List.mem_cons_self) hd
    | cons d' bs =>
      obtain ⟨rfl, rfl⟩ := List.cons.inj hback
      exact ⟨bs, rfl, hfront⟩

theorem posixClass?_closing (cs : List Char) :
    posixClass? (cs ++ closing) = (posixClass? cs).map fun p => (p.1, p.2 ++ closing) := by
  cases h : posixClass? cs with
  | some p =>
    obtain ⟨negated, name, hname, ht, hcs⟩ := posixClass?_eq_some.mp h
    exact posixClass?_eq_some.mpr ⟨negated, name, hname, ht, by simp [hcs]⟩
  | none =>
    refine Option.eq_none_iff_forall_ne_some.mpr fun p hp => ?_
    obtain ⟨negated, name, hname, ht, hcs⟩ := posixClass?_eq_some.mp hp
    obtain ⟨rest, -, hrest⟩ := of_append_closing (d := ']')
      ('[' :: ':' :: ((if negated then ['^'] else []) ++ name.toList ++ [':']))
      (by simpa using hcs) (by decide)
    rw [posixClass?_eq_some.mpr ⟨negated, name, hname, rfl, by simpa using hrest⟩] at h
    cases h

theorem setOp?_eq_some {cs : List Char} {op : SetOp} : setOp? cs = some op ↔
    (cs.take 2 = ['&', '&'] ∧ op = .intersection) ∨ (cs.take 2 = ['-', '-'] ∧ op = .difference) ∨
      (cs.take 2 = ['~', '~'] ∧ op = .symmetricDifference) := by
  match cs with
  | [] => simp [setOp?]
  | [d] => simp [setOp?]
  | d :: d' :: ds =>
    simp only [List.take_succ_cons, List.take_zero, List.cons.injEq, and_true]
    constructor
    · intro h
      unfold setOp? at h
      split at h <;> simp_all
    · rintro (⟨⟨rfl, rfl⟩, rfl⟩ | ⟨⟨rfl, rfl⟩, rfl⟩ | ⟨⟨rfl, rfl⟩, rfl⟩)
      all_goals rfl

theorem setOp?_closing (cs : List Char) : setOp? (cs ++ closing) = setOp? cs := by
  refine Option.ext fun op => ?_
  rw [setOp?_eq_some, setOp?_eq_some]
  match cs with
  | [] => simp [closing]
  | [d] => simp [closing]
  | d :: d' :: ds => simp

theorem setOp?_length {cs : List Char} {op : SetOp} (h : setOp? cs = some op) : 2 ≤ cs.length := by
  match cs with
  | [] => cases h
  | [d] => simp [setOp?] at h
  | d :: d' :: ds => simp

section ClassInside

variable {fuel : Nat} {before : Option (ClassTree × SetOp)} {items : List ClassTree}

theorem classInside_run_end (h : (skipped c).rest = []) :
    (classInside (fuel + 1) before items).run c = .error .classUnclosed := by
  rw [classInside, space_bind_run, get_bind_run, h]
  rfl

theorem classInside_run_posix {t : ClassTree} {rest : List Char}
    (h : posixClass? (skipped c).rest = some (t, rest)) :
    (classInside (fuel + 1) before items).run c =
      (classInside fuel before (items ++ [t])).run { skipped c with rest } := by
  obtain ⟨begun, hsplit⟩ := posixClass?_suffix h
  rw [classInside, space_bind_run, get_bind_run]
  simp only [hsplit, List.cons_append] at h ⊢
  rw [h]
  rfl

theorem classInside_run_bracket (hhead : (skipped c).rest.head? = some '[')
    (h : posixClass? (skipped c).rest = none) :
    (classInside (fuel + 1) before items).run c =
      (classTree fuel >>= fun t => classInside fuel before (items ++ [t])).run (skipped c) := by
  obtain ⟨cs, hrest⟩ := List.head?_eq_some_iff.mp hhead
  rw [classInside, space_bind_run, get_bind_run]
  simp only [hrest] at h ⊢
  rw [h]

theorem classInside_run_close (hhead : (skipped c).rest.head? = some ']') :
    (classInside (fuel + 1) before items).run c =
      .ok (joined before items, { skipped c with rest := (skipped c).rest.drop 1 }) := by
  obtain ⟨cs, hrest⟩ := List.head?_eq_some_iff.mp hhead
  rw [classInside, space_bind_run, get_bind_run]
  simp only [hrest]
  rw [bump_bind_run, hrest]
  rfl

theorem classInside_run_op {op : SetOp} (h : setOp? (skipped c).rest = some op) :
    (classInside (fuel + 1) before items).run c =
      (classInside fuel (some (joined before items, op)) []).run
        { skipped c with rest := (skipped c).rest.drop 2 } := by
  rw [classInside, space_bind_run, get_bind_run]
  split
  · rename_i hrest
    simp [hrest, setOp?] at h
  · rename_i hrest
    simp [hrest, setOp?] at h
  · rename_i hrest
    simp [hrest, setOp?] at h
  · rw [h]
    rfl

theorem classInside_run_range {d : Char} (hhead : (skipped c).rest.head? = some d) (hopen : d ≠ '[')
    (hclose : d ≠ ']') (h : setOp? (skipped c).rest = none) :
    (classInside (fuel + 1) before items).run c =
      (classRange >>= fun t => classInside fuel before (items ++ [t])).run (skipped c) := by
  rw [classInside, space_bind_run, get_bind_run]
  split
  · rename_i hrest
    simp [hrest] at hhead
  · rename_i hrest
    simp [hrest, hopen.symm] at hhead
  · rename_i hrest
    simp [hrest, hclose.symm] at hhead
  · rw [h]

end ClassInside

/-- With enough fuel for the text, classes are read the same with the closing text behind. -/
structure ClassesAgree (fuel fuel' : Nat) : Prop where
  tree {c : Cursor} (h : 2 * c.rest.length + 1 ≤ fuel) (hlength : 1 ≤ c.rest.length) :
    Agrees 1 (classTree fuel) (classTree fuel') c
  inside {c : Cursor} {before : Option (ClassTree × SetOp)} {items : List ClassTree}
    (h : 2 * c.rest.length + 2 ≤ fuel) :
    Agrees 1 (classInside fuel before items) (classInside fuel' before items) c

section Steps

variable {fuel fuel' : Nat} {before : Option (ClassTree × SetOp)} {items : List ClassTree}

theorem uses_classInside : Uses 1 (classInside fuel before items) :=
  (uses_class fuel).2 before items

theorem agrees_classTree (h : ClassesAgree fuel fuel') (hlength : 1 ≤ c.rest.length)
    (hc : 2 * c.rest.length + 1 ≤ fuel + 1) :
    Agrees 1 (classTree (fuel + 1)) (classTree (fuel' + 1)) c := by
  refine (local_classStart.agrees hlength).bind (m := 1)
    (fun _ => uses_classInside.first fun _ => reads_pure trivial)
    (Nat.le_refl 2) fun start c' hrun => ?_
  have hused := (uses_classStart hrun).1.length
  exact (h.inside (by omega)).first (fun _ => reads_pure trivial) fun _ _ _ => .done _

section Item

variable (hskip : skipped c.enclosed = (skipped c).enclosed)
include hskip

theorem setOp?_skipped : setOp? (skipped c.enclosed).rest = setOp? (skipped c).rest := by
  rw [hskip]
  exact setOp?_closing _

theorem posixClass?_skipped : posixClass? (skipped c.enclosed).rest =
    (posixClass? (skipped c).rest).map fun p => (p.1, p.2 ++ closing) := by
  rw [hskip]
  exact posixClass?_closing _

theorem agrees_classInside_end (hhead : (skipped c).rest.head? = none) :
    Agrees 1 (classInside (fuel + 1) before items) (classInside (fuel' + 1) before items) c := by
  have hmore (t : ClassTree) : Uses 1 (classInside fuel' before (items ++ [t])) := uses_classInside
  have hnil := List.head?_eq_none_iff.mp hhead
  have hrest : (skipped c.enclosed).rest = closing := by
    rw [hskip, Cursor.enclosed, hnil, List.nil_append]
  refine .apart (.inl ⟨_, classInside_run_end hnil⟩) fun b d hrun => ?_
  rw [classInside_run_range (d := ')') (by rw [hrest]; rfl) (by decide) (by decide)
    (by rw [hrest]; rfl)] at hrun
  have hused := ((uses_classRange.first fun t => (hmore t).any) hrun).1.length
  rwa [hrest] at hused

theorem agrees_classInside_bracket (h : ClassesAgree fuel fuel')
    (hc : 2 * c.rest.length + 2 ≤ fuel + 1) (hhead : (skipped c).rest.head? = some '[') :
    Agrees 1 (classInside (fuel + 1) before items) (classInside (fuel' + 1) before items) c := by
  have hsuffix := skipped_suffix c
  have hspace := hsuffix.length_le
  have hhead' : (skipped c.enclosed).rest.head? = some '[' := by rw [hskip, head?_enclosed hhead]
  have hposix := posixClass?_skipped hskip
  cases hnamed : posixClass? (skipped c).rest with
  | none =>
    rw [hnamed] at hposix
    refine Agrees.moved ?_ (classInside_run_bracket hhead hnamed)
      ((classInside_run_bracket hhead' hposix).trans (by rw [hskip])) hsuffix
    have hlength := one_le_length hhead
    refine (h.tree (by omega) hlength).first (fun _ => uses_classInside.any) fun t c' hrun => ?_
    have hused := ((uses_class fuel).1 hrun).1.length
    exact h.inside (by omega)
  | some p =>
    obtain ⟨t, rest⟩ := p
    rw [hnamed] at hposix
    obtain ⟨begun, hsplit⟩ := posixClass?_suffix hnamed
    have hshorter := congrArg List.length hsplit
    simp only [List.length_append, List.length_cons] at hshorter
    refine Agrees.moved (d := { skipped c with rest }) (h.inside ?_) (classInside_run_posix hnamed)
      ((classInside_run_posix hposix).trans (by rw [hskip]; rfl))
      (List.IsSuffix.trans ⟨_, hsplit.symm⟩ hsuffix)
    simp only
    omega

theorem agrees_classInside_sign (h : ClassesAgree fuel fuel')
    (hc : 2 * c.rest.length + 2 ≤ fuel + 1) {d : Char} (hhead : (skipped c).rest.head? = some d)
    (hbracket : d ≠ '[') :
    Agrees 1 (classInside (fuel + 1) before items) (classInside (fuel' + 1) before items) c := by
  have hsuffix := skipped_suffix c
  have hspace := hsuffix.length_le
  have hlength := one_le_length hhead
  have hhead' : (skipped c.enclosed).rest.head? = some d := by rw [hskip, head?_enclosed hhead]
  have hop := setOp?_skipped hskip
  by_cases hclose : d = ']'
  · subst hclose
    refine .same (classInside_run_close hhead) ((classInside_run_close hhead').trans ?_)
      ((List.drop_suffix 1 _).trans hsuffix)
    rw [hskip, ← drop_enclosed hlength]
  · cases hoperation : setOp? (skipped c).rest with
    | none =>
      refine Agrees.moved ?_ (classInside_run_range hhead hbracket hclose hoperation)
        ((classInside_run_range hhead' hbracket hclose (hop.trans hoperation)).trans
          (by rw [hskip])) hsuffix
      refine (local_classRange.agrees (Nat.zero_le _)).bind (m := 1)
        (fun _ => uses_classInside) (Nat.le_refl 2)
        fun t c' hrun => ?_
      have hused := (uses_classRange hrun).1.length
      exact h.inside (by omega)
    | some op =>
      have htwo := setOp?_length hoperation
      refine Agrees.moved (h.inside ?_) (classInside_run_op hoperation)
        ((classInside_run_op (hop.trans hoperation)).trans (by rw [hskip, drop_enclosed htwo]))
        ((List.drop_suffix 2 _).trans hsuffix)
      simp only [List.length_drop]
      omega

end Item

theorem agrees_classInside (h : ClassesAgree fuel fuel') (hc : 2 * c.rest.length + 2 ≤ fuel + 1) :
    Agrees 1 (classInside (fuel + 1) before items) (classInside (fuel' + 1) before items) c := by
  rcases skipped_closing c with hskip | ⟨hopen, hskip⟩
  · cases hhead : (skipped c).rest.head? with
    | none => exact agrees_classInside_end hskip hhead
    | some d =>
      by_cases hbracket : d = '['
      · subst hbracket
        exact agrees_classInside_bracket hskip h hc hhead
      · exact agrees_classInside_sign hskip h hc hhead hbracket
  · refine .apart (.inr hopen) fun b d hrun => ?_
    rw [classInside_run_end hskip] at hrun
    cases hrun

end Steps

theorem classesAgree {fuel fuel' : Nat} (hfuel : fuel ≤ fuel') : ClassesAgree fuel fuel' := by
  induction fuel generalizing fuel' with
  | zero => exact ⟨fun h => absurd h (Nat.not_succ_le_zero _),
    fun h => absurd h (Nat.not_succ_le_zero _)⟩
  | succ fuel ih =>
    obtain ⟨fuel', rfl⟩ : ∃ i, fuel' = i + 1 := ⟨fuel' - 1, by omega⟩
    have hless := ih (Nat.le_of_succ_le_succ hfuel)
    exact ⟨fun hc hlength => agrees_classTree hless hlength hc, agrees_classInside hless⟩

end Pattern
end PullDecoration
