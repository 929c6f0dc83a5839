import PullDecoration.Proofs.Pattern.Closing.Classes

/-! What opens a group, with the closing text behind. Names end in front of it; flags that are not
ended are ended by its parenthesis, which then is missing where the pattern should end. -/
namespace PullDecoration
namespace Pattern

open Reader

variable {α β : Type} {j k n m r : Nat} {c : Cursor}

theorem flags_closing {change change' : FlagChange} {negated dangling : Bool} {cs rest : List Char}
    (h : flags change negated dangling cs = .ok (change', rest)) :
    flags change negated dangling (cs ++ closing) = .ok (change', rest ++ closing) := by
  fun_induction flags change negated dangling cs with
  | case1 => cases h
  | case2 => cases h
  | case3 change negated dangling d cs hend hdangling =>
    cases h
    rw [List.cons_append, flags, if_pos hend, if_neg hdangling]
  | case4 => cases h
  | case5 change negated dangling cs hend hnegated ih =>
    rw [List.cons_append, flags, if_neg hend, if_pos rfl, if_neg hnegated]
    exact ih h
  | case6 => cases h
  | case7 => cases h
  | case8 change negated dangling d cs hend hdash f hflag hdup ih =>
    rw [List.cons_append, flags, if_neg hend, if_neg hdash, hflag]
    dsimp only
    rw [if_neg hdup]
    exact ih h

theorem of_flags_closing {change change' : FlagChange} {negated dangling : Bool}
    {cs rest : List Char}
    (h : flags change negated dangling (cs ++ closing) = .ok (change', rest)) :
    rest = closing ∨ ∃ rest', rest = rest' ++ closing ∧
    flags change negated dangling cs = .ok (change', rest') := by
  fun_induction flags change negated dangling cs with
  | case1 change negated dangling =>
    left
    rw [List.nil_append, closing, flags, if_pos (.inr rfl)] at h
    split at h
    · cases h
    · cases h
      rfl
  | case2 change negated d cs hend =>
    rw [List.cons_append, flags, if_pos hend, if_pos rfl] at h
    cases h
  | case3 change negated dangling d cs hend hdangling =>
    rw [List.cons_append, flags, if_pos hend, if_neg hdangling] at h
    cases h
    exact .inr ⟨_, rfl, rfl⟩
  | case4 change dangling cs hend =>
    rw [List.cons_append, flags, if_neg hend, if_pos rfl, if_pos rfl] at h
    cases h
  | case5 change negated dangling cs hend hnegated ih =>
    rw [List.cons_append, flags, if_neg hend, if_pos rfl, if_neg hnegated] at h
    exact ih h
  | case6 change negated dangling d cs hend hdash hflag =>
    rw [List.cons_append, flags, if_neg hend, if_neg hdash, hflag] at h
    cases h
  | case7 change negated dangling d cs hend hdash f hflag hdup =>
    rw [List.cons_append, flags, if_neg hend, if_neg hdash, hflag] at h
    dsimp only at h
    rw [if_pos hdup] at h
    cases h
  | case8 change negated dangling d cs hend hdash f hflag hdup ih =>
    rw [List.cons_append, flags, if_neg hend, if_neg hdash, hflag] at h
    dsimp only at h
    rw [if_neg hdup] at h
    exact ih h

theorem groupName_closing {c c' : Cursor} (h : groupName.run c = .ok ((), c')) :
    groupName.run c.enclosed = .ok ((), c'.enclosed) := by
  obtain ⟨first, others, rest, hrest, hmark, hfirst, hothers, hfresh, rfl⟩ := groupName_eq_ok.mp h
  refine groupName_eq_ok.mpr
    ⟨first, others, rest ++ closing, ?_, hmark, hfirst, hothers, hfresh, rfl⟩
  simp [Cursor.enclosed, hrest]

theorem of_groupName_closing {c d : Cursor} (h : groupName.run c.enclosed = .ok ((), d)) :
    ∃ c', d = c'.enclosed ∧ groupName.run c = .ok ((), c') := by
  obtain ⟨first, others, rest, hrest, hmark, hfirst, hothers, hfresh, rfl⟩ := groupName_eq_ok.mp h
  obtain ⟨rest', rfl, hrest'⟩ := of_append_closing (first :: others) hrest (by decide)
  exact ⟨_, rfl, groupName_eq_ok.mpr
    ⟨first, others, rest', hrest', hmark, hfirst, hothers, hfresh, rfl⟩⟩

theorem NameBegins.enclosed {cs rest : List Char} (h : NameBegins cs rest) :
    NameBegins (cs ++ closing) (rest ++ closing) := by
  have hhead {d : Char} (hd : d ≠ ')') (hrest : rest.head? ≠ some d) :
      (rest ++ closing).head? ≠ some d :=
    head?_enclosed_ne (c := ⟨rest, false, []⟩) hrest hd
  rcases h with rfl | ⟨rfl, hequal, hbang⟩
  · exact .inl rfl
  · exact .inr ⟨rfl, hhead (by decide) hequal, hhead (by decide) hbang⟩

theorem NameBegins.of_enclosed {cs rest : List Char} (h : NameBegins (cs ++ closing) rest) :
    ∃ rest', rest = rest' ++ closing ∧ NameBegins cs rest' := by
  rcases h with h | ⟨h, hequal, hbang⟩
  · obtain ⟨rest', rfl, hcs⟩ := of_append_closing ['?', 'P'] h (by decide)
    exact ⟨rest', rfl, .inl hcs⟩
  · obtain ⟨rest', rfl, hcs⟩ := of_append_closing ['?'] h (by decide)
    refine ⟨rest', rfl, .inr ⟨hcs, fun heq => hequal ?_, fun heq => hbang ?_⟩⟩
    · rw [List.head?_append, heq]
      rfl
    · rw [List.head?_append, heq]
      rfl

theorem Opens.enclosed {c c' : Cursor} {o : Opening} (h : Opens c o c') :
    Opens c.enclosed o c'.enclosed := by
  cases h with
  | plain h => exact .plain (head?_enclosed_ne h (by decide))
  | named h hname => exact .named h.enclosed (groupName_closing hname)
  | alone h hflags hne => exact .alone (by simp [Cursor.enclosed, h]) (flags_closing hflags) hne
  | group h hflags => exact .group (by simp [Cursor.enclosed, h]) (flags_closing hflags)

/-- A group that opens with the closing text behind opens without it, unless flags go up to the
parenthesis there. -/
theorem Opens.of_enclosed {c d : Cursor} {o : Opening} (h : Opens c.enclosed o d) :
    d.rest.length ≤ 1 ∨ ∃ c', d = c'.enclosed ∧ Opens c o c' := by
  have hsigns {signs : List Char} (h : c.enclosed.rest = '?' :: signs) :
      ∃ signs', signs = signs' ++ closing ∧ c.rest = '?' :: signs' :=
    of_append_closing [] h (by decide)
  cases h with
  | plain h =>
    refine .inr ⟨c, rfl, .plain fun heq => h ?_⟩
    rw [head?_enclosed heq]
  | named h hname =>
    obtain ⟨rest', rfl, hbegins⟩ := h.of_enclosed
    obtain ⟨c', rfl, hname'⟩ := of_groupName_closing (c := { c with rest := rest' }) hname
    exact .inr ⟨c', rfl, .named hbegins hname'⟩
  | alone h hflags hne =>
    obtain ⟨signs', rfl, hrest⟩ := hsigns h
    rcases of_flags_closing hflags with hend | ⟨rest', hend, hflags'⟩
    · cases hend
      exact .inl (Nat.le_refl 1)
    · obtain ⟨after, rfl | rfl⟩ := flags_ends hflags'
      · cases hend
      · cases hend
        exact .inr ⟨{ c with rest := after }, rfl, .alone hrest hflags' hne⟩
  | group h hflags =>
    obtain ⟨signs', rfl, hrest⟩ := hsigns h
    rcases of_flags_closing hflags with hend | ⟨rest', hend, hflags'⟩
    · cases hend
    · obtain ⟨after, rfl | rfl⟩ := flags_ends hflags'
      · cases hend
        exact .inr ⟨{ c with rest := after }, rfl, .group hrest hflags'⟩
      · cases hend

theorem local_opening : Local 1 1 1 opening := by
  refine ⟨uses_opening, fun {c} hc => ?_⟩
  have hsuffix := List.drop_suffix 1 c.rest
  have hfail (hx : ¬ ∃ o c', opening.run c = .ok (o, c')) : ∃ e, opening.run c = .error e := by
    cases h : opening.run c with
    | error e => exact ⟨e, rfl⟩
    | ok p => exact absurd ⟨p.1, p.2, h⟩ hx
  rcases skipped_closing { c with rest := c.rest.drop 1 } with hskip | ⟨hopen, hskip⟩
  · have hopens {o : Opening} {d : Cursor} : opening.run c.enclosed = .ok (o, d) ↔
        Opens (skipped { c with rest := c.rest.drop 1 }).enclosed o d := by
      rw [opening_eq_ok, drop_enclosed hc, hskip]
    by_cases hx : ∃ o c', opening.run c = .ok (o, c')
    · obtain ⟨o, c', hx⟩ := hx
      exact .same hx (hopens.mpr (opening_eq_ok.mp hx).enclosed) (uses_opening hx).1.suffix
    · refine .apart (.inl (hfail hx)) fun o d hrun => ?_
      rcases (hopens.mp hrun).of_enclosed with hleft | ⟨c', -, hopens'⟩
      · exact hleft
      · exact absurd ⟨o, c', opening_eq_ok.mpr hopens'⟩ hx
  · refine .apart (.inr (hopen.of_suffix hsuffix)) fun o d hrun => ?_
    rw [opening_eq_ok, drop_enclosed hc] at hrun
    have hleft := hrun.suffix.length_le
    rw [hskip] at hleft
    exact hleft.trans (Nat.zero_le 1)

end Pattern
end PullDecoration
