import PullDecoration.Proofs.Pattern.Reading

/-! What may open a group in a pattern: a name, flags up to a colon or up to a closing parenthesis,
or nothing. -/
namespace PullDecoration
namespace Pattern

open Reader

theorem takeWhile_mark {mark : Char} {name rest : List Char} (h : mark ∉ name) :
    (name ++ mark :: rest).takeWhile (fun d => decide (d ≠ mark)) = name := by
  induction name with
  | nil => simp
  | cons d name ih =>
    obtain ⟨hd, hname⟩ := not_or.mp (mt List.mem_cons.mpr h)
    rw [List.cons_append, List.takeWhile_cons, if_pos (by simpa using Ne.symm hd), ih hname]

theorem dropWhile_mark {mark : Char} {name rest : List Char} (h : mark ∉ name) :
    (name ++ mark :: rest).dropWhile (fun d => decide (d ≠ mark)) = mark :: rest := by
  have hsplit := List.takeWhile_append_dropWhile (p := fun d => decide (d ≠ mark))
    (l := name ++ mark :: rest)
  rw [takeWhile_mark h] at hsplit
  exact List.append_cancel_left hsplit

theorem groupName_eq_ok {c c' : Cursor} : groupName.run c = .ok ((), c') ↔
    ∃ first others rest, c.rest = first :: others ++ '>' :: rest ∧ '>' ∉ first :: others ∧
      isNameStart first = true ∧ (∀ d ∈ others, isNameChar d = true) ∧
      String.ofList (first :: others) ∉ c.names ∧
      c' = { c with rest, names := String.ofList (first :: others) :: c.names } := by
  constructor
  · intro hrun
    obtain ⟨_, _, hget, hrun⟩ := run_bind_eq_ok.mp hrun
    cases hget
    dsimp only at hrun
    by_cases hmem : '>' ∈ c.rest
    · obtain ⟨name, rest, hrest, hmark⟩ := List.eq_append_cons_of_mem hmem
      rw [hrest, takeWhile_mark hmark, List.drop_left] at hrun
      cases name with
      | nil => cases hrun
      | cons first others =>
        dsimp only at hrun
        split at hrun
        · cases hrun
        · rename_i hvalid
          split at hrun
          · cases hrun
          · rename_i hfresh
            cases hrun
            simp only [Bool.not_eq_true', not_or, Bool.not_eq_false] at hvalid
            exact ⟨first, others, rest, hrest, hmark, hvalid.1,
              List.all_eq_true.mp hvalid.2, hfresh, rfl⟩
    · have hname : c.rest.takeWhile (fun d => decide (d ≠ '>')) = c.rest :=
        List.takeWhile_eq_self_iff.mpr fun d hd => decide_eq_true fun heq => hmem (heq ▸ hd)
      rw [hname, List.drop_length] at hrun
      split at hrun
      · cases hrun
      · split at hrun <;> cases hrun
  · rintro ⟨first, others, rest, hrest, hmark, hfirst, hothers, hnames, rfl⟩
    have hname : c.rest.takeWhile (fun d => decide (d ≠ '>')) = first :: others := by
      rw [hrest, takeWhile_mark hmark]
    have hdrop : c.rest.drop (first :: others).length = '>' :: rest := by
      rw [hrest]
      simp
    have hall : others.all isNameChar = true := List.all_eq_true.mpr hothers
    refine run_bind_eq_ok.mpr ⟨c, c, rfl, ?_⟩
    dsimp only
    rw [hname]
    dsimp only
    rw [hdrop, hfirst, hall]
    simp only [Bool.not_true, Bool.false_eq_true, or_self, if_false, hnames]
    rfl

theorem uses_groupName : Uses 0 groupName := by
  intro c a c' hrun
  obtain ⟨first, others, rest, hrest, -, -, -, -, rfl⟩ := groupName_eq_ok.mp hrun
  have hsuffix : rest <:+ c.rest :=
    hrest ▸ (List.suffix_cons '>' rest).trans (List.suffix_append _ _)
  exact ⟨⟨hsuffix, hsuffix.length_le⟩, trivial⟩

theorem flags_suffix {change change' : FlagChange} {negated dangling : Bool} {cs rest : List Char}
    (h : flags change negated dangling cs = .ok (change', rest)) : rest <:+ cs := by
  fun_induction flags change negated dangling cs with
  | case1 => cases h
  | case2 => cases h
  | case3 =>
    cases h
    exact List.suffix_rfl
  | case4 => cases h
  | case5 change negated dangling cs _ _ ih => exact (ih h).trans (List.suffix_cons _ cs)
  | case6 => cases h
  | case7 => cases h
  | case8 change negated dangling c cs _ _ f _ _ ih => exact (ih h).trans (List.suffix_cons c cs)

theorem flags_ends {change change' : FlagChange} {negated dangling : Bool} {cs rest : List Char}
    (h : flags change negated dangling cs = .ok (change', rest)) :
    ∃ after, rest = ':' :: after ∨ rest = ')' :: after := by
  fun_induction flags change negated dangling cs with
  | case1 => cases h
  | case2 => cases h
  | case3 _ _ _ d cs hend =>
    cases h
    rcases hend with rfl | rfl
    · exact ⟨cs, .inl rfl⟩
    · exact ⟨cs, .inr rfl⟩
  | case4 => cases h
  | case5 _ _ _ _ _ _ ih => exact ih h
  | case6 => cases h
  | case7 => cases h
  | case8 _ _ _ _ _ _ _ _ _ _ ih => exact ih h

theorem flags_head {change change' : FlagChange} {negated dangling : Bool} {d : Char}
    {cs rest : List Char} (h : flags change negated dangling (d :: cs) = .ok (change', rest)) :
    d ≠ '=' ∧ d ≠ '!' ∧ d ≠ '<' ∧ d ≠ 'P' := by
  refine ⟨?_, ?_, ?_, ?_⟩
  all_goals
    rintro rfl
    simp [flags, flag?] at h

/-- A group's name begins behind these signs; with some characters behind it the last one would be
the sign of something else. -/
def NameBegins (cs rest : List Char) : Prop :=
  cs = '?' :: 'P' :: '<' :: rest ∨ cs = '?' :: '<' :: rest ∧ rest.head? ≠ some '=' ∧
  rest.head? ≠ some '!'

inductive Opens (c : Cursor) : Opening → Cursor → Prop
  | plain (h : c.rest.head? ≠ some '?') : Opens c (.group []) c
  | named {rest : List Char} {c' : Cursor} (h : NameBegins c.rest rest)
      (hname : groupName.run { c with rest } = .ok ((), c')) : Opens c (.group []) c'
  | alone {signs rest : List Char} {change : FlagChange} (h : c.rest = '?' :: signs)
      (hflags : flags [] false false signs = .ok (change, ')' :: rest)) (hne : change ≠ []) :
      Opens c (.alone change) { c with rest }
  | group {signs rest : List Char} {change : FlagChange} (h : c.rest = '?' :: signs)
      (hflags : flags [] false false signs = .ok (change, ':' :: rest)) :
      Opens c (.group change) { c with rest }

theorem NameBegins.suffix {cs rest : List Char} (h : NameBegins cs rest) : rest <:+ cs := by
  rcases h with h | ⟨h, -⟩
  · exact h ▸ List.suffix_append ['?', 'P', '<'] rest
  · exact h ▸ List.suffix_append ['?', '<'] rest

theorem Opens.suffix {c c' : Cursor} {o : Opening} (h : Opens c o c') : c'.rest <:+ c.rest := by
  cases h with
  | plain => exact List.suffix_rfl
  | named h hname => exact (uses_groupName hname).1.suffix.trans h.suffix
  | alone h hflags | group h hflags =>
    exact ((List.suffix_cons _ _).trans (flags_suffix hflags)).trans (h ▸ List.suffix_cons _ _)

def behindFlags (c : Cursor) (p : FlagChange × List Char) : Reader Opening :=
  match p.2 with
  | ')' :: rest => do
    if p.1.isEmpty then throw .nothingToRepeat
    set { c with rest }
    return .alone p.1
  | _ => do
    set { c with rest := p.2.drop 1 }
    return .group p.1

section Signs

variable {c d : Cursor} (hskip : skipped { c with rest := c.rest.drop 1 } = d)
include hskip

theorem opening_run_plain (h : d.rest.head? ≠ some '?') : opening.run c = .ok (.group [], d) := by
  rw [opening, bump_bind_run, space_bind_run, get_bind_run, hskip]
  split
  all_goals first
    | rfl
    | (rename_i hrest; simp [hrest] at h)

theorem opening_run_named {rest : List Char} (h : NameBegins d.rest rest) :
    opening.run c = (groupName >>= fun _ => pure (Opening.group [])).run { d with rest } := by
  rw [opening, bump_bind_run, space_bind_run, get_bind_run, hskip]
  rcases h with h | ⟨h, hequal, hbang⟩
  · rw [h]
    rfl
  · rw [h]
    split
    all_goals
      rename_i hcase
      first
        | cases hcase
        | exact (hcase _ rfl).elim
    · exact absurd rfl hequal
    · exact absurd rfl hbang
    · rfl
    · rename_i hother _
      exact (hother _ rfl).elim

theorem opening_run_flags {sign : Char} {signs : List Char} (h : d.rest = '?' :: sign :: signs)
    (hsign : sign ≠ '=' ∧ sign ≠ '!' ∧ sign ≠ '<' ∧ sign ≠ 'P') :
    opening.run c =
      ((liftM (flags [] false false (sign :: signs)) : Reader _) >>= behindFlags d).run d := by
  obtain ⟨hequal, hbang, hless, hletter⟩ := hsign
  rw [opening, bump_bind_run, space_bind_run, get_bind_run, hskip, h]
  split
  all_goals
    rename_i hcase
    first
      | cases hcase
      | exact (hcase _ rfl).elim
  all_goals first
    | contradiction
    | skip
  rfl

theorem opens_of_run {c' : Cursor} {o : Opening} (hrun : opening.run c = .ok (o, c')) :
    Opens d o c' := by
  rw [opening, bump_bind_run, space_bind_run, get_bind_run, hskip] at hrun
  split at hrun
  · cases hrun
  · cases hrun
  · cases hrun
  · cases hrun
  · rename_i rest hrest
    rw [set_bind_run] at hrun
    obtain ⟨⟨⟩, _, hname, hrun⟩ := run_bind_eq_ok.mp hrun
    cases hrun
    exact .named (.inl hrest) hname
  · rename_i rest hequal hbang hrest
    rw [set_bind_run] at hrun
    obtain ⟨⟨⟩, _, hname, hrun⟩ := run_bind_eq_ok.mp hrun
    cases hrun
    refine .named (.inr ⟨hrest, fun h => ?_, fun h => ?_⟩) hname
    · obtain ⟨tail, rfl⟩ := List.head?_eq_some_iff.mp h
      exact hequal tail rfl
    · obtain ⟨tail, rfl⟩ := List.head?_eq_some_iff.mp h
      exact hbang tail rfl
  · cases hrun
  · rename_i signs _ _ _ _ _ _ _ hrest
    obtain ⟨⟨change, rest⟩, hflags, hrun⟩ := lift_bind_run_eq_ok.mp hrun
    obtain ⟨after, rfl | rfl⟩ := flags_ends hflags
    · cases hrun
      exact .group hrest hflags
    · by_cases hne : change.isEmpty = true
      · simp only [hne, if_true] at hrun
        cases hrun
      · simp only [hne] at hrun
        cases hrun
        exact .alone hrest hflags fun h => hne (List.isEmpty_iff.mpr h)
  · rename_i hother
    cases hrun
    refine .plain fun h => ?_
    obtain ⟨signs, hrest⟩ := List.head?_eq_some_iff.mp h
    exact hother signs hrest

end Signs

theorem opening_eq_ok {c c' : Cursor} {o : Opening} :
    opening.run c = .ok (o, c') ↔ Opens (skipped { c with rest := c.rest.drop 1 }) o c' := by
  refine ⟨opens_of_run rfl, fun h => ?_⟩
  cases h with
  | plain h => exact opening_run_plain rfl h
  | named h hname => exact (opening_run_named rfl h).trans (run_bind_of_eq_ok hname)
  | @alone signs rest change h hflags hne =>
    cases signs with
    | nil => cases hflags
    | cons sign signs =>
      rw [opening_run_flags rfl h (flags_head hflags)]
      refine lift_bind_run_eq_ok.mpr ⟨_, hflags, ?_⟩
      simp only [behindFlags, List.isEmpty_iff, hne, if_false]
      rfl
  | @group signs rest change h hflags =>
    cases signs with
    | nil => cases hflags
    | cons sign signs =>
      rw [opening_run_flags rfl h (flags_head hflags)]
      exact lift_bind_run_eq_ok.mpr ⟨_, hflags, rfl⟩

theorem uses_opening : Uses 1 opening := by
  intro c o c' hrun
  have hsuffix := (opening_eq_ok.mp hrun).suffix
  exact ⟨(uses_bumpSpace (bumpSpace_run c)).1.trans (m := 0) ⟨hsuffix, hsuffix.length_le⟩, trivial⟩

end Pattern
end PullDecoration
