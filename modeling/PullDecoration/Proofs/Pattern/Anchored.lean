import PullDecoration.Proofs.Pattern.Closing.Patterns
import PullDecoration.Proofs.Pattern.Matching

/-! A pattern between the marks for start and end. It is compiled there exactly as it is by itself,
but for three kinds of text: one with a closing parenthesis that nothing opens, which pairs with the
group around it; one with a comment left open, which swallows what closes that group; and one for
which the group is a level or some states too many. -/
namespace PullDecoration
namespace Pattern

open Reader

variable {α β : Type} {c : Cursor} {s : String} {x : Regex}

def Cursor.start (cs : List Char) : Cursor := ⟨cs, false, []⟩

def tree (cs : List Char) : Except PatternError Tree := do
  let (t, cursor) ← (alternatives (4 * cs.length + 8) []).run (.start cs)
  if !cursor.rest.isEmpty then throw .groupUnopened
  return t

theorem parse_eq (s : String) : parse s = tree s.toList >>= fun t =>
    if depthLimit < t.depth then throw .nestedTooDeep else return t := by
  unfold parse tree
  dsimp only
  rw [bind_assoc]
  refine bind_congr fun p => ?_
  obtain ⟨t, c⟩ := p
  cases c.rest.isEmpty <;> rfl

def lead : List Char := ['^', '(', '?', ':']

theorem anchored_toList (s : String) : (anchored s).toList = lead ++ (s.toList ++ closing) := by
  simp [anchored, lead, closing]

/-- Behind a body: the parenthesis, the mark for the end, and the end of the whole. -/
def wholeEnd (fuel : Nat) (body : Tree) : Reader Tree := do
  let t ← behindBody fuel [.anchor .lineStart] [] false body
  if (← peek) = some '|' then
    bump
    alternatives (fuel + 2) [t]
  else return t

theorem skipped_of_not_spaced (h : c.spaced = false) : skipped c = c := by simp [skipped, h]

theorem opening_start (cs : List Char) :
    opening.run (.start ('(' :: '?' :: ':' :: cs)) = .ok (.group [], .start cs) := by
  refine opening_eq_ok.mpr ?_
  rw [skipped_of_not_spaced rfl]
  exact .group rfl rfl

theorem concatenation_lead (fuel : Nat) (cs : List Char) :
    (concatenation (fuel + 2) []).run (.start (lead ++ cs)) =
      (behindOpening fuel [.anchor .lineStart] (.group [])).run (.start cs) := by
  rw [concatenation_run_plain (d := '^') rfl rfl, skipped_of_not_spaced rfl]
  have hmark : (primitive '^').run (.start (lead ++ cs)) =
      .ok (.anchor .lineStart, .start ('(' :: '?' :: ':' :: cs)) := rfl
  rw [run_bind_of_eq_ok hmark, concatenation_run_group rfl, skipped_of_not_spaced rfl,
    run_bind_of_eq_ok (opening_start cs)]

theorem alternatives_lead (fuel : Nat) (cs : List Char) :
    (alternatives (fuel + 3) []).run (.start (lead ++ cs)) =
      (alternatives fuel [] >>= wholeEnd fuel).run (.start cs) := by
  have hbody : (behindOpening fuel [.anchor .lineStart] (.group [])).run (.start cs) =
      (alternatives fuel [] >>= behindBody fuel [.anchor .lineStart] [] false).run (.start cs) :=
        rfl
  rw [alternatives, run_bind_congr ((concatenation_lead fuel cs).trans hbody), bind_assoc]
  rfl

def Tree.between (t : Tree) : Tree := .concat [.anchor .lineStart, .group [] t, .anchor .lineEnd]

theorem wholeEnd_run {fuel : Nat} {body : Tree} {c : Cursor} (h : c.rest = closing) :
    ∃ c', (wholeEnd (fuel + 2) body).run c = .ok (body.between, c') ∧ c'.rest = [] := by
  obtain ⟨rest, spaced, names⟩ := c
  subst h
  have hmark : (primitive '$').run ⟨['$'], false, names⟩ =
    .ok (.anchor .lineEnd, ⟨[], false, names⟩) := rfl
  have hconcat :
      (concatenation (fuel + 2) [.group [] body, .anchor .lineStart]).run ⟨['$'], false, names⟩ =
        .ok (body.between, ⟨[], false, names⟩) := by
    rw [concatenation_run_plain (d := '$') rfl rfl, skipped_of_not_spaced rfl,
      run_bind_of_eq_ok hmark, concatenation_run_stop (by simp [skipped]),
      skipped_of_not_spaced rfl]
    rfl
  have hclose : (wholeEnd (fuel + 2) body).run ⟨closing, spaced, names⟩ =
      (concatenation (fuel + 2) [.group [] body, .anchor .lineStart] >>= fun t => peek >>= fun ch =>
        if ch = some '|' then bump >>= fun _ => alternatives (fuel + 4) [t] else pure t).run
          ⟨['$'], false, names⟩ := rfl
  exact ⟨⟨[], false, names⟩, hclose.trans ((run_bind_of_eq_ok hconcat).trans rfl), rfl⟩

theorem wholeEnd_run_end {fuel : Nat} {body : Tree} (h : c.rest = []) :
    (wholeEnd fuel body).run c = .error .groupUnclosed := by
  refine run_bind_of_eq_error ?_
  rw [behindBody, peek_bind_run, h]
  rfl

theorem rest_eq_nil {cs ds : List Char} (hsuffix : ds <:+ cs ++ closing) (hlength : ds.length ≤ 1)
    (hstop : ∀ d ∈ ds.head?, d ∈ [')']) : ds = [] := by
  match ds with
  | [] => rfl
  | [d] =>
    obtain rfl := List.mem_singleton.mp (hstop d rfl)
    obtain ⟨front, hfront⟩ := hsuffix
    have hlast := congrArg List.getLast? hfront
    simp [closing] at hlast
  | d :: d' :: ds => simp at hlength

def bodyFuel (cs : List Char) : Nat := 4 * (lead ++ (cs ++ closing)).length + 5

theorem le_bodyFuel (cs : List Char) : 4 * cs.length + 8 ≤ bodyFuel cs := by
  simp only [bodyFuel, lead, closing, List.length_append, List.length_cons, List.length_nil]
  omega

theorem tree_lead (cs : List Char) : tree (lead ++ (cs ++ closing)) =
    (alternatives (bodyFuel cs) [] >>= wholeEnd (bodyFuel cs)).run
      (Cursor.start cs).enclosed >>= fun p =>
      if !p.2.rest.isEmpty then throw .groupUnopened else return p.1 := by
  rw [show (Cursor.start cs).enclosed = .start (cs ++ closing) from rfl, ← alternatives_lead]
  rfl

theorem tree_of_ok {cs : List Char} {t : Tree}
    (h : (alternatives (4 * cs.length + 8) []).run (.start cs) = .ok (t, c)) :
    tree cs = if !c.rest.isEmpty then .error .groupUnopened else .ok t := by
  rw [tree, h]
  rfl

theorem tree_of_error {cs : List Char} {e : PatternError}
    (h : (alternatives (4 * cs.length + 8) []).run (.start cs) = .error e) :
    tree cs = .error e := by
  rw [tree, h]
  rfl

theorem tree_lead_of_closing {cs : List Char} {t : Tree}
    (h : (alternatives (bodyFuel cs) []).run (Cursor.start cs).enclosed = .ok (t, c))
    (hrest : c.rest = closing) :
    tree (lead ++ (cs ++ closing)) = .ok t.between := by
  obtain ⟨fuel, hfuel⟩ : ∃ i, bodyFuel cs = i + 2 := ⟨4 * (lead ++ (cs ++ closing)).length + 3, rfl⟩
  obtain ⟨d, hend, hd⟩ : ∃ d, (wholeEnd (fuel + 2) t).run c = .ok (t.between, d) ∧ d.rest = [] :=
    wholeEnd_run hrest
  rw [tree_lead, run_bind_of_eq_ok h, hfuel, hend]
  simp [bind, Except.bind, hd, pure, Except.pure]

/-- A body that goes into the closing text takes all of it, so that the parenthesis is missing. -/
theorem tree_lead_of_short {cs : List Char}
    (h : ∀ t c, (alternatives (bodyFuel cs) []).run (Cursor.start cs).enclosed = .ok (t, c) →
      c.rest.length ≤ 1) :
    ∃ e, tree (lead ++ (cs ++ closing)) = .error e := by
  rw [tree_lead]
  cases hbody : (alternatives (bodyFuel cs) []).run (Cursor.start cs).enclosed with
  | error e => exact ⟨e, by rw [run_bind_of_eq_error hbody]; rfl⟩
  | ok p =>
    obtain ⟨t, c⟩ := p
    have hend : c.rest = [] := rest_eq_nil ((uses_pattern _ []).1 hbody).1.suffix (h t c hbody)
      ((stopsAt_pattern _ []).1 hbody)
    refine ⟨.groupUnclosed, ?_⟩
    rw [run_bind_of_eq_ok hbody, wholeEnd_run_end hend]
    rfl

/-- A pattern that is to match from start to end is read as such unless a comment is left open in
it. What cannot be read by itself cannot be read then, unless there is a closing parenthesis without
an opening one. -/
theorem tree_anchored (cs : List Char) :
    (∃ t, tree cs = .ok t ∧ tree (lead ++ (cs ++ closing)) = .ok t.between) ∨
    tree cs = .error .groupUnopened ∨
    (OpenComment cs ∨ ∃ e, tree cs = .error e) ∧
    ∃ e, tree (lead ++ (cs ++ closing)) = .error e := by
  have hagrees : Agrees 1 (alternatives (4 * cs.length + 8) [])
      (alternatives (bodyFuel cs) []) (.start cs) :=
    (patternsAgree (le_bodyFuel cs)).alternatives (by simp only [Cursor.start]; omega)
  cases hagrees with
  | @same t c hx hy =>
    -- Alternatives end at a parenthesis: the one of the closing text, or one too many in the
    -- pattern.
    by_cases hrest : c.rest = []
    · refine .inl ⟨t, ?_, tree_lead_of_closing hy (by rw [Cursor.enclosed, hrest, List.nil_append])⟩
      rw [tree_of_ok hx, hrest]
      rfl
    · exact .inr (.inl (by rw [tree_of_ok hx, if_pos (by simpa using hrest)]))
  | apart hx hy =>
    refine .inr
      (.inr ⟨hx.symm.imp_right (Exists.imp fun e => tree_of_error), tree_lead_of_short hy⟩)

theorem compile_eq_ok : compile s = .ok x ↔ ∃ t f, tree s.toList = .ok t ∧ t.depth ≤ depthLimit ∧
    t.regex .initial = .ok (x, f) ∧ x.weight ≤ sizeLimit := by
  unfold compile
  rw [parse_eq, bind_assoc, bind_eq_ok]
  constructor
  · rintro ⟨t, htree, h⟩
    obtain ⟨t', hdepth, h⟩ := bind_eq_ok.mp h
    split at hdepth
    · cases hdepth
    · rename_i hlimit
      cases hdepth
      obtain ⟨⟨x', f⟩, hregex, h⟩ := bind_eq_ok.mp h
      dsimp only at h
      split at h
      · cases h
      · rename_i hsize
        cases h
        exact ⟨t, f, htree, Nat.le_of_not_lt hlimit, hregex, Nat.le_of_not_lt hsize⟩
  · rintro ⟨t, f, htree, hdepth, hregex, hsize⟩
    refine ⟨t, htree, ?_⟩
    rw [if_neg (Nat.not_lt.mpr hdepth)]
    refine bind_eq_ok.mpr ⟨t, rfl, bind_eq_ok.mpr ⟨(x, f), hregex, ?_⟩⟩
    dsimp only
    rw [if_neg (Nat.not_lt.mpr hsize)]
    rfl

theorem compile_of_tree_error {e : PatternError} (h : tree s.toList = .error e) :
    compile s = .error e := by
  unfold compile
  rw [parse_eq, h]
  rfl

theorem compile_ordered (h : compile s = .ok x) : x.Ordered := by
  obtain ⟨t, f, htree, -, hregex, -⟩ := compile_eq_ok.mp h
  obtain ⟨⟨t', c⟩, hrun, hend⟩ := bind_eq_ok.mp htree
  dsimp only at hend
  split at hend
  · cases hend
  · cases hend
    exact Tree.regex_ordered
      ((reads_pattern kept_ordered _ (List.forall_mem_nil _)).1 hrun).2 hregex

theorem between_depth (t : Tree) : t.between.depth = t.depth + 2 := by
  simp [Tree.between, Tree.depth, Tree.depth.depths]

theorem bounded_weight (x : Regex) : x.bounded.weight = x.weight + 64 := by
  simp only [Regex.bounded, Regex.weight]
  omega

theorem between_regex (t : Tree) : t.between.regex .initial =
    t.regex .initial >>= fun p => .ok (p.1.bounded, .initial) := by
  have hchange : Flags.initial.change [] = .initial := rfl
  have hok {α β : Type} (a : α) (f : α → Except PatternError β) : (Except.ok a >>= f) = f a := rfl
  simp only [Tree.between, Tree.regex, Tree.regex.sequence, hok, hchange]
  cases t.regex .initial with
  | error e => rfl
  | ok p => rfl

/-- The pattern is nested so deep or makes so great an automaton that there is no room for the group
around it. -/
def Crowded (s : String) (x : Regex) : Prop :=
  (∃ t, parse s = .ok t ∧ depthLimit < t.depth + 2) ∨ sizeLimit < x.weight + 64

/-- A pattern that compiles where it is to match from start to end compiles by itself and is matched
from start to end, or there is a closing parenthesis in it without an opening one. -/
theorem of_compile_anchored {y : Regex} (h : compile (anchored s) = .ok y) :
    (∃ x, compile s = .ok x ∧ y = x.bounded) ∨ compile s = .error .groupUnopened := by
  obtain ⟨t', f, htree, hdepth, hregex, hsize⟩ := compile_eq_ok.mp h
  rw [anchored_toList] at htree
  rcases tree_anchored s.toList with ⟨t, ht, hbetween⟩ | hclosed | ⟨-, e, he⟩
  · cases htree.symm.trans hbetween
    obtain ⟨⟨x, f'⟩, hx, hbounded⟩ := bind_eq_ok.mp ((between_regex t).symm.trans hregex)
    cases hbounded
    rw [between_depth] at hdepth
    rw [bounded_weight] at hsize
    dsimp only at hsize
    exact .inl ⟨x, compile_eq_ok.mpr ⟨t, f', ht, by omega, hx, by omega⟩, rfl⟩
  · exact .inr (compile_of_tree_error hclosed)
  · cases htree.symm.trans he

/-- With room for the group, the pattern is compiled where it is to match from start to end. -/
theorem compile_anchored_of_between (h : compile s = .ok x) (hroom : ¬ Crowded s x)
    (hbetween : ∀ t, tree s.toList = .ok t → tree (lead ++ (s.toList ++ closing)) = .ok t.between) :
    compile (anchored s) = .ok x.bounded := by
  obtain ⟨t, f, htree, hdepth, hregex, hsize⟩ := compile_eq_ok.mp h
  obtain ⟨hdepth', hsize'⟩ := not_or.mp hroom
  have hparse : parse s = .ok t := by
    rw [parse_eq, htree]
    exact if_neg (Nat.not_lt.mpr hdepth)
  refine compile_eq_ok.mpr
    ⟨t.between, .initial, by rw [anchored_toList, hbetween t htree], ?_, ?_, ?_⟩
  · rw [between_depth]
    exact Nat.le_of_not_lt fun hlt => hdepth' ⟨t, hparse, hlt⟩
  · rw [between_regex, hregex]
    rfl
  · rw [bounded_weight]
    exact Nat.le_of_not_lt hsize'

/-- A pattern that compiles by itself is matched from start to end, unless a comment is left open in
it or there is no room for the group around it; then it is refused. -/
theorem compile_anchored (h : compile s = .ok x) : compile (anchored s) = .ok x.bounded ∨
    (∃ e, compile (anchored s) = .error e) ∧ (OpenComment s.toList ∨ Crowded s x) := by
  cases hcompile : compile (anchored s) with
  | ok y =>
    rcases of_compile_anchored hcompile with ⟨x', hx', rfl⟩ | herror
    · cases h.symm.trans hx'
      exact .inl rfl
    · cases h.symm.trans herror
  | error e =>
    refine .inr ⟨⟨e, rfl⟩, ?_⟩
    obtain ⟨t, f, htree, -⟩ := compile_eq_ok.mp h
    rcases tree_anchored s.toList with ⟨t', ht', hbetween⟩ | hclosed | ⟨hopen | ⟨e', he'⟩, -⟩
    · right
      by_contra hroom
      have hwhole := compile_anchored_of_between h hroom fun t ht => by
        cases ht'.symm.trans ht
        exact hbetween
      cases hwhole.symm.trans hcompile
    · cases htree.symm.trans hclosed
    · exact .inl hopen
    · cases htree.symm.trans he'

end Pattern
end PullDecoration
