import PullDecoration.Pattern.Meaning
import PullDecoration.Proofs.Pattern.Matching
import PullDecoration.Proofs.Pattern.Opening

/-! Reading classes and whole patterns uses up characters, and no repetition that is read asks for
more rounds than it allows; neither does an expression that a pattern read so means. -/
namespace PullDecoration
namespace Pattern

open Reader

def posixNamed? (negated : Bool) (cs : List Char) : Option (ClassTree × List Char) :=
  let name := String.ofList (cs.takeWhile (· ≠ ':'))
  match cs.dropWhile (· ≠ ':') with
  | ':' :: ']' :: rest => if name ∈ posixNames then some (.posix name negated, rest) else none
  | _ => none

theorem posixNamed?_eq_some {negated : Bool} {cs rest : List Char} {t : ClassTree} :
    posixNamed? negated cs = some (t, rest) ↔
      ∃ name ∈ posixNames, t = .posix name negated ∧ cs = name.toList ++ ':' :: ']' :: rest := by
  constructor
  · intro h
    unfold posixNamed? at h
    dsimp only at h
    split at h
    · rename_i after hdrop
      split at h
      · rename_i hname
        cases h
        refine ⟨_, hname, rfl, ?_⟩
        rw [String.toList_ofList, ← hdrop, List.takeWhile_append_dropWhile]
      · cases h
    · cases h
  · rintro ⟨name, hname, rfl, rfl⟩
    have hmark : ':' ∉ name.toList := by
      revert name
      decide
    rw [posixNamed?, takeWhile_mark hmark, dropWhile_mark hmark]
    simp only [String.ofList_toList, hname, if_true]

def caret (cs : List Char) : Bool × List Char :=
  match cs with
  | '^' :: cs => (true, cs)
  | _ => (false, cs)

theorem caret_of_ne {cs : List Char} (h : cs.head? ≠ some '^') : caret cs = (false, cs) := by
  unfold caret
  split
  · exact absurd rfl h
  · rfl

theorem posixClass?_eq_some {cs rest : List Char} {t : ClassTree} :
    posixClass? cs = some (t, rest) ↔
    ∃ negated, ∃ name ∈ posixNames, t = .posix name negated ∧
      cs =
        '[' :: ':' :: ((if negated then ['^'] else []) ++ name.toList ++ ':' :: ']' :: rest) := by
  have hcaret (cs : List Char) : posixClass? ('[' :: ':' :: '^' :: cs) = posixNamed? true cs := rfl
  have hplain {cs : List Char} (h : cs.head? ≠ some '^') :
      posixClass? ('[' :: ':' :: cs) = posixNamed? false cs :=
    congrArg (fun p : Bool × List Char => posixNamed? p.1 p.2) (caret_of_ne h)
  constructor
  · intro h
    have hstart : ∃ named, cs = '[' :: ':' :: named := by
      unfold posixClass? at h
      split at h
      · exact ⟨_, rfl⟩
      · cases h
    obtain ⟨named, rfl⟩ := hstart
    by_cases hhead : named.head? = some '^'
    · obtain ⟨named, rfl⟩ := List.head?_eq_some_iff.mp hhead
      obtain ⟨name, hname, rfl, rfl⟩ := posixNamed?_eq_some.mp ((hcaret named).symm.trans h)
      exact ⟨true, name, hname, rfl, rfl⟩
    · obtain ⟨name, hname, rfl, rfl⟩ := posixNamed?_eq_some.mp ((hplain hhead).symm.trans h)
      exact ⟨false, name, hname, rfl, rfl⟩
  · rintro ⟨negated, name, hname, rfl, rfl⟩
    cases negated with
    | true => exact posixNamed?_eq_some.mpr ⟨name, hname, rfl, rfl⟩
    | false =>
      have hhead : (name.toList ++ ':' :: ']' :: rest).head? ≠ some '^' := by
        rw [List.head?_append]
        revert name
        simp +decide [posixNames]
      exact (hplain hhead).trans (posixNamed?_eq_some.mpr ⟨name, hname, rfl, rfl⟩)

theorem posixClass?_suffix {cs rest : List Char} {t : ClassTree}
    (h : posixClass? cs = some (t, rest)) :
    ∃ begun, cs = '[' :: begun ++ rest := by
  obtain ⟨negated, name, -, -, rfl⟩ := posixClass?_eq_some.mp h
  exact ⟨':' :: ((if negated then ['^'] else []) ++ name.toList ++ [':', ']']), by simp⟩

theorem uses_spaced (f : Cursor → Bool) : Uses 0 (modify fun c => { c with spaced := f c }) := by
  intro c a c' hrun
  cases hrun
  exact ⟨⟨List.suffix_rfl, Nat.le_refl _⟩, trivial⟩

theorem uses_skipLazy : Uses 0 skipLazy :=
  uses_peek.first fun _ => .ite uses_bump.any (reads_pure trivial)

def countBounds : Option Nat → Option Char → Reader (Nat × Option Nat)
  | _, none => throw .countUnclosed
  | none, some d =>
    if d = ',' then bumpTo .countUnclosed >>= fun _ => throw .countEmpty else throw .countEmpty
  | some least, some d =>
    if d = ',' then do
      if (← bumpTo .countUnclosed) = '}' then return (least, none)
      let some most ← decimal | throw .countEmpty
      return (least, some most)
    else return (least, some least)

def countEnd (bounds : Nat × Option Nat) : Reader (Nat × Option Nat) := do
  if (← peek) ≠ some '}' then throw .countUnclosed
  bumpSpace
  skipLazy
  if bounds.2.any (· < bounds.1) then throw .countInvalid
  return bounds

theorem count_eq : count =
    (bumpTo .countUnclosed >>= fun _ => decimal >>= fun least => peek >>= fun ch =>
      countBounds least ch >>= countEnd) := by
  unfold count
  refine bind_congr fun _ => bind_congr fun least => bind_congr fun ch => ?_
  dsimp only
  split
  · cases least <;> rfl
  · cases least with
    | none =>
      rw [countBounds, if_pos rfl, bind_assoc]
      refine bind_congr fun d => ?_
      split <;> rfl
    | some least =>
      rw [countBounds, if_pos rfl, bind_assoc]
      refine bind_congr fun d => ?_
      by_cases hd : d = '}'
      · rw [if_pos hd, if_pos hd]
        rfl
      · rw [if_neg hd, if_neg hd]
        dsimp only
        rw [bind_assoc]
        refine bind_congr fun most => ?_
        cases most <;> rfl
  · rename_i hcomma
    cases least with
    | none =>
      rw [countBounds, if_neg hcomma]
      rfl
    | some least =>
      rw [countBounds, if_neg hcomma]
      rfl
theorem uses_countBounds (least : Option Nat) (ch : Option Char) :
    Uses 0 (countBounds least ch) := by
  unfold countBounds
  split
  · exact reads_throw
  · exact .ite ((uses_bumpTo _).any.first fun _ => reads_throw) reads_throw
  · refine .ite ((uses_bumpTo _).any.first fun _ => .ite (reads_pure trivial)
      (uses_decimal.first fun most => ?_)) (reads_pure trivial)
    cases most with
    | none => exact reads_throw
    | some most => exact reads_pure trivial

theorem reads_countEnd (bounds : Nat × Option Nat) :
    Reads 1 (fun bounds => ∀ m ∈ bounds.2, bounds.1 ≤ m) (countEnd bounds) := by
  refine .later uses_peek fun _ _ =>
    .guard (.first uses_bumpSpace fun _ _ => .later uses_skipLazy fun _ _ => ?_)
  split
  · exact reads_throw
  · rename_i hany
    refine reads_pure fun m hm => ?_
    rw [Option.mem_def.mp hm] at hany
    simpa using hany

theorem reads_count : Reads 1 (fun bounds => ∀ m ∈ bounds.2, bounds.1 ≤ m) count := by
  rw [count_eq]
  exact .later (uses_bumpTo _).any fun _ _ => .later uses_decimal fun _ _ =>
      .later uses_peek fun _ _ =>
    .later (uses_countBounds _ _) fun bounds _ => reads_countEnd bounds

/-- Classes use up a character; the inside of a class goes up to its closing bracket. -/
theorem uses_class (fuel : Nat) :
    Uses 1 (classTree fuel) ∧ ∀ before items, Uses 1 (classInside fuel before items) := by
  induction fuel with
  | zero => exact ⟨reads_throw, fun _ _ => reads_throw⟩
  | succ fuel ih =>
    obtain ⟨htree, hinside⟩ := ih
    refine ⟨uses_classStart.first fun start => (hinside _ _).any.first fun _ =>
      reads_pure trivial, ?_⟩
    refine fun before items => uses_space.later fun _ c t c' hrun => ?_
    rw [get_bind_run] at hrun
    split at hrun
    · cases hrun
    · rename_i cs hrest
      split at hrun
      · rename_i item rest hposix
        obtain ⟨begun, hsplit⟩ := posixClass?_suffix hposix
        have hlength : rest.length ≤ c.rest.length - 1 := by
          rw [hsplit, List.length_append, List.length_cons]
          omega
        have hset : c.Advances 1 { c with rest } := ⟨⟨_, hsplit.symm⟩, hlength⟩
        exact ⟨hset.trans ((hinside _ _).any hrun).1, trivial⟩
      · exact (htree.first fun item => (hinside _ _).any) hrun
    · exact (uses_bump.first fun _ => reads_pure trivial) hrun
    · split at hrun
      · have hset : c.Advances 1 { c with rest := c.rest.drop 2 } :=
          ⟨List.drop_suffix 2 _, by simp only [List.length_drop]; omega⟩
        exact ⟨hset.trans ((hinside _ _).any hrun).1, trivial⟩
      · exact (uses_classRange.first fun item => (hinside _ _).any) hrun

/-- No repetition in the pattern asks for more rounds than it allows. -/
def Tree.Ordered : Tree → Prop
  | .empty | .flags _ | .sign _ | .dot | .anchor _ | .cls _ => True
  | .repeated body least most => body.Ordered ∧ ∀ m ∈ most, least ≤ m
  | .group _ body => body.Ordered
  | .concat items | .alternation items => allOrdered items
where
  /-- It holds of all the items. -/
  allOrdered : List Tree → Prop
    | [] => True
    | t :: ts => t.Ordered ∧ allOrdered ts

namespace Tree

theorem allOrdered_iff {ts : List Tree} : Ordered.allOrdered ts ↔ ∀ t ∈ ts, t.Ordered := by
  induction ts with
  | nil => simp [Ordered.allOrdered]
  | cons t ts ih => simp [Ordered.allOrdered, ih]

theorem ofConcat_ordered {ts : List Tree} (h : ∀ t ∈ ts, t.Ordered) : (ofConcat ts).Ordered := by
  unfold ofConcat
  split
  · trivial
  · exact h _ (List.mem_singleton.mpr rfl)
  · exact allOrdered_iff.mpr h

theorem ofAlternatives_ordered {ts : List Tree} (h : ∀ t ∈ ts, t.Ordered) :
    (ofAlternatives ts).Ordered := by
  unfold ofAlternatives
  split
  · trivial
  · exact h _ (List.mem_singleton.mpr rfl)
  · exact allOrdered_iff.mpr h

end Tree

/-- The property goes from the parts of a pattern to the whole; repetitions have it where they count
in order. -/
structure Kept (P : Tree → Prop) : Prop where
  sign (s : Sign) : P (.sign s)
  dot : P .dot
  anchor (a : Anchor) : P (.anchor a)
  cls (c : ClassTree) : P (.cls c)
  flags (change : FlagChange) : P (.flags change)
  group {change : FlagChange} {body : Tree} (h : P body) : P (.group change body)
  repeated {body : Tree} {least : Nat} {most : Option Nat} (h : P body)
  (hcount : ∀ m ∈ most, least ≤ m) :
    P (.repeated body least most)
  concat {ts : List Tree} (h : ∀ t ∈ ts, P t) : P (.ofConcat ts)
  alternatives {ts : List Tree} (h : ∀ t ∈ ts, P t) : P (.ofAlternatives ts)

theorem kept_true : Kept fun _ => True where
  sign _ := trivial
  dot := trivial
  anchor _ := trivial
  cls _ := trivial
  flags _ := trivial
  group _ := trivial
  repeated _ _ := trivial
  concat _ := trivial
  alternatives _ := trivial

theorem kept_ordered : Kept Tree.Ordered where
  sign _ := trivial
  dot := trivial
  anchor _ := trivial
  cls _ := trivial
  flags _ := trivial
  group h := h
  repeated h hcount := ⟨h, hcount⟩
  concat := Tree.ofConcat_ordered
  alternatives := Tree.ofAlternatives_ordered

section Trees

variable {P : Tree → Prop} (hP : Kept P)

include hP

theorem reads_primitive (c : Char) : Reads 1 P (primitive c) := by
  unfold primitive
  split
  · refine .first uses_escape fun e _ => ?_
    cases e with
    | sign s => exact reads_pure (hP.sign s)
    | anchor a => exact reads_pure (hP.anchor a)
    | shorthand k negated => exact reads_pure (hP.cls _)
    | property q negated => exact reads_pure (hP.cls _)
  · exact .first uses_bump fun _ _ => reads_pure hP.dot
  · exact .first uses_bump fun _ _ => reads_pure (hP.anchor _)
  · exact .first uses_bump fun _ _ => reads_pure (hP.anchor _)
  · exact .first uses_bump fun _ _ => reads_pure (hP.sign _)

omit hP in
theorem reads_repeatable {acc : List Tree} (h : ∀ t ∈ acc, P t) :
    Reads 0 (fun p => P p.1 ∧ ∀ t ∈ p.2, P t) (repeatable acc) := by
  unfold repeatable
  split
  · exact reads_throw
  · exact reads_throw
  · exact reads_throw
  · exact reads_pure (List.forall_mem_cons.mp h)

theorem reads_pattern (fuel : Nat) {acc : List Tree} (h : ∀ t ∈ acc, P t) :
    Reads 0 P (alternatives fuel acc) ∧ Reads 0 P (concatenation fuel acc) ∧
      ∀ least most, (∀ m ∈ most, least ≤ m) → Reads 0 P (again least most fuel acc) := by
  induction fuel generalizing acc with
  | zero => exact ⟨reads_throw, reads_throw, fun _ _ _ => reads_throw⟩
  | succ fuel ih =>
    have hconcat (t : Tree) (acc : List Tree) (ht : P t) (h : ∀ t ∈ acc, P t) :
        Reads 0 P (concatenation fuel (t :: acc)) := (ih (List.forall_mem_cons.mpr ⟨ht, h⟩)).2.1
    refine ⟨.later (ih (List.forall_mem_nil _)).2.1 fun t ht => .later uses_peek fun ch _ => ?_,
      .later uses_space fun _ _ => .later uses_peek fun ch _ => ?_,
      fun least most hcount => .later (reads_repeatable h) fun p hp =>
        .later uses_bump.any fun _ _ =>
        .later uses_skipLazy fun _ _ => hconcat _ _ (hP.repeated hp.1 hcount) hp.2⟩
    · have hmore := List.forall_mem_cons.mpr ⟨ht, h⟩
      exact .ite (.later uses_bump.any fun _ _ => (ih hmore).1)
        (reads_pure (hP.alternatives fun t ht => hmore t (List.mem_reverse.mp ht)))
    · have hdone : Reads 0 P (pure (Tree.ofConcat acc.reverse) : Reader Tree) :=
        reads_pure (hP.concat fun t ht => h t (List.mem_reverse.mp ht))
      have hagain {least : Nat} {most : Option Nat} := (ih h).2.2 least most
      split
      · exact hdone
      · exact hdone
      · exact hdone
      · refine .later uses_opening.any fun o _ => ?_
        cases o with
        | alone change => exact .later (uses_spaced _) fun _ _ => hconcat _ _ (hP.flags change) h
        | group change =>
          refine .later uses_get fun outside _ => .later (uses_spaced _) fun _ _ => ?_
          refine .later (ih (List.forall_mem_nil _)).1 fun body hbody =>
            .later uses_peek fun _ _ => .guard ?_
          exact .later uses_bump.any fun _ _ => .later (uses_spaced _) fun _ _ =>
            hconcat _ _ (hP.group hbody) h
      · exact .later (uses_class fuel).1.any fun c _ => hconcat _ _ (hP.cls c) h
      · exact hagain (by simp)
      · exact hagain (by simp)
      · exact hagain (by simp)
      · exact .later (reads_repeatable h) fun p hp => .later reads_count.any fun bounds hbounds =>
          hconcat _ _ (hP.repeated hp.1 hbounds) hp.2
      · exact .later (reads_primitive hP _).any fun t ht => hconcat _ _ ht h

end Trees

theorem uses_pattern (fuel : Nat) (acc : List Tree) :
    Uses 0 (alternatives fuel acc) ∧ Uses 0 (concatenation fuel acc) := by
  have hacc : ∀ t ∈ acc, (fun _ : Tree => True) t := fun _ _ => trivial
  have h := reads_pattern kept_true fuel hacc
  exact ⟨h.1, h.2.1⟩

namespace Tree

theorem signRegex_ordered {f : Flags} {r : Regex} {s : Sign} (h : f.signRegex s = .ok r) :
    r.Ordered := by
  unfold Flags.signRegex at h
  split at h
  · cases h
  · cases h
    trivial

theorem dotRegex_ordered {f : Flags} {r : Regex} (h : f.dotRegex = .ok r) : r.Ordered := by
  unfold Flags.dotRegex at h
  repeat' split at h
  all_goals cases h
  all_goals trivial

/-! A pattern that counts in order means an expression that does so too. -/

mutual

theorem regex_ordered {f f' : Flags} {r : Regex} {t : Tree} (ht : t.Ordered)
    (h : t.regex f = .ok (r, f')) :
    r.Ordered := by
  cases t with
  | empty | flags | anchor =>
    cases h
    trivial
  | sign s =>
    obtain ⟨r, hsign, h⟩ := bind_eq_ok.mp h
    cases h
    exact signRegex_ordered hsign
  | dot =>
    obtain ⟨r, hdot, h⟩ := bind_eq_ok.mp h
    cases h
    exact dotRegex_ordered hdot
  | cls c =>
    obtain ⟨s, -, h⟩ := bind_eq_ok.mp h
    cases h
    trivial
  | repeated body least most =>
    obtain ⟨⟨r, f⟩, hbody, h⟩ := bind_eq_ok.mp h
    cases h
    exact ⟨regex_ordered ht.1 hbody, ht.2⟩
  | group change body =>
    obtain ⟨⟨r, f⟩, hbody, h⟩ := bind_eq_ok.mp h
    cases h
    have hordered : body.Ordered := ht
    exact regex_ordered hordered hbody
  | concat items => exact sequence_ordered ht h
  | alternation items => exact choice_ordered ht h

theorem sequence_ordered {f f' : Flags} {r : Regex} {ts : List Tree} (hts : Ordered.allOrdered ts)
    (h : regex.sequence f ts = .ok (r, f')) : r.Ordered := by
  cases ts with
  | nil =>
    cases h
    trivial
  | cons t ts =>
    obtain ⟨⟨r₁, f₁⟩, hfirst, h⟩ := bind_eq_ok.mp h
    obtain ⟨⟨rs, f₂⟩, hrest, h⟩ := bind_eq_ok.mp h
    cases h
    have hr := regex_ordered hts.1 hfirst
    split
    · exact hr
    · exact ⟨hr, sequence_ordered hts.2 hrest⟩

theorem choice_ordered {f f' : Flags} {r : Regex} {ts : List Tree} (hts : Ordered.allOrdered ts)
    (h : regex.choice f ts = .ok (r, f')) : r.Ordered := by
  match ts with
  | [] =>
    cases h
    trivial
  | [t] => exact regex_ordered hts.1 h
  | t :: t' :: ts =>
    obtain ⟨⟨r₁, f₁⟩, hfirst, h⟩ := bind_eq_ok.mp h
    obtain ⟨⟨rs, f₂⟩, hrest, h⟩ := bind_eq_ok.mp h
    cases h
    exact ⟨regex_ordered hts.1 hfirst, choice_ordered hts.2 hrest⟩

end
end Tree
end Pattern
end PullDecoration
