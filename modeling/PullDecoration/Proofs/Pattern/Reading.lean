import Mathlib.Data.List.Infix
import Mathlib.Data.List.TakeWhile
import PullDecoration.Pattern.Parser
import PullDecoration.Proofs.Except

/-! How far a pattern is read. No reader puts text back, so that what is left is always an end of
what there was; most readers use up at least one character, if there is any left. -/
namespace PullDecoration
namespace Pattern

variable {α β : Type} {n m : Nat} {P : α → Prop} {Q : β → Prop}

/-- From one cursor to the other at least `n` characters are used up, as far as there are so
many. -/
structure Cursor.Advances (n : Nat) (c c' : Cursor) : Prop where
  suffix : c'.rest <:+ c.rest
  length : c'.rest.length ≤ c.rest.length - n

theorem Cursor.Advances.trans {c c' c'' : Cursor} (h : c.Advances n c') (h' : c'.Advances m c'') :
    c.Advances (n + m) c'' := by
  refine ⟨h'.suffix.trans h.suffix, ?_⟩
  have := h.length
  have := h'.length
  omega

def Reads (n : Nat) (P : α → Prop) (x : Reader α) : Prop :=
  ∀ ⦃c a c'⦄, x.run c = .ok (a, c') → c.Advances n c' ∧ P a

namespace Reader

theorem run_bind_eq_ok {x : Reader α} {f : α → Reader β} {c d : Cursor} {b : β} :
    (x >>= f).run c = .ok (b, d) ↔ ∃ a c', x.run c = .ok (a, c') ∧ (f a).run c' = .ok (b, d) := by
  rw [StateT.run_bind, bind_eq_ok]
  constructor
  · rintro ⟨⟨a, c'⟩, hx, hf⟩
    exact ⟨a, c', hx, hf⟩
  · rintro ⟨a, c', hx, hf⟩
    exact ⟨(a, c'), hx, hf⟩

theorem run_bind_of_eq_ok {x : Reader α} {f : α → Reader β} {c c' : Cursor} {a : α}
    (h : x.run c = .ok (a, c')) :
    (x >>= f).run c = (f a).run c' := by
  rw [StateT.run_bind, h]
  rfl

theorem run_bind_of_eq_error {x : Reader α} {f : α → Reader β} {c : Cursor} {e : PatternError}
    (h : x.run c = .error e) : (x >>= f).run c = .error e := by
  rw [StateT.run_bind, h]
  rfl

theorem run_bind_congr {x x' : Reader α} {f : α → Reader β} {c c' : Cursor}
    (h : x.run c = x'.run c') :
    (x >>= f).run c = (x' >>= f).run c' := by
  rw [StateT.run_bind, StateT.run_bind, h]

end Reader

theorem reads_pure {a : α} (h : P a) : Reads 0 P (pure a) := by
  intro c b c' hrun
  cases hrun
  exact ⟨⟨List.suffix_rfl, Nat.le_refl _⟩, h⟩

theorem reads_throw {e : PatternError} : Reads n P (throw e) := by
  intro c b c' hrun
  cases hrun

namespace Reads

theorem bind {x : Reader α} {f : α → Reader β} (hx : Reads n P x)
    (hf : ∀ a, P a → Reads m Q (f a)) :
    Reads (n + m) Q (x >>= f) := by
  intro c b d hrun
  obtain ⟨a, c', hfirst, hrest⟩ := Reader.run_bind_eq_ok.mp hrun
  obtain ⟨hadvance, ha⟩ := hx hfirst
  obtain ⟨hadvance', hb⟩ := hf a ha hrest
  exact ⟨hadvance.trans hadvance', hb⟩

theorem first {x : Reader α} {f : α → Reader β} (hx : Reads n P x)
    (hf : ∀ a, P a → Reads 0 Q (f a)) :
    Reads n Q (x >>= f) := hx.bind hf

theorem later {x : Reader α} {f : α → Reader β} (hx : Reads 0 P x)
    (hf : ∀ a, P a → Reads n Q (f a)) :
    Reads n Q (x >>= f) := by
  simpa using hx.bind hf

theorem mono {P' : α → Prop} {x : Reader α} (hx : Reads n P x) (hle : m ≤ n)
    (himp : ∀ a, P a → P' a) :
    Reads m P' x := by
  intro c a c' hrun
  obtain ⟨hadvance, ha⟩ := hx hrun
  have := hadvance.length
  exact ⟨⟨hadvance.suffix, by omega⟩, himp a ha⟩

theorem any {x : Reader α} (hx : Reads n P x) : Reads 0 P x := hx.mono (Nat.zero_le n) fun _ => id

theorem ite {p : Prop} [Decidable p] {x y : Reader α} (hx : Reads n P x) (hy : Reads n P y) :
    Reads n P (if p then x else y) := by
  split
  · exact hx
  · exact hy

theorem guard {p : Prop} [Decidable p] {e : PatternError} {next : Unit → Reader α}
    (h : Reads n P (next ())) :
    Reads n P (if p then throw e >>= next else next ()) := by
  split
  · intro c a c' hrun
    cases hrun
  · exact h

theorem when {γ : Type} {p : Prop} [Decidable p] {x : Reader γ} {y : Reader α}
    (hx : Reads 0 (fun _ => True) x) (h : Reads n P y) :
    Reads n P (if p then x >>= fun _ => y else y) :=
  .ite ((hx.bind fun _ _ => h).mono (Nat.le_add_left n 0) fun _ => id) h

end Reads

/-- The reader uses up at least `n` characters, as far as there are so many. -/
abbrev Uses (n : Nat) (x : Reader α) : Prop := Reads n (fun _ => True) x

namespace Uses

variable {x : Reader α} {f : α → Reader β}

theorem first (hx : Uses n x) (hf : ∀ a, Uses 0 (f a)) : Uses n (x >>= f) :=
  Reads.first hx fun a _ => hf a

theorem later (hx : Uses 0 x) (hf : ∀ a, Uses n (f a)) : Uses n (x >>= f) :=
  Reads.later hx fun a _ => hf a

theorem any (hx : Uses n x) : Uses 0 x := Reads.any hx

end Uses

theorem skipSpace_suffix (comment : Bool) (cs : List Char) : skipSpace comment cs <:+ cs := by
  fun_induction skipSpace comment cs with
  | case1 => exact List.suffix_rfl
  | case2 c cs _ ih => exact ih.trans (List.suffix_cons c cs)
  | case3 cs _ ih => exact ih.trans (List.suffix_cons _ cs)
  | case4 => exact List.suffix_rfl
  | case5 c cs ih => exact ih.trans (List.suffix_cons c cs)

namespace Reader

def skipped (c : Cursor) : Cursor :=
  if c.spaced then { c with rest := skipSpace false c.rest } else c

@[simp] theorem bump_run (c : Cursor) :
      bump.run c = .ok ((), { c with rest := c.rest.drop 1 }) := rfl

@[simp] theorem space_run (c : Cursor) : space.run c = .ok ((), skipped c) := rfl

@[simp] theorem bumpSpace_run (c : Cursor) :
    bumpSpace.run c = .ok ((), skipped { c with rest := c.rest.drop 1 }) := rfl

theorem bump_bind_run (f : Unit → Reader α) (c : Cursor) :
    (bump >>= f).run c = (f ()).run { c with rest := c.rest.drop 1 } := rfl

theorem space_bind_run (f : Unit → Reader α) (c : Cursor) :
    (space >>= f).run c = (f ()).run (skipped c) := rfl

theorem peek_bind_run (f : Option Char → Reader α) (c : Cursor) :
    (peek >>= f).run c = (f c.rest.head?).run c := rfl

theorem get_bind_run (f : Cursor → Reader α) (c : Cursor) : (get >>= f).run c = (f c).run c := rfl

theorem lift_bind_run_eq_ok {x : Except PatternError α} {f : α → Reader β} {c d : Cursor} {b : β} :
    ((liftM x : Reader α) >>= f).run c = .ok (b, d) ↔ ∃ a, x = .ok a ∧
    (f a).run c = .ok (b, d) := by
  cases x with
  | error e =>
    constructor
    · intro hrun
      cases hrun
    · rintro ⟨a, hx, -⟩
      cases hx
  | ok a =>
    constructor
    · exact fun hrun => ⟨a, rfl, hrun⟩
    · rintro ⟨a', hx, hrun⟩
      cases hx
      exact hrun

theorem set_bind_run (f : PUnit → Reader α) (c c' : Cursor) :
    (set c' >>= f).run c = (f ⟨⟩).run c' := rfl

theorem skipped_suffix (c : Cursor) : (skipped c).rest <:+ c.rest := by
  rw [skipped]
  split
  · exact skipSpace_suffix false c.rest
  · exact List.suffix_rfl

theorem uses_peek : Uses 0 peek := by
  intro c a c' hrun
  cases hrun
  exact ⟨⟨List.suffix_rfl, Nat.le_refl _⟩, trivial⟩

theorem uses_get : Uses 0 (get : Reader Cursor) := by
  intro c a c' hrun
  cases hrun
  exact ⟨⟨List.suffix_rfl, Nat.le_refl _⟩, trivial⟩

theorem uses_space : Uses 0 space := by
  intro c a c' hrun
  cases hrun
  exact ⟨⟨skipped_suffix c, (skipped_suffix c).length_le⟩, trivial⟩

theorem uses_bump : Uses 1 bump := by
  intro c a c' hrun
  cases hrun
  exact ⟨⟨List.drop_suffix 1 c.rest, by simp⟩, trivial⟩

theorem uses_bumpSpace : Uses 1 bumpSpace := uses_bump.first fun _ => uses_space

theorem uses_bumpTo (e : PatternError) : Uses 1 (bumpTo e) := by
  refine uses_bumpSpace.first fun _ => uses_peek.first fun ch => ?_
  cases ch with
  | none => exact reads_throw
  | some c => exact reads_pure trivial

theorem uses_takeWhile_go (p : Char → Bool) (k : Nat) (acc : List Char) :
    Uses 0 (takeWhile.go p k acc) := by
  induction k generalizing acc with
  | zero => exact reads_pure trivial
  | succ k ih =>
    refine uses_peek.first fun ch => ?_
    cases ch with
    | none => exact reads_pure trivial
    | some c => exact .ite (uses_bumpSpace.any.first fun _ => ih _) (reads_pure trivial)

theorem uses_takeWhile (p : Char → Bool) : Uses 0 (takeWhile p) :=
  fun _ _ _ hrun => uses_takeWhile_go p _ _ hrun

theorem uses_dropBlanks :
    Uses 0 (modify fun c => { c with rest := c.rest.dropWhile Text.isBlankChar }) := by
  intro c a c' hrun
  cases hrun
  have hsuffix := List.dropWhile_suffix Text.isBlankChar (l := c.rest)
  exact ⟨⟨hsuffix, hsuffix.length_le⟩, trivial⟩

theorem uses_decimal : Uses 0 decimal := by
  refine uses_dropBlanks.first fun _ => (uses_takeWhile _).first fun ds =>
    (uses_takeWhile _).first fun _ => ?_
  exact .ite (reads_pure trivial) (.ite (reads_pure trivial) reads_throw)

theorem uses_charOfHex (ds : List Char) : Uses 0 (charOfHex ds) := by
  rw [charOfHex]
  split
  · exact .ite (reads_pure trivial) reads_throw
  · exact reads_throw

theorem uses_hexDigits (k : Nat) : Uses 0 (hexDigits k) := by
  induction k with
  | zero => exact reads_pure trivial
  | succ k ih =>
    refine uses_peek.first fun ch => ?_
    cases ch with
    | none => exact reads_throw
    | some c =>
      exact .guard (uses_bumpSpace.any.first fun _ => ih.first fun _ => reads_pure trivial)

theorem uses_hexEscape (k : Nat) : Uses 1 (hexEscape k) := by
  refine (uses_bumpTo _).first fun c => .ite ?_ ?_
  · exact uses_bumpSpace.any.first fun _ => (uses_takeWhile _).first fun ds => .guard
      (uses_peek.first fun _ => .guard (uses_bumpSpace.any.first fun _ => .guard
        ((uses_charOfHex ds).first fun _ => reads_pure trivial)))
  · exact (uses_hexDigits k).first fun ds => (uses_charOfHex ds).first fun _ => reads_pure trivial

theorem uses_propertyEscape : Uses 1 propertyEscape := by
  refine (uses_bumpTo _).first fun c => .ite ?_ (.ite reads_throw ?_)
  · exact uses_bumpSpace.any.first fun _ => (uses_takeWhile _).first fun name =>
      uses_peek.first fun _ => .guard
      (uses_bump.any.first fun _ => reads_pure trivial)
  · exact uses_bumpSpace.any.first fun _ => reads_pure trivial

theorem uses_wordEdgeKind : Uses 0 wordEdgeKind := by
  refine uses_peek.first fun ch => .ite (reads_pure trivial) ?_
  intro start a c' hrun
  obtain ⟨_, _, hget, hrun⟩ := run_bind_eq_ok.mp hrun
  cases hget
  obtain ⟨d, c₁, hbump, hrun⟩ := run_bind_eq_ok.mp hrun
  split at hrun
  · cases hrun
    exact ⟨⟨List.suffix_rfl, Nat.le_refl _⟩, trivial⟩
  · have hfirst := ((uses_bumpTo _).any hbump).1
    refine ⟨hfirst.trans ((show Uses 0 _ from ?_) hrun).1, trivial⟩
    refine (uses_takeWhile _).first fun name => uses_peek.first fun _ =>
      .guard (uses_bump.any.first fun _ => ?_)
    split
    · exact reads_pure trivial
    · exact reads_pure trivial
    · exact reads_pure trivial
    · exact reads_pure trivial
    · exact reads_throw

end Reader

open Reader

theorem uses_escape : Uses 1 escape := by
  refine uses_bump.first fun _ => uses_peek.first fun ch => ?_
  cases ch with
  | none => exact reads_throw
  | some c =>
    have hone (e : Escape) : Uses 0 (do bump; return e : Reader Escape) :=
      uses_bump.any.first fun _ => reads_pure trivial
    have hhex (k : Nat) : Uses 0 (do return Escape.sign (← hexEscape k) : Reader Escape) :=
      (uses_hexEscape k).any.first fun _ => reads_pure trivial
    have hproperty (negated : Bool) :
        Uses 0 (do return Escape.property (← propertyEscape) negated : Reader Escape) :=
      uses_propertyEscape.any.first fun _ => reads_pure trivial
    dsimp only
    split
    · exact hhex 2
    · exact hhex 4
    · exact hhex 8
    · exact hproperty false
    · exact hproperty true
    iterate 17 exact hone _
    · exact uses_bump.any.first fun _ => uses_wordEdgeKind.first fun _ => reads_pure trivial
    · exact .ite reads_throw (.ite (hone _) reads_throw)

theorem uses_classItem : Uses 1 classItem := by
  refine uses_peek.later fun ch => ?_
  split
  · refine uses_escape.first fun e => ?_
    cases e with
    | anchor a => exact reads_throw
    | sign | shorthand | property => exact reads_pure trivial
  · exact uses_bump.first fun _ => reads_pure trivial
  · exact reads_throw

theorem uses_classRange : Uses 1 classRange := by
  refine uses_classItem.first fun low => uses_space.first fun _ => uses_peek.first fun ch => ?_
  split
  · refine uses_get.first fun c => .ite (reads_pure trivial) ?_
    refine (uses_bumpTo _).any.first fun _ => uses_classItem.any.first fun high => ?_
    split
    · exact .ite (reads_pure trivial) reads_throw
    · exact reads_throw
  · exact reads_throw

theorem uses_classStart : Uses 1 classStart := by
  refine (uses_bumpTo _).first fun c => ?_
  dsimp only
  refine .when (uses_bumpTo _).any ?_
  refine (uses_takeWhile _).first fun dashes => uses_peek.first fun _ =>
    .guard (uses_peek.first fun _ => ?_)
  exact .ite ((uses_bumpTo _).any.first fun _ => reads_pure trivial) (reads_pure trivial)

end Pattern
end PullDecoration
