import Mathlib.Data.List.Basic
import PullDecoration.Pattern.Regex

/-! What expressions match, and that the search finds it. Whether a part of a text is matched
depends on what stands before and behind it, since conditions look there. A repetition is a number
of rounds; as its body may match without a character, the search relies on no repetition asking for
more rounds than it allows. -/
namespace PullDecoration
namespace Pattern

/-- What is matched between the text before it and the text behind it. -/
abbrev Span : Type := List Char → List Char → List Char → Prop

def Rounds (m : Span) : Nat → Span
  | 0, _, mid, _ => mid = []
  | k + 1, pre, mid, post => ∃ first others, mid = first ++ others ∧ m pre first (others ++ post) ∧
      Rounds m k (pre ++ first) others post

theorem rounds_empty {m : Span} {pre post : List Char} (h : m pre [] post) (k : Nat) :
    Rounds m k pre [] post := by
  induction k with
  | zero => rfl
  | succ k ih => exact ⟨[], [], rfl, h, by simpa using ih⟩

theorem empty_of_rounds {m : Span} {pre post : List Char} {k : Nat}
    (h : Rounds m (k + 1) pre [] post) :
    m pre [] post := by
  obtain ⟨first, others, hsplit, hfirst, -⟩ := h
  obtain ⟨rfl, rfl⟩ := List.append_eq_nil_iff.mp hsplit.symm
  exact hfirst

/-- Rounds over a text that is not empty: some empty ones, then the one that takes the first
character. -/
theorem rounds_cons_iff {m : Span} {k : Nat} {pre mid post : List Char} {c : Char} :
    Rounds m k pre (c :: mid) post ↔ ∃ j left, k = j + 1 + left ∧
    (0 < j → m pre [] (c :: (mid ++ post))) ∧
      ∃ first others, mid = first ++ others ∧ m pre (c :: first) (others ++ post) ∧
        Rounds m left (pre ++ c :: first) others post := by
  induction k with
  | zero =>
    simp only [Rounds, reduceCtorEq, false_iff, not_exists]
    rintro j left ⟨hk, -⟩
    omega
  | succ k ih =>
    constructor
    · rintro ⟨first, others, hsplit, hfirst, hrest⟩
      cases first with
      | nil =>
        obtain rfl : others = c :: mid := hsplit.symm
        rw [List.append_nil] at hrest
        obtain ⟨j, left, rfl, -, hround⟩ := ih.mp hrest
        exact ⟨j + 1, left, by omega, fun _ => hfirst, hround⟩
      | cons d first =>
        obtain ⟨rfl, rfl⟩ := List.cons.inj hsplit
        exact ⟨0, k, by omega, fun h => absurd h (Nat.lt_irrefl 0), first,
          others, rfl, hfirst, hrest⟩
    · rintro ⟨j, left, hk, hempty, first, others, rfl, hfirst, hrest⟩
      cases j with
      | zero =>
        obtain rfl : k = left := by omega
        exact ⟨c :: first, others, rfl, hfirst, hrest⟩
      | succ j =>
        refine ⟨[], c :: (first ++ others), rfl, hempty (Nat.succ_pos j), ?_⟩
        rw [List.append_nil]
        exact ih.mpr ⟨j, left, by omega, fun _ => hempty (Nat.succ_pos j), first,
          others, rfl, hfirst, hrest⟩

namespace Regex

/-- The expression matches the part between the two others of a text. -/
def Matches : Regex → Span
  | .empty, _, mid, _ => mid = []
  | .set s, _, mid, _ => ∃ c, mid = [c] ∧ s.mem c
  | .look l, pre, mid, post => mid = [] ∧ l.holds pre.getLast? post.head?
  | .seq a b, pre, mid, post =>
    ∃ first others, mid = first ++ others ∧ a.Matches pre first (others ++ post) ∧
      b.Matches (pre ++ first) others post
  | .alt a b, pre, mid, post => a.Matches pre mid post ∨ b.Matches pre mid post
  | .rep a least most, pre, mid, post =>
    ∃ k, least ≤ k ∧ (∀ m ∈ most, k ≤ m) ∧ Rounds a.Matches k pre mid post

/-- No repetition asks for more rounds than it allows. -/
def Ordered : Regex → Prop
  | .empty | .set _ | .look _ => True
  | .seq a b | .alt a b => a.Ordered ∧ b.Ordered
  | .rep a least most => a.Ordered ∧ ∀ m ∈ most, least ≤ m

variable {r : Regex} {pre mid post : List Char} {c : Char}

theorem nullable_iff (h : r.Ordered) : r.nullable pre.getLast? post.head? = true ↔
    r.Matches pre [] post := by
  induction r generalizing pre post with
  | empty => simp [nullable, Matches]
  | set s => simp [nullable, Matches]
  | look l => simp [nullable, Matches]
  | seq a b iha ihb =>
    rw [nullable, Bool.and_eq_true, iha h.1, ihb h.2]
    constructor
    · rintro ⟨ha, hb⟩
      exact ⟨[], [], rfl, ha, by simpa using hb⟩
    · rintro ⟨first, others, hsplit, ha, hb⟩
      obtain ⟨rfl, rfl⟩ := List.append_eq_nil_iff.mp hsplit.symm
      exact ⟨ha, by simpa using hb⟩
  | alt a b iha ihb => rw [nullable, Bool.or_eq_true, iha h.1, ihb h.2, Matches]
  | rep a least most iha =>
    rw [nullable, Bool.or_eq_true, decide_eq_true_iff, iha h.1]
    constructor
    · rintro (rfl | ha)
      · exact ⟨0, Nat.le_refl 0, fun _ _ => Nat.zero_le _, rfl⟩
      · exact ⟨least, Nat.le_refl _, h.2, rounds_empty ha least⟩
    · rintro ⟨k, hleast, -, hrounds⟩
      cases k with
      | zero => exact .inl (Nat.le_zero.mp hleast)
      | succ k => exact .inr (empty_of_rounds hrounds)

theorem andThen_matches {a b : Regex} : (andThen a b).Matches pre mid post ↔
    (seq a b).Matches pre mid post := by
  by_cases ha : a = .empty
  · simp [andThen, ha, Matches]
  · rw [andThen, if_neg ha]

/-- A repetition goes on behind a round that took a character as long as this is not one round too
many. -/
theorem rep_cons_iff {a : Regex} {least : Nat} {most : Option Nat} (ha : a.Ordered)
    (horder : ∀ m ∈ most, least ≤ m) :
    (rep a least most).Matches pre (c :: mid) post ↔ most ≠ some 0 ∧
      ∃ first others, mid = first ++ others ∧ a.Matches pre (c :: first) (others ++ post) ∧
        (fewer a (a.nullable pre.getLast? (some c)) least most).Matches
          (pre ++ c :: first) others post := by
  have hempty : a.nullable pre.getLast? (some c) = true ↔ a.Matches pre [] (c :: (mid ++ post)) :=
    @nullable_iff a pre (c :: (mid ++ post)) ha
  constructor
  · rintro ⟨k, hleast, hmost, hrounds⟩
    obtain ⟨j, left, rfl, hj, first, others, rfl, hfirst, hrest⟩ := rounds_cons_iff.mp hrounds
    refine ⟨?_, first, others, rfl, hfirst, left, ?_, ?_, hrest⟩
    · rintro rfl
      have := hmost 0 rfl
      omega
    · cases hnull : a.nullable pre.getLast? (some c) with
      | true => simp
      | false =>
        have hzero : ¬ 0 < j := fun hpos => by simp [hempty.mpr (hj hpos)] at hnull
        simp only [Bool.false_eq_true, if_false]
        omega
    · intro m hm
      obtain ⟨n, hn, rfl⟩ := Option.map_eq_some_iff.mp hm
      have := hmost n hn
      omega
  · rintro ⟨hzero, first, others, rfl, hfirst, left, hleast, hmost, hrest⟩
    have hroom : ∀ m ∈ most, left + 1 ≤ m := by
      intro m hm
      have hpos : m ≠ 0 := fun h => hzero (h ▸ hm)
      have := hmost (m - 1) (Option.map_eq_some_iff.mpr ⟨m, hm, rfl⟩)
      omega
    cases hnull : a.nullable pre.getLast? (some c) with
    | false =>
      rw [hnull] at hleast
      simp only [Bool.false_eq_true, if_false] at hleast
      refine ⟨0 + 1 + left, by omega, fun m hm => ?_, rounds_cons_iff.mpr
        ⟨0, left, rfl, fun h => absurd h (Nat.lt_irrefl 0), first, others, rfl, hfirst, hrest⟩⟩
      have := hroom m hm
      omega
    | true =>
      -- empty rounds make up for those that are missing
      refine ⟨least - 1 - left + 1 + left, by omega, fun m hm => ?_, rounds_cons_iff.mpr
        ⟨least - 1 - left, left, rfl, fun _ => hempty.mp hnull, first, others, rfl, hfirst, hrest⟩⟩
      have := hroom m hm
      have := horder m hm
      omega

theorem after_andThen_iff {a b : Regex}
    (ha : ∀ first post, a.Matches pre (c :: first) post ↔
      ∃ x ∈ after pre.getLast? c a, x.Matches (pre ++ [c]) first post) :
    (∃ x ∈ (after pre.getLast? c a).map (andThen · b), x.Matches (pre ++ [c]) mid post) ↔
      ∃ first others, mid = first ++ others ∧ a.Matches pre (c :: first) (others ++ post) ∧
        b.Matches (pre ++ c :: first) others post := by
  simp only [List.mem_map, exists_exists_and_eq_and, andThen_matches, Matches,
    ha, List.append_assoc, List.singleton_append]
  constructor
  · rintro ⟨x, hx, first, others, hsplit, hfirst, hothers⟩
    exact ⟨first, others, hsplit, ⟨x, hx, hfirst⟩, hothers⟩
  · rintro ⟨first, others, hsplit, ⟨x, hx, hfirst⟩, hothers⟩
    exact ⟨x, hx, first, others, hsplit, hfirst, hothers⟩

theorem after_iff (h : r.Ordered) : r.Matches pre (c :: mid) post ↔
    ∃ x ∈ after pre.getLast? c r, x.Matches (pre ++ [c]) mid post := by
  induction r generalizing pre mid post with
  | empty => simp [after, Matches]
  | look l => simp [after, Matches]
  | set s =>
    by_cases hc : s.mem c = true
    · simp [after, Matches, hc]
    · simp [after, Matches, hc]
  | alt a b iha ihb =>
    simp only [Matches, after, List.mem_append, iha h.1, ihb h.2, or_and_right, exists_or]
  | seq a b iha ihb =>
    have hempty : a.nullable pre.getLast? (some c) = true ↔ a.Matches pre [] (c :: (mid ++ post)) :=
      @nullable_iff a pre (c :: (mid ++ post)) h.1
    simp only [after, List.mem_append, or_and_right, exists_or,
      after_andThen_iff fun _ _ => iha h.1]
    constructor
    · rintro ⟨first, others, hsplit, ha, hb⟩
      cases first with
      | nil =>
        obtain rfl : others = c :: mid := hsplit.symm
        rw [List.append_nil] at hb
        refine .inr ?_
        rw [if_pos (hempty.mpr ha)]
        exact (ihb h.2).mp hb
      | cons d first =>
        obtain ⟨rfl, rfl⟩ := List.cons.inj hsplit
        exact .inl ⟨first, others, rfl, ha, hb⟩
    · rintro (⟨first, others, rfl, ha, hb⟩ | ⟨x, hx, hmatch⟩)
      · exact ⟨c :: first, others, rfl, ha, hb⟩
      · split at hx
        · rename_i hnull
          refine ⟨[], c :: mid, rfl, hempty.mp hnull, ?_⟩
          rw [List.append_nil]
          exact (ihb h.2).mpr ⟨x, hx, hmatch⟩
        · cases hx
  | rep a least most iha =>
    rw [rep_cons_iff h.1 h.2, after]
    by_cases hmost : most = some 0
    · simp [hmost]
    · rw [if_neg hmost, after_andThen_iff fun _ _ => iha h.1]
      exact and_iff_right hmost

theorem after_ordered {before : Option Char} (h : r.Ordered) :
    ∀ x ∈ after before c r, x.Ordered := by
  have handThen {a b : Regex} (ha : a.Ordered) (hb : b.Ordered) : (andThen a b).Ordered := by
    rw [andThen]
    split
    · exact hb
    · exact ⟨ha, hb⟩
  induction r with
  | empty | look l => exact List.forall_mem_nil _
  | set s =>
    rw [after]
    split
    · exact List.forall_mem_singleton.mpr trivial
    · exact List.forall_mem_nil _
  | alt a b iha ihb => exact List.forall_mem_append.mpr ⟨iha h.1, ihb h.2⟩
  | seq a b iha ihb =>
    refine List.forall_mem_append.mpr
      ⟨List.forall_mem_map.mpr fun x hx => handThen (iha h.1 x hx) h.2, ?_⟩
    split
    · exact ihb h.2
    · exact List.forall_mem_nil _
  | rep a least most iha =>
    rw [after]
    split
    · exact List.forall_mem_nil _
    · refine List.forall_mem_map.mpr fun x hx => handThen (iha h.1 x hx) ⟨h.1, fun m hm => ?_⟩
      obtain ⟨n, hn, rfl⟩ := Option.map_eq_some_iff.mp hm
      have := h.2 n hn
      split <;> omega

/-- A match that was begun ends in the rest of the text, or one begins there and ends. -/
def Ends (r : Regex) (active : List Regex) (pre rest : List Char) : Prop :=
  (∃ x ∈ active, ∃ mid post, rest = mid ++ post ∧ x.Matches pre mid post) ∨
    ∃ skipped mid post, rest = skipped ++ (mid ++ post) ∧ r.Matches (pre ++ skipped) mid post

theorem any_nullable_iff {xs : List Regex} (h : ∀ x ∈ xs, x.Ordered) :
    xs.any (nullable pre.getLast? post.head?) = true ↔ ∃ x ∈ xs, x.Matches pre [] post := by
  rw [List.any_eq_true]
  exact exists_congr fun x => and_congr_right fun hx => nullable_iff (h x hx)

/-- A match ends at once, or it takes the next character, or it begins behind that. -/
theorem ends_cons_iff {active : List Regex} {rest : List Char} (h : ∀ x ∈ r :: active, x.Ordered) :
    r.Ends active pre (c :: rest) ↔ (∃ x ∈ r :: active, x.Matches pre [] (c :: rest)) ∨
      r.Ends ((r :: active).flatMap (after pre.getLast? c)) (pre ++ [c]) rest := by
  have hafter (x : Regex) (hx : x ∈ r :: active) {mid post : List Char}
    (hmatch : x.Matches pre (c :: mid) post) :
      ∃ y ∈ (r :: active).flatMap (after pre.getLast? c), y.Matches (pre ++ [c]) mid post := by
    obtain ⟨y, hy, hnext⟩ := (after_iff (h x hx)).mp hmatch
    exact ⟨y, List.mem_flatMap.mpr ⟨x, hx, hy⟩, hnext⟩
  have hmid (x : Regex) (hx : x ∈ r :: active) {mid post : List Char}
    (hrest : c :: rest = mid ++ post)
      (hmatch : x.Matches pre mid post) : (∃ x ∈ r :: active, x.Matches pre [] (c :: rest)) ∨
        r.Ends ((r :: active).flatMap (after pre.getLast? c)) (pre ++ [c]) rest := by
    cases mid with
    | nil => exact .inl ⟨x, hx, hrest ▸ hmatch⟩
    | cons d mid =>
      obtain ⟨rfl, rfl⟩ := List.cons.inj hrest
      obtain ⟨y, hy, hnext⟩ := hafter x hx hmatch
      exact .inr (.inl ⟨y, hy, mid, post, rfl, hnext⟩)
  constructor
  · rintro (⟨x, hx, mid, post, hrest, hmatch⟩ | ⟨skipped, mid, post, hrest, hmatch⟩)
    · exact hmid x (List.mem_cons_of_mem _ hx) hrest hmatch
    · cases skipped with
      | nil =>
        rw [List.append_nil] at hmatch
        rw [List.nil_append] at hrest
        exact hmid r List.mem_cons_self hrest hmatch
      | cons d skipped =>
        obtain ⟨rfl, rfl⟩ := List.cons.inj hrest
        exact .inr (.inr ⟨skipped, mid, post, rfl, by simpa using hmatch⟩)
  · rintro (⟨x, hx, hmatch⟩ | ⟨y, hy, mid, post, rfl, hmatch⟩ | ⟨skipped, mid, post, rfl, hmatch⟩)
    · obtain rfl | hx := List.mem_cons.mp hx
      · exact .inr ⟨[], [], c :: rest, rfl, by simpa using hmatch⟩
      · exact .inl ⟨x, hx, [], c :: rest, rfl, hmatch⟩
    · obtain ⟨x, hx, hy⟩ := List.mem_flatMap.mp hy
      have hbegun := (after_iff (h x hx)).mpr ⟨y, hy, hmatch⟩
      obtain rfl | hx := List.mem_cons.mp hx
      · exact .inr ⟨[], c :: mid, post, rfl, by simpa using hbegun⟩
      · exact .inl ⟨x, hx, c :: mid, post, rfl, hbegun⟩
    · exact .inr ⟨c :: skipped, mid, post, rfl, by simpa using hmatch⟩

theorem search_iff {active : List Regex} {rest : List Char} (h : ∀ x ∈ r :: active, x.Ordered) :
    search r active pre.getLast? rest = true ↔ r.Ends active pre rest := by
  induction rest generalizing pre active with
  | nil =>
    have hhead : none = ([] : List Char).head? := rfl
    rw [search, hhead, any_nullable_iff h]
    simp [Ends, or_comm]
  | cons c rest ih =>
    have hnext : ∀ x ∈ r :: ((r :: active).flatMap (after pre.getLast? c)).eraseDups,
        x.Ordered := by
      refine List.forall_mem_cons.mpr ⟨h r List.mem_cons_self, fun y hy => ?_⟩
      obtain ⟨x, hx, hy⟩ := List.mem_flatMap.mp (List.mem_eraseDups.mp hy)
      exact after_ordered (h x hx) y hy
    have hrest := @ih (pre ++ [c]) _ hnext
    rw [List.getLast?_concat] at hrest
    have hhead : some c = (c :: rest).head? := rfl
    rw [search, Bool.or_eq_true, hrest, hhead, any_nullable_iff h, ends_cons_iff h]
    simp only [Ends, List.mem_eraseDups]

theorem occursIn_iff (h : r.Ordered) (s : List Char) :
    r.occursIn s = true ↔ ∃ pre mid post, s = pre ++ (mid ++ post) ∧ r.Matches pre mid post := by
  have hsearch := @search_iff r [] [] s (List.forall_mem_singleton.mpr h)
  rw [List.getLast?_nil] at hsearch
  rw [occursIn, hsearch]
  simp [Ends]

def bounded (r : Regex) : Regex := .seq (.look .textStart) (.seq r (.look .textEnd))

/-- Between these conditions an expression is found exactly in the texts that it matches as a
whole. -/
theorem bounded_occursIn_iff (h : r.Ordered) (s : List Char) :
    r.bounded.occursIn s = true ↔ r.Matches [] s [] := by
  rw [occursIn_iff (show r.bounded.Ordered from ⟨trivial, h, trivial⟩)]
  constructor
  · rintro ⟨pre, mid, post, rfl, first, others, rfl, ⟨rfl, hstart⟩, mid, last,
      rfl, hmatch, rfl, hend⟩
    have hpre : pre = [] := by simpa [Look.holds] using hstart
    have hpost : post = [] := by simpa [Look.holds] using hend
    subst hpre hpost
    simpa using hmatch
  · intro hmatch
    refine ⟨[], s, [], by simp, [], s, rfl, ⟨rfl, by simp [Look.holds]⟩, s,
      [], by simp, ?_, rfl, ?_⟩
    · simpa using hmatch
    · simp [Look.holds]

end Regex
end Pattern
end PullDecoration
