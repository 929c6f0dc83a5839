import PullDecoration.Proofs.Pattern.Matching

/-! Expressions that match what can be read off them: a text that is written out, and any number of
characters of one set. What stands before and behind a match makes no difference to either. -/
namespace PullDecoration
namespace Pattern
namespace Regex

variable {pre mid post : List Char}

def word : List Char → Regex
  | [] => .empty
  | [c] => .set (.single c)
  | c :: d :: cs => .seq (.set (.single c)) (word (d :: cs))

def anyOf (s : CharSet) : Regex := .rep (.set s) 0 none

theorem word_matches {cs : List Char} : (word cs).Matches pre mid post ↔ mid = cs := by
  induction cs using word.induct generalizing pre mid with
  | case1 => rfl
  | case2 c => simp [word, Matches]
  | case3 c d cs ih =>
    simp only [word, Matches, ih, CharSet.mem_single, decide_eq_true_eq]
    constructor
    · rintro ⟨first, others, rfl, ⟨e, rfl, rfl⟩, rfl⟩
      rfl
    · rintro rfl
      exact ⟨[c], d :: cs, rfl, ⟨c, rfl, rfl⟩, rfl⟩

theorem rounds_set {s : CharSet} {k : Nat} :
    Rounds (set s).Matches k pre mid post ↔ mid.length = k ∧ ∀ c ∈ mid, s.mem c = true := by
  induction k generalizing pre mid with
  | zero =>
    rw [Rounds, List.length_eq_zero_iff, and_iff_left_of_imp]
    rintro rfl
    exact List.forall_mem_nil _
  | succ k ih =>
    simp only [Rounds, ih]
    constructor
    · rintro ⟨first, others, rfl, ⟨c, rfl, hc⟩, hlength, hothers⟩
      exact ⟨congrArg (· + 1) hlength, List.forall_mem_cons.mpr ⟨hc, hothers⟩⟩
    · rintro ⟨hlength, hmem⟩
      cases mid with
      | nil => cases hlength
      | cons c others =>
        obtain ⟨hc, hothers⟩ := List.forall_mem_cons.mp hmem
        exact ⟨[c], others, rfl, ⟨c, rfl, hc⟩, Nat.succ.inj hlength, hothers⟩

theorem anyOf_matches {s : CharSet} : (anyOf s).Matches pre mid post ↔
    ∀ c ∈ mid, s.mem c = true := by
  constructor
  · rintro ⟨k, -, -, hrounds⟩
    exact (rounds_set.mp hrounds).2
  · intro hmem
    exact ⟨mid.length, Nat.zero_le _, fun m hm => absurd hm (Option.not_mem_none m),
      rounds_set.mpr ⟨rfl, hmem⟩⟩

end Regex
end Pattern
end PullDecoration
