import Mathlib.Data.List.Infix
import PullDecoration.Proofs.Url.Segments

/-! Paths that climb. Segments of two points lead out of a directory if somewhere more of them have
come than names before. Text behind a root that does not climb out of it is found below it; where it
climbs out of a root of one segment, it is found where it would be without that segment. -/
namespace PullDecoration
namespace Url

def isName (s : List Char) : Bool := !isDoubleDot s && !isSingleDot s

/-- From `depth` segments down, the segments lead further up than that. -/
def ClimbsOut (depth : Nat) (ss : List (List Char)) : Prop :=
  ∃ before, before <+: ss ∧ depth + before.countP isName < before.countP isDoubleDot

instance (depth : Nat) (ss : List (List Char)) : Decidable (ClimbsOut depth ss) :=
  decidable_of_iff (∃ before ∈ ss.inits, depth + before.countP isName < before.countP isDoubleDot)
    (exists_congr fun before => and_congr_left fun _ => List.mem_inits before ss)

section Climbs

variable {depth : Nat} {s : List Char} {ss : List (List Char)}

theorem not_climbsOut_nil : ¬ ClimbsOut depth [] := by
  rintro ⟨before, hbefore, hcount⟩
  rw [List.prefix_nil.mp hbefore] at hcount
  exact absurd hcount (Nat.not_lt_zero _)

theorem isEmpty_of_climbsOut (h : ClimbsOut depth ss) : ss.isEmpty = false := by
  cases ss with
  | nil => exact absurd h not_climbsOut_nil
  | cons s ss => rfl

theorem climbsOut_cons : ClimbsOut depth (s :: ss) ↔
    ∃ before, before <+: ss ∧ depth + (s :: before).countP isName <
      (s :: before).countP isDoubleDot := by
  constructor
  · rintro ⟨before, hbefore, hcount⟩
    rcases List.prefix_cons_iff.mp hbefore with rfl | ⟨rest, rfl, hrest⟩
    · exact absurd hcount (Nat.not_lt_zero _)
    · exact ⟨rest, hrest, hcount⟩
  · rintro ⟨before, hbefore, hcount⟩
    exact ⟨s :: before, (List.prefix_cons_inj s).mpr hbefore, hcount⟩

theorem climbsOut_zero (hs : isDoubleDot s = true) : ClimbsOut 0 (s :: ss) :=
  climbsOut_cons.mpr ⟨[], List.nil_prefix, by simp [hs, isName]⟩

theorem climbsOut_succ (hs : isDoubleDot s = true) :
    ClimbsOut (depth + 1) (s :: ss) ↔ ClimbsOut depth ss := by
  rw [climbsOut_cons]
  refine exists_congr fun before => and_congr_right fun _ => ?_
  simp [hs, isName]
  omega

theorem climbsOut_stay (hdouble : isDoubleDot s = false) (hsingle : isSingleDot s = true) :
    ClimbsOut depth (s :: ss) ↔ ClimbsOut depth ss := by
  rw [climbsOut_cons]
  refine exists_congr fun before => and_congr_right fun _ => ?_
  simp [hdouble, hsingle, isName]

theorem climbsOut_down (hdouble : isDoubleDot s = false) (hsingle : isSingleDot s = false) :
    ClimbsOut depth (s :: ss) ↔ ClimbsOut (depth + 1) ss := by
  rw [climbsOut_cons]
  refine exists_congr fun before => and_congr_right fun _ => ?_
  simp [hdouble, hsingle, isName]
  omega

theorem resolveDots_of_stays (acc base : List (List Char)) (h : ¬ ClimbsOut acc.length ss) :
    resolveDots (acc ++ base) ss = base.reverse ++ resolveDots acc ss := by
  induction ss generalizing acc with
  | nil => simp [resolveDots]
  | cons s ss ih =>
    rw [resolveDots, resolveDots]
    cases hdouble : isDoubleDot s with
    | true =>
      cases acc with
      | nil => exact absurd (climbsOut_zero hdouble) h
      | cons t acc =>
        have hrest := ih acc (mt (climbsOut_succ hdouble).mpr h)
        simp only [if_true, List.cons_append, List.drop_succ_cons, List.drop_zero, hrest]
        split <;> simp
    | false =>
      cases hsingle : isSingleDot s with
      | true =>
        have hrest := ih acc (mt (climbsOut_stay hdouble hsingle).mpr h)
        simp only [if_true, if_false, Bool.false_eq_true, hrest]
        split <;> simp
      | false =>
        have hrest := ih (s :: acc) (mt (climbsOut_down hdouble hsingle).mpr h)
        simpa using hrest

/-- Segments that climb out of a directory at the top lead to where they lead without it. -/
theorem resolveDots_of_climbs (acc : List (List Char))
    (h : ClimbsOut acc.length ss) (t : List Char) :
    resolveDots (acc ++ [t]) ss = resolveDots acc ss := by
  induction ss generalizing acc with
  | nil => exact absurd h not_climbsOut_nil
  | cons s ss ih =>
    rw [resolveDots, resolveDots]
    cases hdouble : isDoubleDot s with
    | true =>
      cases acc with
      | nil => rfl
      | cons u acc =>
        have hclimbs := (climbsOut_succ hdouble).mp h
        simpa [isEmpty_of_climbsOut hclimbs] using ih acc hclimbs
    | false =>
      cases hsingle : isSingleDot s with
      | true =>
        have hclimbs := (climbsOut_stay hdouble hsingle).mp h
        simpa [isEmpty_of_climbsOut hclimbs] using ih acc hclimbs
      | false =>
        have hrest := ih (s :: acc) ((climbsOut_down hdouble hsingle).mp h)
        simpa using hrest

theorem resolveDots_ne_nil (h : ss ≠ []) (acc : List (List Char)) : resolveDots acc ss ≠ [] := by
  induction ss generalizing acc with
  | nil => exact absurd rfl h
  | cons s ss ih =>
    -- Behind dots at the end comes an empty segment.
    have hdots (acc : List (List Char)) :
        (if ss.isEmpty then ([] :: acc).reverse else resolveDots acc ss) ≠ [] := by
      cases ss with
      | nil => simp
      | cons t ss => exact ih (List.cons_ne_nil t ss) acc
    rw [resolveDots]
    split
    · exact hdots (acc.drop 1)
    · split
      · exact hdots acc
      · cases ss with
        | nil => simp [resolveDots]
        | cons t ss => exact ih (List.cons_ne_nil t ss) (s :: acc)

end Climbs

def tailSegments (tail : List Char) : List (List Char) :=
  (splitPath true ((cleanTail tail).takeWhile isPathText)).map (percentEncode inPath)

theorem tailSegments_ne_nil (tail : List Char) : tailSegments tail ≠ [] :=
  fun h => splitPath_ne_nil true _ (List.map_eq_nil_iff.mp h)

/-- The path of the URL goes on below the root. -/
def IsUnder (root : List (List Char)) (u : Url) : Prop :=
  ∃ more, more ≠ [] ∧ u.path = .segments (root ++ more)

theorem isUnder_iff {root ss : List (List Char)} {u : Url} (hpath : u.path = .segments ss) :
    u.IsUnder root ↔ root <+: ss ∧ root.length < ss.length := by
  constructor
  · rintro ⟨more, hmore, hsplit⟩
    rw [hpath, Path.segments.injEq] at hsplit
    subst hsplit
    exact ⟨List.prefix_append root more, by simpa using List.length_pos_iff.mpr hmore⟩
  · rintro ⟨⟨more, rfl⟩, hlength⟩
    exact ⟨more, List.length_pos_iff.mp (by simpa using hlength), hpath⟩

instance (root : List (List Char)) (u : Url) : Decidable (u.IsUnder root) :=
  match hpath : u.path with
  | .segments _ => decidable_of_iff' _ (isUnder_iff hpath)
  | .opaque_ _ => isFalse (by simp [IsUnder, hpath])

/-- Text behind a root of one segment is below that segment if it does not climb out. Otherwise it
has the path of the same text without the segment. -/
theorem IsRoot.parse_climbing {s s' : String} {u u' : Url} {segment : List Char}
    (h : IsRoot s u [segment]) (h' : IsRoot s' u' []) (tail : List Char) :
    ∃ v v', Url.parse (s ++ String.ofList ('/' :: tail)) = .ok v ∧
      Url.parse (s' ++ String.ofList ('/' :: tail)) = .ok v' ∧ v.front = u.front ∧
      (v.IsUnder [segment] ↔ ¬ ClimbsOut 0 (tailSegments tail) ∨ v'.IsUnder [segment]) := by
  obtain ⟨v, hparse, hfront, hpath, -⟩ := h.parse_behind tail
  obtain ⟨v', hparse', -, hpath', -⟩ := h'.parse_behind tail
  refine ⟨v, v', hparse, hparse', hfront, ?_⟩
  by_cases hclimbs : ClimbsOut 0 (tailSegments tail)
  · have hsame : v.path = v'.path := by
      rw [hpath, hpath']
      exact congrArg _ (resolveDots_of_climbs [] hclimbs segment)
    simp [IsUnder, hsame, hclimbs]
  · have hstays : v.path = .segments ([segment] ++ resolveDots [] (tailSegments tail)) := by
      rw [hpath]
      exact congrArg _ (resolveDots_of_stays [] [segment] hclimbs)
    have hunder : v.IsUnder [segment] :=
      ⟨_, resolveDots_ne_nil (tailSegments_ne_nil tail) [], hstays⟩
    simp [hunder, hclimbs]

end Url
end PullDecoration
