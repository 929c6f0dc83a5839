import PullDecoration.Proofs.Pattern.Anchored
import PullDecoration.Proofs.Resolution.Recording
import PullDecoration.Proofs.Resolution.Refusal

/-! New branches are classified by a pattern. Where the host does not know the unified type, a name
is long-lived if the whole of it is matched, and a pattern that is no regular expression is refused.
The text of the pattern is put between the marks for start and end; the exact condition for that to
make no difference is stated here. -/
namespace PullDecoration
namespace Resolver

open Pattern

variable {r : Resolver} {p : Parameters} {g : Registry}

def givenPattern (r : Resolver) (p : Parameters) : Option String :=
  r.pattern.or (p.value? Parameters.longLivedPattern)

/-- The pattern is taken as it is: if it is no regular expression, it is refused by its name; if it
is one, a name counts as long-lived if it is matched from its first to its last character, and as
short-lived if not. -/
structure FollowsPattern (r : Resolver) (p : Parameters) (g : Registry) : Prop where
  refuses {e : PatternError} (h : compile (r.patternText p) = .error e) :
    ∃ reason, r.resolve p g = .error (.invalidPattern (r.patternText p) reason)
  classifies {x : Regex} (h : compile (r.patternText p) = .ok x) :
    ∃ type, r.classify (r.givenPattern p) (branchName p g) = .ok type ∧
      (type = .longLived ↔ x.Matches [] (nameText p g).toList []) ∧
      (type = .shortLived ↔ ¬ x.Matches [] (nameText p g).toList []) ∧
      ∀ d, r.resolve p g = .ok d → d.type = type

/-- The parameters ask for a branch without a record on a host that does not know the unified
type. -/
structure AsksForNewBranch (r : Resolver) (p : Parameters) (g : Registry) : Prop where
  asks : AsksForBranch p g
  unrecorded : g.find? (nameText p g) = none
  legacy : r.capabilities.unified = false

theorem AsksForNewBranch.resolve_eq (h : AsksForNewBranch r p g) :
    r.resolve p g = r.newBranch g (r.givenPattern p) (branchName p g) (branchTarget p g) := by
  rw [h.asks.resolve_eq, branch_eq, branchName_text, h.unrecorded]
  rfl

theorem classify_of_ok {x : Regex} (hlegacy : r.capabilities.unified = false)
    {pattern : Option String} {name : BranchName}
    (h : compile (anchored (pattern.getD defaultPattern)) = .ok x) :
    r.classify pattern name =
      .ok (if x.occursIn name.text.toList then .longLived else .shortLived) := by
  unfold classify
  rw [hlegacy, if_neg Bool.false_ne_true]
  simp only [h]

theorem AsksForNewBranch.resolve_of_error (h : AsksForNewBranch r p g) {e : PatternError}
    (hpattern : compile (anchored (r.patternText p)) = .error e) :
    r.resolve p g = .error
      (.invalidPattern (r.patternText p) (e.message (anchored (r.patternText p)))) := by
  rw [h.resolve_eq, newBranch_eq_error]
  exact .inl (classify_eq_error.mpr ⟨h.legacy, e, hpattern, rfl⟩)

theorem AsksForNewBranch.type_eq (h : AsksForNewBranch r p g) {type : BranchType} {d : Descriptor}
    (hclass : r.classify (r.givenPattern p) (branchName p g) = .ok type)
    (hd : r.resolve p g = .ok d) :
    d.type = type := by
  rw [h.resolve_eq] at hd
  obtain ⟨type', hclass', hd⟩ := bind_eq_ok.mp hd
  cases hclass.symm.trans hclass'
  obtain ⟨base, -, hd⟩ := bind_eq_ok.mp hd
  obtain ⟨hne, rfl⟩ := describe_eq_ok.mp hd
  rfl

/-- Where the pattern is followed, the marks around it make no difference to whether it is a regular
expression. -/
theorem FollowsPattern.compile_iff (hfollows : FollowsPattern r p g) (h : AsksForNewBranch r p g) :
    (∃ x, compile (r.patternText p) = .ok x) ↔
      ∃ x, compile (anchored (r.patternText p)) = .ok x := by
  constructor
  · rintro ⟨x, hx⟩
    obtain ⟨type, hclass, -⟩ := hfollows.classifies hx
    exact (classify_succeeds.mp ⟨type, hclass⟩).resolve_left (by simp [h.legacy])
  · rintro ⟨y, hy⟩
    cases hpattern : compile (r.patternText p) with
    | ok x => exact ⟨x, rfl⟩
    | error e =>
      obtain ⟨reason, hrefused⟩ := hfollows.refuses hpattern
      rw [h.resolve_eq, newBranch_eq_error] at hrefused
      rcases hrefused with hclass | ⟨-, htarget⟩
      · obtain ⟨-, e', he', -⟩ := classify_eq_error.mp hclass
        cases hy.symm.trans he'
      · cases htarget

theorem AsksForNewBranch.followsPattern (h : AsksForNewBranch r p g)
    (hiff : (∃ x, compile (r.patternText p) = .ok x) ↔
      ∃ x, compile (anchored (r.patternText p)) = .ok x) :
    FollowsPattern r p g := by
  refine ⟨fun {e} he => ?_, fun {x} hx => ?_⟩
  · cases hwhole : compile (anchored (r.patternText p)) with
    | error e' => exact ⟨_, h.resolve_of_error hwhole⟩
    | ok y =>
      obtain ⟨x, hx⟩ := hiff.mpr ⟨y, hwhole⟩
      cases he.symm.trans hx
  · obtain ⟨y, hy⟩ := hiff.mp ⟨x, hx⟩
    have hwhole : compile (anchored (r.patternText p)) = .ok x.bounded :=
      (compile_anchored hx).resolve_right fun ⟨⟨e, he⟩, _⟩ => by cases hy.symm.trans he
    have hmatches := Regex.bounded_occursIn_iff (compile_ordered hx) (nameText p g).toList
    rw [← branchName_text] at hmatches
    have hclass : r.classify (r.givenPattern p) (branchName p g) =
        .ok (if x.bounded.occursIn (branchName p g).text.toList then .longLived else .shortLived) :=
      classify_of_ok h.legacy hwhole
    refine ⟨_, hclass, ?_, ?_, fun d hd => h.type_eq hclass hd⟩
    · rw [← branchName_text, ← hmatches]
      cases x.bounded.occursIn (branchName p g).text.toList <;> decide
    · rw [← branchName_text, ← hmatches]
      cases x.bounded.occursIn (branchName p g).text.toList <;> decide

theorem releaseLine_asksForNewBranch (pattern : String) :
    AsksForNewBranch ⟨legacyHost.capabilities, some pattern⟩
      ⟨[("branch.name", "release/1")]⟩ legacyRegistry :=
  ⟨⟨rfl, rfl⟩, by decide, rfl⟩

/-- Resolution follows the pattern exactly if the marks around the pattern make no difference to
whether it is a regular expression. They do where it has a closing parenthesis without an opening
one, which pairs with what is put in front of it; and where a comment is left open in it, or the
group around it makes it nested too deep or too great. -/
theorem followsPattern_iff (h : AsksForNewBranch r p g) :
    (FollowsPattern r p g ↔
      ((∃ x, compile (r.patternText p) = .ok x) ↔
        ∃ x, compile (anchored (r.patternText p)) = .ok x)) ∧
    (∀ e, compile (r.patternText p) = .error e → ∀ y, compile (anchored (r.patternText p)) = .ok y →
      e = .groupUnopened) ∧
    (∀ x, compile (r.patternText p) = .ok x → ∀ e, compile (anchored (r.patternText p)) = .error e →
      OpenComment (r.patternText p).toList ∨ Crowded (r.patternText p) x) := by
  refine ⟨⟨fun hfollows => hfollows.compile_iff h, h.followsPattern⟩, fun e he y hy => ?_,
    fun x hx e he => ?_⟩
  · rcases of_compile_anchored hy with ⟨x, hx, -⟩ | hclosed
    · cases he.symm.trans hx
    · cases he.symm.trans hclosed
      rfl
  · rcases compile_anchored hx with hwhole | ⟨-, hreason⟩
    · cases he.symm.trans hwhole
    · exact hreason

/-- A release line under a pattern with a group in it, which is one between the marks too. -/
theorem releaseLine_followsPattern :
    (compile "(hotfix|release)/[0-9]+").isOk = true ∧
    (compile (anchored "(hotfix|release)/[0-9]+")).isOk = true ∧
      FollowsPattern ⟨legacyHost.capabilities, some "(hotfix|release)/[0-9]+"⟩
        ⟨[("branch.name", "release/1")]⟩
        legacyRegistry := by
  have halone : (compile "(hotfix|release)/[0-9]+").isOk = true := by decide +kernel
  have hwhole : (compile (anchored "(hotfix|release)/[0-9]+")).isOk = true := by decide +kernel
  exact ⟨halone, hwhole, (followsPattern_iff (releaseLine_asksForNewBranch _)).1.mpr
    (iff_of_true (isOk_iff.mp halone) (isOk_iff.mp hwhole))⟩

def strayParenthesis : Parameters :=
  ⟨[("branch.name", "axyz"), ("branch.longLivedBranches.regex", "a)|(?:b")]⟩

def endingComment : Parameters :=
  ⟨[("branch.name", "a"), ("branch.longLivedBranches.regex", "(?x)a#c")]⟩

/-- The pattern with the stray parenthesis is no regular expression, but accepted, and makes a name
long-lived for its first character; the one with the comment is a regular expression, but
refused. -/
theorem strayParenthesis_accepted :
    AsksForNewBranch legacyHost strayParenthesis legacyRegistry ∧
    (compile (legacyHost.patternText strayParenthesis)).isOk = false ∧
    (legacyHost.resolve strayParenthesis legacyRegistry).toOption.map (·.type) = some .longLived ∧
    ¬ FollowsPattern legacyHost strayParenthesis legacyRegistry ∧
    AsksForNewBranch legacyHost endingComment legacyRegistry ∧
    (legacyHost.resolve endingComment legacyRegistry).isOk = false ∧
    ¬ FollowsPattern legacyHost endingComment legacyRegistry := by
  have hstray : (compile (legacyHost.patternText strayParenthesis)).isOk =
    false := by decide +kernel
  have hlong : (legacyHost.resolve strayParenthesis legacyRegistry).toOption.map (·.type) =
      some .longLived := by
    decide +kernel
  have hcomment : (compile (legacyHost.patternText endingComment)).isOk = true := by decide +kernel
  have hrefused : (legacyHost.classify (legacyHost.givenPattern endingComment)
      (branchName endingComment legacyRegistry)).isOk = false := by decide +kernel
  refine ⟨⟨⟨rfl, rfl⟩, by decide, rfl⟩, hstray, hlong, fun hfollows => ?_,
    ⟨⟨rfl, rfl⟩, by decide, rfl⟩, by decide +kernel, fun hfollows => ?_⟩
  · cases hpattern : compile (legacyHost.patternText strayParenthesis) with
    | ok x =>
      rw [hpattern] at hstray
      cases hstray
    | error e =>
      obtain ⟨reason, hreason⟩ := hfollows.refuses hpattern
      rw [hreason] at hlong
      cases hlong
  · obtain ⟨x, hx⟩ := isOk_iff.mp hcomment
    obtain ⟨type, hclass, -⟩ := hfollows.classifies hx
    rw [hclass] at hrefused
    cases hrefused

end Resolver
end PullDecoration
