import PullDecoration.Proofs.Pattern.Words
import PullDecoration.Proofs.Resolution.Classification

/-! The pattern for long-lived branches that counts where none is given. What it matches can be said
without an expression: names that begin with one of two words and have no line feed behind it. It is
always accepted, so that a branch without a record then fails for its target alone. -/
namespace PullDecoration
namespace Resolver

open Pattern

variable {r : Resolver} {p : Parameters} {g : Registry}

def longLivedWords : List String := ["branch", "release"]

/-- The name begins with one of these words and has no line feed behind it. -/
def LongLivedByName (name : String) : Prop :=
  ∃ word ∈ longLivedWords, ∃ behind, name = word ++ behind ∧ '\n' ∉ behind.toList

def defaultRegex : Regex :=
  .seq (.alt (.word "branch".toList) (.word "release".toList)) (.anyOf (.allBut '\n'))

theorem compile_defaultPattern : compile defaultPattern = .ok defaultRegex := by
  exact toOption_eq_some.mp (by decide +kernel)

theorem defaultPattern_anchored :
    (compile (anchored defaultPattern)).isOk = true := by decide +kernel

theorem defaultRegex_matches_iff (name : String) :
    defaultRegex.Matches [] name.toList [] ↔ LongLivedByName name := by
  have hbehind (behind : List Char) : (∀ c ∈ behind, (CharSet.allBut '\n').mem c = true) ↔
      '\n' ∉ behind := by
    simp only [CharSet.mem_allBut, Bool.not_eq_true', decide_eq_false_iff_not]
    exact List.forall_mem_ne'
  simp only [defaultRegex, Regex.Matches, Regex.word_matches, Regex.anyOf_matches,
    hbehind, LongLivedByName, longLivedWords, List.mem_cons, List.not_mem_nil, or_false]
  constructor
  · rintro ⟨word, behind, hname, hword, hfeed⟩
    refine ⟨String.ofList word, ?_, String.ofList behind, ?_, by simpa using hfeed⟩
    · rcases hword with rfl | rfl
      · exact .inl String.ofList_toList
      · exact .inr String.ofList_toList
    · exact String.toList_inj.mp (by simpa using hname)
  · rintro ⟨word, hword, behind, rfl, hfeed⟩
    refine ⟨word.toList, behind.toList, by simp, ?_, hfeed⟩
    rcases hword with rfl | rfl
    · exact .inl rfl
    · exact .inr rfl

theorem patternText_of_none (hhost : r.pattern = none)
    (hgiven : p.value? Parameters.longLivedPattern = none) :
    r.patternText p = defaultPattern := by
  rw [patternText, hhost, hgiven]
  rfl

section Default

variable (hhost : r.pattern = none) (hgiven : p.value? Parameters.longLivedPattern = none)
include hhost hgiven

/-- The default pattern is a regular expression, alone and between the marks, and so it is
followed. -/
theorem AsksForNewBranch.followsDefault (h : AsksForNewBranch r p g) : FollowsPattern r p g := by
  apply h.followsPattern
  rw [patternText_of_none hhost hgiven]
  exact iff_of_true ⟨_, compile_defaultPattern⟩ (isOk_iff.mp defaultPattern_anchored)

theorem AsksForNewBranch.classify_default (h : AsksForNewBranch r p g) :
    ∃ type, r.classify (r.givenPattern p) (branchName p g) = .ok type ∧
      (type = .longLived ↔ LongLivedByName (nameText p g)) ∧
      (type = .shortLived ↔ ¬ LongLivedByName (nameText p g)) ∧
      ∀ d, r.resolve p g = .ok d → d.type = type := by
  have hpattern : compile (r.patternText p) = .ok defaultRegex := by
    rw [patternText_of_none hhost hgiven, compile_defaultPattern]
  have hclassifies := (h.followsDefault hhost hgiven).classifies hpattern
  rwa [defaultRegex_matches_iff] at hclassifies

theorem AsksForNewBranch.resolve_default_eq_error (h : AsksForNewBranch r p g)
    {e : ResolutionError} :
    r.resolve p g = .error e ↔ TargetRefused r g (targetText p g) e := by
  obtain ⟨type, hclass, -⟩ := h.classify_default hhost hgiven
  rw [h.resolve_eq, newBranch_eq_error, h.asks.target_text, hclass]
  simp

/-- Without a pattern a branch that has no record is long-lived by its name alone, on a host that
does not know the unified type: if the name begins with one of two words and has no line feed behind
it. Otherwise it is short-lived. It fails only for its target. A project without records has no
branch but its main line. -/
theorem newBranch_byDefault (hlegacy : r.capabilities.unified = false)
    (hbranch : p.hasAny Parameters.branchKeys = true) (hnew : g.find? (nameText p g) = none) :
    (g.isEmpty = false →
      (∀ e, r.resolve p g = .error e ↔ TargetRefused r g (targetText p g) e) ∧
      ∀ d, r.resolve p g = .ok d → d.name.text = nameText p g ∧
        (d.type = .longLived ↔ LongLivedByName (nameText p g)) ∧
        (d.type = .shortLived ↔ ¬ LongLivedByName (nameText p g))) ∧
    (g.isEmpty = true → ∀ d, r.resolve p g = .ok d → d = .main conventionalMain) := by
  constructor
  · intro hempty
    have hasks : AsksForNewBranch r p g := ⟨⟨hempty, hbranch⟩, hnew, hlegacy⟩
    refine ⟨fun e => hasks.resolve_default_eq_error hhost hgiven, fun d hd => ?_⟩
    obtain ⟨type, -, hlong, hshort, htype⟩ := hasks.classify_default hhost hgiven
    rw [htype d hd]
    refine ⟨?_, hlong, hshort⟩
    rw [hasks.asks.resolve_eq, branch_eq_ok] at hd
    rw [hd.name, branchName_text]
  · intro hempty d hd
    cases resolve_eq_ok.mp hd with
    | firstAnalysis hempty' hmain => rfl
    | mainLine hempty' hnone hrequest => simp [hempty] at hempty'
    | branch hempty' hbranch' hresolved => simp [hempty] at hempty'
    | pullRequest hempty' hnone hrequest hkey hbase => simp [hempty] at hempty'

end Default

/-- A name that begins as the release lines do, but with a line feed in it, and a blank pattern. -/
def brokenName : Parameters :=
  ⟨[("branch.name", "release\n1"), ("branch.longLivedBranches.regex", " ")]⟩

theorem releaseLine_byDefault :
    (∃ d, legacyHost.resolve AnalysedBranch.releaseParameters legacyRegistry = .ok d ∧
      d.type = .longLived ∧
      LongLivedByName "release/1") ∧
    ∃ d, legacyHost.resolve brokenName legacyRegistry = .ok d ∧ d.type = .shortLived ∧
      ¬ LongLivedByName "release\n1" := by
  have hrelease : legacyHost.resolve AnalysedBranch.releaseParameters legacyRegistry =
      .ok (.ofBranch ⟨"release/1", by decide⟩ .longLived (some conventionalMain)
        ⟨"uuid-legacy", by decide⟩
        (by decide)) := by
    exact toOption_eq_some.mp (by decide +kernel)
  have hbroken : legacyHost.resolve brokenName legacyRegistry =
      .ok (.ofBranch ⟨"release\n1", by decide⟩ .shortLived (some conventionalMain)
        ⟨"uuid-legacy", by decide⟩
        (by decide)) := by
    exact toOption_eq_some.mp (by decide +kernel)
  constructor
  · obtain ⟨-, hlong, -⟩ :=
      ((newBranch_byDefault rfl rfl rfl (by decide) (by decide)).1 rfl).2 _ hrelease
    exact ⟨_, hrelease, rfl, hlong.mp rfl⟩
  · obtain ⟨-, -, hshort⟩ :=
      ((newBranch_byDefault rfl (by decide) rfl (by decide) (by decide)).1 rfl).2 _ hbroken
    exact ⟨_, hbroken, rfl, hshort.mp rfl⟩

end Resolver
end PullDecoration
