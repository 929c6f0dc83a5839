import PullDecoration.Proofs.Resolution.Soundness

/-! What a resolution reads of its parameters: for each of six keys whether it is given, and its
last value without the white space around it. Parameters that agree there are resolved alike,
whatever else they hold. -/
namespace PullDecoration

namespace Parameters

variable {p q : Parameters} {key : String}

def knownKeys : List String := branchKeys ++ pullRequestKeys ++ [longLivedPattern]

/-- The key is given in neither, or its last values are the same but for white space around them. -/
def AgreesAt (p q : Parameters) (key : String) : Prop :=
  (p.get? key).map Text.trim = (q.get? key).map Text.trim

instance : Decidable (p.AgreesAt q key) := inferInstanceAs (Decidable (_ = _))

theorem AgreesAt.has (h : p.AgreesAt q key) : p.has key = q.has key := by
  simpa [AgreesAt, Parameters.has] using congrArg Option.isSome h

theorem AgreesAt.hasAny {keys : List String} (h : ∀ key ∈ keys, p.AgreesAt q key) :
    p.hasAny keys = q.hasAny keys := by
  rw [Bool.eq_iff_iff]
  simp only [Parameters.hasAny, List.any_eq_true]
  exact exists_congr fun key => and_congr_right fun hkey => by rw [(h key hkey).has]

theorem AgreesAt.identifier? {kind : IdentifierKind} (h : p.AgreesAt q key) :
    (p.identifier? key : Option (Identifier kind)) = q.identifier? key := by
  have hread (p : Parameters) :
      (p.identifier? key : Option (Identifier kind)) =
        ((p.get? key).map Text.trim).bind Identifier.ofString? := by
    rw [Option.bind_map]
    rfl
  rw [hread, hread, h]

theorem AgreesAt.value? (h : p.AgreesAt q key) : p.value? key = q.value? key := by
  rw [p.value?_eq .branchName, q.value?_eq .branchName, h.identifier?]

section Entries

variable (before after : List (String × String))

theorem get?_append (key : String) :
    get? ⟨before ++ after⟩ key = (get? ⟨after⟩ key).or (get? ⟨before⟩ key) := by
  simp [get?, List.find?_append, Option.map_or]

theorem get?_cons (entry : String × String) (key : String) :
    get? ⟨entry :: after⟩ key =
      (get? ⟨after⟩ key).or (if entry.1 = key then some entry.2 else none) := by
  rw [← List.singleton_append, get?_append]
  by_cases h : entry.1 = key <;> simp [get?, h]

theorem isSome_get? {p : Parameters} {key : String} :
    (p.get? key).isSome ↔ key ∈ p.entries.map (·.1) := by
  simp [get?]

/-- An entry is not read where its key is another one or is given again behind it. -/
theorem agreesAt_unread {entry : String × String} (h : entry.1 ≠ key ∨ entry.1 ∈ after.map (·.1)) :
    AgreesAt ⟨before ++ entry :: after⟩ ⟨before ++ after⟩ key := by
  have hsame : get? ⟨entry :: after⟩ key = get? ⟨after⟩ key := by
    rw [get?_cons]
    by_cases hkey : entry.1 = key
    · have hgiven : (get? ⟨after⟩ key).isSome :=
        isSome_get?.mpr (hkey ▸ h.resolve_left (not_not_intro hkey))
      rw [Option.or_of_isSome hgiven]
    · rw [if_neg hkey, Option.or_none]
  rw [AgreesAt, get?_append, get?_append, hsame]

theorem agreesAt_swap {a b : String × String} (h : a.1 ≠ b.1) :
    AgreesAt ⟨before ++ a :: b :: after⟩ ⟨before ++ b :: a :: after⟩ key := by
  have hsame : get? ⟨a :: b :: after⟩ key = get? ⟨b :: a :: after⟩ key := by
    simp only [get?_cons, Option.or_assoc]
    by_cases ha : a.1 = key
    · have hb : b.1 ≠ key := fun hb => h (ha.trans hb.symm)
      simp [hb]
    · simp [ha]
  rw [AgreesAt, get?_append, get?_append, hsame]

theorem agreesAt_padded {name v w : String} (h : Text.trim v = Text.trim w) :
    AgreesAt ⟨before ++ (name, v) :: after⟩ ⟨before ++ (name, w) :: after⟩ key := by
  simp only [AgreesAt, get?_append, get?_cons, Option.map_or]
  by_cases hkey : name = key <;> simp [hkey, h]

end Entries

/-- A text is a parameter exactly if it has an equals sign and a key that is not blank before its
first one. -/
theorem ofText?_eq_some {s key value : String} : ofText? s = some (key, value) ↔
    ∃ written, s = written ++ "=" ++ value ∧ '=' ∉ written.toList ∧
    Text.trim written = key ∧ key ≠ "" := by
  constructor
  · intro h
    simp only [ofText?, Option.bind_eq_bind, Option.bind_eq_some_iff,
      Option.pure_def, Option.some.injEq, Prod.mk.injEq, Prod.exists, Text.cut?_eq_some] at h
    obtain ⟨before, behind, ⟨hs, hmark⟩, trimmed, hnonblank, rfl, rfl⟩ := h
    rw [Text.nonBlank?] at hnonblank
    split at hnonblank
    · cases hnonblank
    · rename_i hne
      cases hnonblank
      refine ⟨String.ofList before, String.toList_inj.mp ?_, by simpa using hmark, rfl, hne⟩
      simpa using hs
  · rintro ⟨written, rfl, hmark, rfl, hne⟩
    have hcut : Text.cut? '=' (written ++ "=" ++ value).toList =
        some (written.toList, value.toList) :=
      Text.cut?_eq_some.mpr ⟨by simp, hmark⟩
    simp only [ofText?, hcut, Option.bind_eq_bind, Option.bind_some, String.ofList_toList,
      Text.nonBlank?, hne, if_false, Option.pure_def]

end Parameters

namespace Resolver

open Parameters

variable {r : Resolver} {p q : Parameters} {g : Registry}

/-- The name and the target of a branch depend on the records for the default branch alone. -/
theorem branchName_congr {g' : Registry} (h : p.AgreesAt q Parameters.branchName)
    (hdefault : g.defaultBranch = g'.defaultBranch) : branchName p g = branchName q g' := by
  rw [branchName, h.identifier?, hdefault, branchName]

theorem branchTarget_congr {g' : Registry} (h : p.AgreesAt q Parameters.branchTarget)
    (hdefault : g.defaultBranch = g'.defaultBranch) : branchTarget p g = branchTarget q g' := by
  rw [branchTarget, h.identifier?, hdefault, branchTarget]

theorem branch_congr (hname : p.AgreesAt q Parameters.branchName)
    (htarget : p.AgreesAt q Parameters.branchTarget) (hpattern : p.AgreesAt q longLivedPattern) :
    r.branch g p = r.branch g q := by
  simp only [branch, hname.identifier?, htarget.identifier?, hpattern.value?]

theorem pullRequest_congr (hsource : p.AgreesAt q pullRequestBranch)
    (hbase : p.AgreesAt q Parameters.pullRequestBase) (hkey : p.AgreesAt q pullRequestKey) :
    r.pullRequest g p = r.pullRequest g q := by
  simp only [pullRequest, hsource.identifier?, hbase.identifier?, hkey.identifier?]

theorem resolve_congr (h : ∀ key ∈ knownKeys, p.AgreesAt q key) :
    r.resolve p g = r.resolve q g := by
  have hname := h Parameters.branchName (by decide)
  have htarget := h Parameters.branchTarget (by decide)
  have hbranchKeys : p.hasAny branchKeys = q.hasAny branchKeys :=
    AgreesAt.hasAny fun key hkey => h key (by simp [knownKeys, hkey])
  have hrequestKeys : p.hasAny pullRequestKeys = q.hasAny pullRequestKeys :=
    AgreesAt.hasAny fun key hkey => h key (by simp [knownKeys, hkey])
  have hbranch : r.branch g p = r.branch g q := branch_congr hname htarget (h _ (by decide))
  have hrequest : r.pullRequest g p = r.pullRequest g q :=
    pullRequest_congr (h _ (by decide)) (h _ (by decide)) (h _ (by decide))
  simp only [resolve, hname.identifier?, htarget.identifier?, hbranchKeys,
    hrequestKeys, hbranch, hrequest]

/-- A resolution depends on nothing but the trimmed last values of the known keys: not on other
keys, on values that are given again later, on the order of distinct keys, or on white space around
a value. And a text with a trimmed key before its first equals sign gives this key the value behind
it, whatever the value is. -/
theorem resolve_knownKeys (r : Resolver) (g : Registry) :
    (∀ p q : Parameters, (∀ key ∈ knownKeys, p.AgreesAt q key) → r.resolve p g = r.resolve q g) ∧
    (∀ before after entry, entry.1 ∉ knownKeys ∨ entry.1 ∈ after.map (·.1) →
      r.resolve ⟨before ++ entry :: after⟩ g = r.resolve ⟨before ++ after⟩ g) ∧
    (∀ before after a b, a.1 ≠ b.1 →
      r.resolve ⟨before ++ a :: b :: after⟩ g = r.resolve ⟨before ++ b :: a :: after⟩ g) ∧
    (∀ before after key v w, Text.trim v = Text.trim w →
      r.resolve ⟨before ++ (key, v) :: after⟩ g = r.resolve ⟨before ++ (key, w) :: after⟩ g) ∧
    ∀ key value, Text.trim key = key → key ≠ "" → '=' ∉ key.toList →
      ofText? (key ++ "=" ++ value) = some (key, value) := by
  refine ⟨fun p q h => resolve_congr h, ?_, ?_, ?_, ?_⟩
  · intro before after entry h
    refine resolve_congr fun key hkey => agreesAt_unread before after ?_
    rcases h with hother | hagain
    · exact .inl fun hsame => hother (hsame ▸ hkey)
    · exact .inr hagain
  · intro before after a b h
    exact resolve_congr fun key _ => agreesAt_swap before after h
  · intro before after key v w h
    exact resolve_congr fun _ _ => agreesAt_padded before after h
  · intro key value htrim hne hmark
    exact ofText?_eq_some.mpr ⟨key, rfl, hmark, htrim, hne⟩

/-- A new branch, given once with an earlier draft of its name and a key of another tool, and once
with its target before its name. -/
theorem newBranch_resolved_alike :
    conventional.resolve
      ⟨[("branch.name", "draft"), ("scanner.log", "debug"), ("branch.name", "\u2003feature/x "),
        ("branch.target", "master")]⟩ sampleRegistry =
      conventional.resolve
        ⟨[("branch.target", " master"), ("branch.name", "feature/x")]⟩ sampleRegistry ∧
    conventional.resolve ⟨[("scanner.log", "debug"), ("branch.name", "feature/x")]⟩ sampleRegistry =
      conventional.resolve ⟨[("branch.name", "feature/x")]⟩ sampleRegistry ∧
    conventional.resolve
      ⟨[("branch.name", "feature/x"), ("branch.target", "master")]⟩ sampleRegistry =
      conventional.resolve
        ⟨[("branch.target", "master"), ("branch.name", "feature/x")]⟩ sampleRegistry ∧
    conventional.resolve ⟨[("branch.name", "feature/x")]⟩ sampleRegistry =
      conventional.resolve ⟨[("branch.name", " feature/x\t")]⟩ sampleRegistry ∧
    ofText? ("branch.name" ++ "=" ++ "a=b") = some ("branch.name", "a=b") := by
  obtain ⟨hagree, hunread, hswap, hpadded, htext⟩ := resolve_knownKeys conventional sampleRegistry
  refine ⟨?_, ?_, ?_, ?_, ?_⟩
  · exact hagree _ _ (by decide)
  · exact hunread [] _ ("scanner.log", "debug") (.inl (by decide))
  · exact hswap [] [] _ _ (by decide)
  · exact hpadded [] [] "branch.name" _ _ (by decide)
  · exact htext "branch.name" "a=b" (by decide) (by decide) (by decide)

end Resolver
end PullDecoration
