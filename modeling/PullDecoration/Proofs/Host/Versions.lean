import Mathlib.Data.Prod.Lex
import PullDecoration.Proofs.Resolution.Upgrade
import PullDecoration.Proofs.Text.Parts
import PullDecoration.Proofs.Text.Trim

/-! Versions of the host as texts, and what they say of its branch types. A text is a version if its
first two parts are numerals of 32 bits, and the written form of a version is one of its texts.
Later versions gain the unified type and lose the legacy ones, but gain comes before loss, so that
there always is a type to merge into. -/
namespace PullDecoration
namespace HostVersion

variable {v w : HostVersion} {major minor : UInt32}

/-- Versions are ordered by their major numbers, and where these are equal by the minor ones. -/
instance : LE HostVersion := ⟨fun v w => toLex (v.major, v.minor) ≤ toLex (w.major, w.minor)⟩

theorem le_iff : v ≤ w ↔ v.major < w.major ∨ v.major = w.major ∧ v.minor ≤ w.minor :=
  Prod.Lex.toLex_le_toLex

theorem atLeast_iff : v.atLeast major minor = true ↔ ⟨major, minor⟩ ≤ v := by
  rw [le_iff, atLeast, Bool.or_eq_true, Bool.and_eq_true, decide_eq_true_eq,
    decide_eq_true_eq, decide_eq_true_eq]

protected theorem le_trans {u : HostVersion} (huv : u ≤ v) (hvw : v ≤ w) : u ≤ w :=
  atLeast_iff.mp (atLeast_mono (atLeast_iff.mpr hvw) (atLeast_iff.mpr huv))

theorem isLE_compare : (compare v w).isLE = true ↔ v ≤ w := by
  rw [le_iff, Ord.compare, instOrd]
  simp only [compare, compareOfLessAndEq, UInt32.lt_iff_toNat_lt,
    UInt32.le_iff_toNat_le, ← UInt32.toNat_inj]
  split_ifs <;> simp <;> omega

/-- The text has these numbers in its parts: a major one before the first point and, where there is
a point, a minor one up to the next point or to the end. Without a point the minor number is
zero. -/
inductive Written : List Char → Nat → Nat → Prop
  | major {cs : List Char} {m : Nat} (hcs : '.' ∉ cs) (hm : Text.IsNumeral cs m) : Written cs m 0
  | minor {cs ds : List Char} {m n : Nat} (hcs : '.' ∉ cs) (hds : '.' ∉ ds)
      (hm : Text.IsNumeral cs m) (hn : Text.IsNumeral ds n) : Written (cs ++ '.' :: ds) m n
  | more {cs ds : List Char} {m n : Nat} (hcs : '.' ∉ cs) (hds : '.' ∉ ds)
      (hm : Text.IsNumeral cs m) (hn : Text.IsNumeral ds n) (behind : List Char) :
      Written (cs ++ '.' :: (ds ++ '.' :: behind)) m n

theorem component?_eq_some {cs : List Char} {n : UInt32} :
    component? cs = some n ↔ Text.IsNumeral cs n.toNat := by
  rw [component?, Option.map_eq_some_iff]
  constructor
  · rintro ⟨k, hk, rfl⟩
    obtain ⟨hnumeral, hsize⟩ := Text.boundedNumeral?_eq_some.mp hk
    rwa [UInt32.toNat_ofNat_of_lt' hsize]
  · intro h
    exact ⟨n.toNat, Text.boundedNumeral?_eq_some.mpr ⟨h, n.toNat_lt_size⟩, UInt32.ofNat_toNat⟩

theorem Written.ofString? {s : String} {m n : Nat} (h : Written (Text.trimChars s.toList) m n)
    (hm : v.major.toNat = m) (hn : v.minor.toNat = n) : ofString? s = some v := by
  unfold HostVersion.ofString?
  generalize Text.trimChars s.toList = cs at h
  cases h with
  | major hcs hmajor =>
    have hzero : v.minor = 0 := UInt32.toNat_inj.mp hn
    have hmajor' : component? cs = some v.major := component?_eq_some.mpr (hm ▸ hmajor)
    simp [Text.parts_of_notMem hcs, hmajor', ← hzero]
  | @minor cs ds _ _ hcs hds hmajor hminor =>
    have hmajor' : component? cs = some v.major := component?_eq_some.mpr (hm ▸ hmajor)
    have hminor' : component? ds = some v.minor := component?_eq_some.mpr (hn ▸ hminor)
    simp [Text.parts_append hcs, Text.parts_of_notMem hds, hmajor', hminor']
  | @more cs ds _ _ hcs hds hmajor hminor behind =>
    have hmajor' : component? cs = some v.major := component?_eq_some.mpr (hm ▸ hmajor)
    have hminor' : component? ds = some v.minor := component?_eq_some.mpr (hn ▸ hminor)
    simp [Text.parts_append hcs, Text.parts_append hds, hmajor', hminor']

theorem ofString?_eq_some {s : String} :
    ofString? s = some v ↔ Written (Text.trimChars s.toList) v.major.toNat v.minor.toNat := by
  constructor
  · intro h
    unfold ofString? at h
    split at h
    · cases h
    · rename_i cs hparts
      obtain ⟨hcs, ⟨heq, -⟩ | ⟨rest, -, hrest⟩⟩ := Text.parts_eq_cons.mp hparts
      · obtain ⟨m, hm, rfl⟩ := Option.map_eq_some_iff.mp h
        rw [heq]
        exact .major hcs (component?_eq_some.mp hm)
      · exact absurd hrest (Text.parts_ne_nil '.' rest)
    · rename_i cs ds others hparts
      simp only [Option.bind_eq_bind, Option.pure_def, Option.bind_eq_some_iff,
        Option.some.injEq] at h
      obtain ⟨m, hm, n, hn, rfl⟩ := h
      obtain ⟨hcs, ⟨-, hnone⟩ | ⟨rest, heq, hrest⟩⟩ := Text.parts_eq_cons.mp hparts
      · cases hnone
      · rw [heq]
        obtain ⟨hds, ⟨rfl, -⟩ | ⟨behind, rfl, -⟩⟩ := Text.parts_eq_cons.mp hrest
        · exact .minor hcs hds (component?_eq_some.mp hm) (component?_eq_some.mp hn)
        · exact .more hcs hds (component?_eq_some.mp hm) (component?_eq_some.mp hn) behind
  · intro h
    exact h.ofString? rfl rfl

theorem ofString?_isSome {s : String} : (ofString? s).isSome = true ↔
    ∃ m n, Written (Text.trimChars s.toList) m n ∧ m ≤ 4294967295 ∧ n ≤ 4294967295 := by
  rw [Option.isSome_iff_exists]
  constructor
  · rintro ⟨v, hv⟩
    refine ⟨_, _, ofString?_eq_some.mp hv, ?_, ?_⟩
    · exact Nat.le_of_lt_succ v.major.toNat_lt_size
    · exact Nat.le_of_lt_succ v.minor.toNat_lt_size
  · rintro ⟨m, n, h, hm, hn⟩
    refine ⟨⟨.ofNat m, .ofNat n⟩, h.ofString? ?_ ?_⟩
    · exact UInt32.toNat_ofNat_of_lt' (Nat.lt_succ_of_le hm)
    · exact UInt32.toNat_ofNat_of_lt' (Nat.lt_succ_of_le hn)

theorem point_notMem_decimal (n : Nat) : '.' ∉ Text.decimal n := by
  intro h
  exact absurd (Text.isDigit_of_mem_decimal h) (by decide)

theorem text_toList (v : HostVersion) :
    v.text.toList = Text.decimal v.major.toNat ++ '.' :: Text.decimal v.minor.toNat :=
  String.toList_ofList

theorem trimChars_text (v : HostVersion) (behind : List Char) :
    Text.trimChars (v.text.toList ++ behind) = v.text.toList ++ Text.trimEndChars behind := by
  have hvisible : ∀ c ∈ v.text.toList, Text.isBlankChar c = false := by
    intro c hc
    rw [text_toList, List.mem_append, List.mem_cons] at hc
    rcases hc with hc | rfl | hc
    · exact Text.isBlankChar_of_isDigit (Text.isDigit_of_mem_decimal hc)
    · decide
    · exact Text.isBlankChar_of_isDigit (Text.isDigit_of_mem_decimal hc)
  have hne : v.text.toList ≠ [] := by
    rw [text_toList]
    simp
  have hhead : ∀ c ∈ (v.text.toList ++ behind).head?, Text.isBlankChar c = false := by
    intro c hc
    rw [List.head?_append_of_ne_nil _ hne] at hc
    exact hvisible c (List.mem_of_mem_head? hc)
  rw [Text.trimChars, Text.trimStartChars_of_head hhead, Text.trimEndChars_append hvisible]

/-- The written form is read as the version, alone and with anything behind a further point. -/
theorem ofString?_text (v : HostVersion) (rest : String) :
    ofString? v.text = some v ∧ ofString? (v.text ++ "." ++ rest) = some v := by
  have hmajor := Text.isNumeral_decimal v.major.toNat
  have hminor := Text.isNumeral_decimal v.minor.toNat
  have hcs := point_notMem_decimal v.major.toNat
  have hds := point_notMem_decimal v.minor.toNat
  constructor
  · apply ofString?_eq_some.mpr
    have htrim := trimChars_text v []
    rw [List.append_nil] at htrim
    rw [htrim, show Text.trimEndChars [] = [] from rfl, List.append_nil, text_toList]
    exact .minor hcs hds hmajor hminor
  · apply ofString?_eq_some.mpr
    have hpoint : Text.trimEndChars ('.' :: rest.toList) = '.' :: Text.trimEndChars rest.toList :=
      Text.trimEndChars_cons (by decide) _
    have hchars : (v.text ++ "." ++ rest).toList = v.text.toList ++ '.' :: rest.toList := by simp
    rw [hchars, trimChars_text, hpoint, text_toList, List.append_assoc, List.cons_append]
    exact .more hcs hds hmajor hminor _

end HostVersion

namespace Capabilities

open HostVersion

variable {v w : HostVersion}

theorem unified_ofVersion : (ofVersion v).unified = true ↔ ⟨8, 1⟩ ≤ v := atLeast_iff

theorem legacy_ofVersion : (ofVersion v).legacy = true ↔ ¬ ⟨9, 0⟩ ≤ v := by
  rw [← atLeast_iff, Bool.not_eq_true, ofVersion, Bool.not_eq_true']

theorem supports_branch_of_le (h : v ≤ w) (hold : (ofVersion v).supports .branch = true) :
    (ofVersion w).supports .branch = true :=
  unified_ofVersion.mpr (HostVersion.le_trans (unified_ofVersion.mp hold) h)

theorem supports_legacy_of_le (h : v ≤ w) {t : BranchType}
    (ht : t ∈ [BranchType.longLived, .shortLived]) (hnew : (ofVersion w).supports t = true) :
    (ofVersion v).supports t = true := by
  have hlegacy {c : Capabilities} : c.supports t = c.legacy := by
    rcases List.mem_pair.mp ht with rfl | rfl <;> rfl
  rw [hlegacy] at hnew ⊢
  apply legacy_ofVersion.mpr
  intro hremoved
  exact legacy_ofVersion.mp hnew (HostVersion.le_trans hremoved h)

theorem unified_or_legacy (v : HostVersion) :
    (ofVersion v).unified = true ∨ (ofVersion v).legacy = true := by
  by_cases hremoved : ⟨9, 0⟩ ≤ v
  · left
    exact unified_ofVersion.mpr (HostVersion.le_trans (le_iff.mpr (.inl (by decide))) hremoved)
  · right
    exact legacy_ofVersion.mpr hremoved

theorem exists_mergeTarget (v : HostVersion) : ∃ t, (ofVersion v).isMergeTarget t = true := by
  rcases unified_or_legacy v with h | h
  · exact ⟨.branch, h⟩
  · exact ⟨.longLived, h⟩

end Capabilities

namespace HostVersion

/-- A text is read as a version exactly if, without blanks around it, its part before the first
point and, if there is one, that up to the second point are numerals of 32 bits; and the written
form of a version is read as it is, whatever stands behind a further point. Versions go by their
numbers, the major one first. With them the unified type can only come and the legacy types can only
go, and no version is without both; so a resolver for a version that was read has branches of some
type merged into. -/
theorem versions_negotiate :
    (∀ s v, ofString? s = some v ↔ Written (Text.trimChars s.toList) v.major.toNat v.minor.toNat) ∧
    (∀ s, (ofString? s).isSome = true ↔
      ∃ m n, Written (Text.trimChars s.toList) m n ∧ m ≤ 4294967295 ∧ n ≤ 4294967295) ∧
    (∀ (v : HostVersion) (rest : String),
      ofString? v.text = some v ∧ ofString? (v.text ++ "." ++ rest) = some v) ∧
    (∀ (v : HostVersion) (major minor : UInt32), v.atLeast major minor = true ↔
      ⟨major, minor⟩ ≤ v) ∧
    (∀ v w : HostVersion, (compare v w).isLE = true ↔ v ≤ w) ∧
    (∀ v w : HostVersion, v ≤ w →
      ((Capabilities.ofVersion v).supports .branch = true →
        (Capabilities.ofVersion w).supports .branch = true) ∧
      ∀ t ∈ [BranchType.longLived, .shortLived],
        (Capabilities.ofVersion w).supports t = true →
        (Capabilities.ofVersion v).supports t = true) ∧
    (∀ v, (Capabilities.ofVersion v).unified = true ∨ (Capabilities.ofVersion v).legacy = true) ∧
    ∀ s v pattern, ofString? s = some v → ∃ t, (Capabilities.ofVersion v).isMergeTarget t = true ∧
      ∀ (g : Registry) (target : BranchName) (record : BranchRecord),
        g.find? target.text = some record → record.type = t →
          Resolver.mergeTarget ⟨.ofVersion v, pattern⟩ g target = .ok record := by
  refine ⟨fun s v => ofString?_eq_some, fun s => ofString?_isSome, ofString?_text,
    fun v major minor => atLeast_iff, fun v w => isLE_compare, ?_,
    Capabilities.unified_or_legacy, ?_⟩
  · intro v w h
    constructor
    · exact Capabilities.supports_branch_of_le h
    · intro t ht
      exact Capabilities.supports_legacy_of_le h ht
  · intro s v pattern _
    obtain ⟨t, ht⟩ := Capabilities.exists_mergeTarget v
    refine ⟨t, ht, ?_⟩
    rintro g target record hfound rfl
    exact Resolver.mergeTarget_eq_ok.mpr ⟨hfound, ht⟩

/-- A version with a sign, a leading zero and more behind it, of a host that only knows the legacy
types. -/
theorem signedVersion_negotiates :
    ofString? " +7.09.beta.2 " = some ⟨7, 9⟩ ∧ (⟨7, 9⟩ : HostVersion) ≤ ⟨8, 4⟩ ∧
      ((Capabilities.ofVersion ⟨8, 4⟩).supports .shortLived = true →
        (Capabilities.ofVersion ⟨7, 9⟩).supports .shortLived = true) ∧
      Resolver.mergeTarget ⟨.ofVersion ⟨7, 9⟩, none⟩ Resolver.legacyRegistry conventionalMain =
        .ok ⟨conventionalMain, .longLived, ⟨"uuid-legacy", by decide⟩, true⟩ := by
  obtain ⟨hread, -, -, -, -, hupgrade, -, hmerge⟩ := versions_negotiate
  have hversion : ofString? " +7.09.beta.2 " = some ⟨7, 9⟩ := by
    apply (hread _ _).mpr
    have htrim : Text.trimChars " +7.09.beta.2 ".toList =
        ['+', '7'] ++ '.' :: (['0', '9'] ++ '.' :: "beta.2".toList) := by decide
    rw [htrim]
    have hseven : Text.IsNumeral ['+', '7'] 7 :=
      .signed ⟨by decide, List.all_eq_true.mp (by decide)⟩
    have hnine : Text.IsNumeral ['0', '9'] 9 := .plain ⟨by decide, List.all_eq_true.mp (by decide)⟩
    exact .more (by decide) (by decide) hseven hnine _
  have hle : (⟨7, 9⟩ : HostVersion) ≤ ⟨8, 4⟩ := le_iff.mpr (.inl (by decide))
  obtain ⟨t, ht, hmerges⟩ := hmerge _ _ none hversion
  refine ⟨hversion, hle, (hupgrade _ _ hle).2 _ (by decide), hmerges _ _ _ (by decide) ?_⟩
  rcases Capabilities.isMergeTarget_iff.mp ht with ⟨rfl, -⟩ | ⟨-, hunified⟩
  · rfl
  · exact absurd hunified (by decide)

end HostVersion
end PullDecoration
