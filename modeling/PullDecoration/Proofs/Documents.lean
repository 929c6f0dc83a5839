import PullDecoration.Analysis.Result
import PullDecoration.Proofs.Branch.Wire
import PullDecoration.Proofs.Json.Normal
import PullDecoration.Proofs.Report.RoundTrip
import PullDecoration.Provider.Sweep
import PullDecoration.Resolution.Error

/-! Documents that are handed from one command to another: registries, what reports say of their
branches, branches, analyses, sweeps and the errors of a resolution. Each of them is read back from
what is written for it, and none is read with an empty identifier in it. -/
namespace PullDecoration

open Json

variable {level : Nat}

theorem Identifier.validates (kind : IdentifierKind) :
    (Identifier.codec : Codec (Identifier kind)).Validates .string Identifier.text fun text =>
      [text] where
  checks := Identifier.checks kind
  covers text := by
    constructor
    · intro h
      exact ⟨⟨text, fun hempty => h (hempty ▸ List.mem_singleton_self _)⟩, rfl⟩
    · rintro ⟨id, rfl⟩ hmem
      exact id.text_ne_empty (List.mem_singleton.mp hmem).symm

theorem BranchType.codec_option_keeps (t? : Option BranchType) : codec.option.Keeps level t? :=
  Codec.keeps_option (fun t => by simp [codec, Codec.ofNames]) fun t _ => t.keeps

namespace BranchRecord

abbrev Plain : Type := String × BranchType × String × Bool × Unit

def plain (r : BranchRecord) : Plain := (r.name.text, r.type, r.uuid.text, r.isMain, ())

def plainCodec : Codec Plain :=
  .fields "struct BranchRecord"
    (.cons (.required "name" .string) (.cons (.required "type" BranchType.codec)
      (.cons (.required "uuid" .string) (.cons (.defaulted "is_main" .bool false) .nil))))

def texts : Plain → List String
  | (name, _, uuid, _) => [name, uuid]

theorem validates : codec.Validates plainCodec plain texts := by
  have hfields :=
    Fields.Validates.cons (RecordField.validates_required "name" (Identifier.validates .branchName))
    (.cons (RecordField.validates_self (.required "type" BranchType.codec))
      (.cons (RecordField.validates_required "uuid" (Identifier.validates .branchUuid))
        (.cons (RecordField.validates_self (.defaulted "is_main" .bool false))
          Fields.validates_nil)))
  refine Codec.validates_record hfields (fun _ => rfl) ?_ fun r => by simp [texts]
  rintro ⟨name, type, uuid, isMain, ⟨⟩⟩
  exact ⟨⟨name, type, uuid, isMain⟩, rfl⟩

theorem keeps (hlevel : level < readableLevels) (r : BranchRecord) : codec.Keeps level r :=
  Codec.keeps_record hlevel (by decide)
    ⟨r.name.keeps, r.type.keeps, r.uuid.keeps, Codec.keeps_bool _, trivial⟩ rfl

end BranchRecord

namespace Registry

abbrev Plain : Type := String × List BranchRecord.Plain × Unit

def plain (g : Registry) : Plain := (g.defaultBranch.text, g.records.map BranchRecord.plain, ())

def plainCodec : Codec Plain :=
  .fields "struct KnownBranches" (.cons (.required "default_branch" .string)
    (.cons (.defaulted "branches" (.list BranchRecord.plainCodec) []) .nil))

def texts : Plain → List String
  | (defaultBranch, records, _) => defaultBranch :: records.flatMap BranchRecord.texts

theorem validates : codec.Validates plainCodec plain texts := by
  have hfields := Fields.Validates.cons
    (RecordField.validates_required "default_branch" (Identifier.validates .branchName))
    (.cons (RecordField.validates_defaulted "branches" BranchRecord.validates.list [])
      Fields.validates_nil)
  refine Codec.validates_record hfields (fun _ => rfl) ?_ fun r => by simp [texts]
  rintro ⟨defaultBranch, records, ⟨⟩⟩
  exact ⟨⟨defaultBranch, records⟩, rfl⟩

theorem keeps (g : Registry) : codec.Keeps 0 g :=
  Codec.keeps_record (by decide) (by decide)
    ⟨g.defaultBranch.keeps, Codec.keeps_list (by decide) fun r _ => r.keeps (by decide),
      trivial⟩ rfl

end Registry

namespace ReportMetadata

abbrev Plain : Type :=
  Option String × Option BranchType × Option String × Option String × Option String × Unit

def plain (m : ReportMetadata) : Plain :=
  (m.name.map (·.text), m.type, m.target.map (·.text), m.merge.map (·.text), m.key.map (·.text), ())

def plainCodec : Codec Plain :=
  .fields "struct ReportMetadata"
    (.cons (.nullable "branch_name" .string) (.cons (.nullable "branch_type" BranchType.codec)
      (.cons (.nullable "target_branch_name" .string) (.cons (.nullable "merge_branch_name" .string)
        (.cons (.nullable "pull_request_key" .string) .nil)))))

def texts : Plain → List String
  | (name, _, target, merge, key, _) => name.toList ++ target.toList ++ merge.toList ++ key.toList

theorem validates : codec.Validates plainCodec plain texts := by
  have hname (field : String) :=
    RecordField.validates_nullable field (Identifier.validates .branchName)
  have hkey := RecordField.validates_nullable "pull_request_key"
    (Identifier.validates .pullRequestKey)
  have hfields := Fields.Validates.cons (hname "branch_name")
    (.cons (RecordField.validates_self (.nullable "branch_type" BranchType.codec))
      (.cons (hname "target_branch_name")
        (.cons (hname "merge_branch_name") (.cons hkey Fields.validates_nil))))
  refine Codec.validates_record hfields (fun _ => rfl) ?_ fun r => by simp [texts]
  rintro ⟨name, type, target, merge, key, ⟨⟩⟩
  exact ⟨⟨name, type, target, merge, key⟩, rfl⟩

theorem keeps (m : ReportMetadata) : codec.Keeps 0 m :=
  Codec.keeps_record (by decide) (by decide)
    ⟨Identifier.codec_option_keeps m.name, BranchType.codec_option_keeps m.type,
      Identifier.codec_option_keeps m.target, Identifier.codec_option_keeps m.merge,
      Identifier.codec_option_keeps m.key, trivial⟩ rfl

end ReportMetadata

namespace AnalysedBranch

abbrev Plain : Type :=
  String × BranchType × Bool × Option String × Option String × Option String × Unit

def plain (b : AnalysedBranch) : Plain :=
  (b.name.text, b.type, b.isMain, b.reference.map (·.text), b.key.map (·.text),
    b.target.map (·.text), ())

def plainCodec : Codec Plain :=
  .fields "struct AnalysedBranch"
    (.cons (.required "name" .string) (.cons (.required "branch_type" BranchType.codec)
      (.cons (.required "is_main" .bool) (.cons (.nullable "reference_uuid" .string)
        (.cons (.nullable "pull_request_key" .string)
          (.cons (.nullable "target_branch_name" .string) .nil))))))

def texts : Plain → List String
  | (name, _, _, reference, key, target, _) =>
    name :: reference.toList ++ key.toList ++ target.toList

theorem validates : codec.Validates plainCodec plain texts := by
  have hreference := RecordField.validates_nullable "reference_uuid"
    (Identifier.validates .branchUuid)
  have hkey := RecordField.validates_nullable "pull_request_key"
    (Identifier.validates .pullRequestKey)
  have htarget := RecordField.validates_nullable "target_branch_name"
    (Identifier.validates .branchName)
  have hfields :=
    Fields.Validates.cons (RecordField.validates_required "name" (Identifier.validates .branchName))
    (.cons (RecordField.validates_self (.required "branch_type" BranchType.codec))
      (.cons (RecordField.validates_self (.required "is_main" .bool))
        (.cons hreference (.cons hkey (.cons htarget Fields.validates_nil)))))
  refine Codec.validates_record hfields (fun _ => rfl) ?_ fun r => by simp [texts]
  rintro ⟨name, type, isMain, reference, key, target, ⟨⟩⟩
  exact ⟨⟨name, type, isMain, reference, key, target⟩, rfl⟩

theorem keeps (b : AnalysedBranch) : codec.Keeps 0 b :=
  Codec.keeps_record (by decide) (by decide)
    ⟨b.name.keeps, b.type.keeps, Codec.keeps_bool _, Identifier.codec_option_keeps b.reference,
      Identifier.codec_option_keeps b.key, Identifier.codec_option_keeps b.target, trivial⟩ rfl

end AnalysedBranch

theorem Severity.keeps (s : Severity) : codec.Keeps level s := by
  cases s <;> exact ⟨.string _, rfl⟩

theorem IssueStatus.keeps (s : IssueStatus) : codec.Keeps level s := by
  cases s <;> exact ⟨.string _, rfl⟩

theorem GateStatus.keeps (s : GateStatus) : codec.Keeps level s := by
  cases s <;> exact ⟨.string _, rfl⟩

theorem Json.Codec.string_option_keeps (text? : Option String) :
    Codec.string.option.Keeps level text? :=
  Codec.keeps_option (fun text => by simp [Codec.string]) fun text _ => Codec.keeps_string text

namespace Issue

abbrev Plain : Type :=
  String × Severity × IssueStatus × Option String × Option String × Option UInt32 × Unit

def plain (i : Issue) : Plain :=
  (i.message, i.severity, i.status, i.rule.map (·.text), i.file, i.line, ())

def plainCodec : Codec Plain :=
  .fields "struct Issue"
    (.cons (.required "message" .string) (.cons (.required "severity" Severity.codec)
      (.cons (.required "status" IssueStatus.codec) (.cons (.optional "rule" .string)
        (.cons (.optional "file_path" .string) (.cons (.optional "line" .u32) .nil))))))

def texts : Plain → List String
  | (_, _, _, rule, _) => rule.toList

theorem validates : codec.Validates plainCodec plain texts := by
  have hrule := RecordField.validates_optional "rule" (Identifier.validates .ruleKey)
  have hfields := Fields.Validates.cons (RecordField.validates_self (.required "message" .string))
    (.cons (RecordField.validates_self (.required "severity" Severity.codec))
      (.cons (RecordField.validates_self (.required "status" IssueStatus.codec))
        (.cons hrule (.cons (RecordField.validates_self (.optional "file_path" .string))
          (.cons (RecordField.validates_self (.optional "line" .u32)) Fields.validates_nil)))))
  refine Codec.validates_record hfields (fun _ => rfl) ?_ fun r => by simp [texts]
  rintro ⟨message, severity, status, rule, file, line, ⟨⟩⟩
  exact ⟨⟨message, severity, status, rule, file, line⟩, rfl⟩

theorem keeps (hlevel : level < readableLevels) (i : Issue) : codec.Keeps level i := by
  have hline : (Codec.option .u32).Keeps (level + 1) i.line :=
    Codec.keeps_option (fun n => by simp [Codec.u32]) fun n _ => Codec.keeps_u32 n
  exact Codec.keeps_record hlevel (by decide)
    ⟨Codec.keeps_string _, i.severity.keeps, i.status.keeps,
      RecordField.keeps_optional (Identifier.codec_option_keeps i.rule),
      RecordField.keeps_optional (Codec.string_option_keeps i.file),
      RecordField.keeps_optional hline, trivial⟩ rfl

end Issue

theorem GateCondition.keeps (hlevel : level < readableLevels) (c : GateCondition) :
    codec.Keeps level c :=
  Codec.keeps_record hlevel (by decide)
    ⟨Codec.keeps_string _, Codec.keeps_string _, Codec.keeps_string _,
      Codec.keeps_bool _, trivial⟩ rfl

theorem Gate.keeps (hlevel : level + 2 < readableLevels) (g : Gate) : codec.Keeps level g := by
  have hconditions : GateCondition.codec.list.Keeps (level + 1) g.conditions :=
    Codec.keeps_list (by omega) fun c _ => c.keeps hlevel
  exact Codec.keeps_record (by omega) (by decide)
    ⟨g.status.keeps, hconditions,
      RecordField.keeps_optional (Codec.string_option_keeps g.dashboard), trivial⟩ rfl

namespace Analysis

abbrev Plain : Type := List Issue.Plain × Gate × Unit

def plain (a : Analysis) : Plain := (a.issues.map Issue.plain, a.gate, ())

def plainCodec : Codec Plain :=
  .fields "struct AnalysisResult"
    (.cons (.required "issues" (.list Issue.plainCodec))
      (.cons (.required "summary" Gate.codec) .nil))

def texts : Plain → List String
  | (issues, _) => issues.flatMap Issue.texts

theorem validates : codec.Validates plainCodec plain texts := by
  have hfields :=
    Fields.Validates.cons (RecordField.validates_required "issues" Issue.validates.list)
    (.cons (RecordField.validates_self (.required "summary" Gate.codec)) Fields.validates_nil)
  refine Codec.validates_record hfields (fun _ => rfl) ?_ fun r => by simp [texts]
  rintro ⟨issues, gate, ⟨⟩⟩
  exact ⟨⟨issues, gate⟩, rfl⟩

theorem keeps (a : Analysis) : codec.Keeps 0 a :=
  Codec.keeps_record (by decide) (by decide)
    ⟨Codec.keeps_list (by decide) fun i _ => i.keeps (by decide),
      a.gate.keeps (by decide), trivial⟩ rfl

end Analysis

namespace FailedDeletion

abbrev Plain : Type := String × ProviderError × Unit

def plain (f : FailedDeletion) : Plain := (f.id.text, f.error, ())

def plainCodec : Codec Plain :=
  .fields "struct FailedDeletion"
    (.cons (.required "id" .string) (.cons (.required "error" ProviderError.codec) .nil))

theorem validates : codec.Validates plainCodec plain fun f => [f.1] := by
  have hfields :=
    Fields.Validates.cons (RecordField.validates_required "id" (Identifier.validates .commentId))
    (.cons (RecordField.validates_self (.required "error" ProviderError.codec))
      Fields.validates_nil)
  refine Codec.validates_record hfields (fun _ => rfl) ?_ fun r => by simp
  rintro ⟨id, error, ⟨⟩⟩
  exact ⟨⟨id, error⟩, rfl⟩

theorem keeps (hlevel : level + 1 < readableLevels) (f : FailedDeletion) : codec.Keeps level f :=
  Codec.keeps_record (by omega) (by decide) ⟨f.id.keeps, f.error.keeps hlevel, trivial⟩ rfl

end FailedDeletion

namespace Sweep

abbrev Plain : Type := List String × List FailedDeletion.Plain × Unit

def plain (w : Sweep) : Plain := (w.deleted.map (·.text), w.failed.map FailedDeletion.plain, ())

def plainCodec : Codec Plain :=
  .fields "struct ClearOutcome" (.cons (.required "deleted" (.list .string))
    (.cons (.required "failed" (.list FailedDeletion.plainCodec)) .nil))

def texts : Plain → List String
  | (deleted, failed, _) => deleted ++ failed.map (·.1)

theorem validates : codec.Validates plainCodec plain texts := by
  have hfields := Fields.Validates.cons
    (RecordField.validates_required "deleted" (Identifier.validates .commentId).list)
    (.cons (RecordField.validates_required "failed" FailedDeletion.validates.list)
      Fields.validates_nil)
  refine Codec.validates_record hfields (fun _ => rfl) ?_ fun r => by simp [texts]
  rintro ⟨deleted, failed, ⟨⟩⟩
  exact ⟨⟨deleted, failed⟩, rfl⟩

theorem keeps (w : Sweep) : codec.Keeps 0 w :=
  Codec.keeps_record (by decide) (by decide)
    ⟨Codec.keeps_list (by decide) fun id _ => id.keeps,
      Codec.keeps_list (by decide) fun f _ => f.keeps (by decide), trivial⟩ rfl

end Sweep

namespace ResolutionError

theorem keeps (e : ResolutionError) : codec.Keeps 0 e := by
  have hlevel : 0 + 1 < readableLevels := by decide
  cases e with
  | noBranchesExist => exact ⟨.string _, rfl⟩
  | targetNotFound branch =>
    have hfind : findVariant variants "TargetNotFound" = .ok _ := rfl
    exact Codec.keeps_variant (branch, ()) hlevel hfind (by decide)
      ⟨Codec.keeps_string _, trivial⟩ rfl rfl
  | targetWrongType branch expected actual =>
    have hfind : findVariant variants "TargetWrongType" = .ok _ := rfl
    exact Codec.keeps_variant (branch, expected, actual, ()) hlevel hfind (by decide)
      ⟨Codec.keeps_string _, Codec.keeps_string _, actual.keeps, trivial⟩ rfl rfl
  | invalidBranchType branch type =>
    have hfind : findVariant variants "InvalidBranchType" = .ok _ := rfl
    exact Codec.keeps_variant (branch, type, ()) hlevel hfind (by decide)
      ⟨Codec.keeps_string _, type.keeps, trivial⟩ rfl rfl
  | invalidPattern pattern reason =>
    have hfind : findVariant variants "InvalidLongLivedPattern" = .ok _ := rfl
    exact Codec.keeps_variant (pattern, reason, ()) hlevel hfind (by decide)
      ⟨Codec.keeps_string _, Codec.keeps_string _, trivial⟩ rfl rfl
  | missingKey branch =>
    have hfind : findVariant variants "MissingPullRequestKey" = .ok _ := rfl
    exact Codec.keeps_variant (branch, ()) hlevel hfind (by decide)
      ⟨Codec.keeps_string _, trivial⟩ rfl rfl

end ResolutionError

theorem BranchType.decode_name {name : String} {t : BranchType} (h : (name, t) ∈ names) :
    codec.decode (Value.string name).text = .ok t := by
  have hread (name : String) : codec.decode (Value.string name).text =
      codec.read ((Value.string name).document 0) := by
    rw [Codec.decode, (Value.isTextOf_text (.string name)).parse]
    exact bind_pure _
  rw [hread]
  simp only [names, List.mem_cons, Prod.mk.injEq, List.not_mem_nil, or_false] at h
  rcases h with ⟨rfl, rfl⟩ | ⟨rfl, rfl⟩ | ⟨rfl, rfl⟩ | ⟨rfl, rfl⟩ | ⟨rfl, rfl⟩ | ⟨rfl, rfl⟩ |
    ⟨rfl, rfl⟩ <;> rfl

/-- The documents that commands hand on are read back from what is written for them, and reading
them keeps out empty identifiers and nothing else. Whatever text a document was read from, with
short names of types or without what may be left out, what is written for it is its normal form. -/
theorem documents_normalise :
    Registry.codec.Normalises Registry.plainCodec Registry.plain Registry.texts ∧
      ReportMetadata.codec.Normalises ReportMetadata.plainCodec ReportMetadata.plain
        ReportMetadata.texts ∧
      AnalysedBranch.codec.Normalises AnalysedBranch.plainCodec AnalysedBranch.plain
        AnalysedBranch.texts ∧
      Analysis.codec.Normalises Analysis.plainCodec Analysis.plain Analysis.texts ∧
      Sweep.codec.Normalises Sweep.plainCodec Sweep.plain Sweep.texts ∧
      ResolutionError.codec.Normalises ResolutionError.codec id (fun _ => []) ∧
      ∀ name t, (name, t) ∈ BranchType.names →
        BranchType.codec.decode (Value.string name).text = .ok t ∧
          BranchType.codec.encode t = (Value.string t.name).text :=
  ⟨Registry.validates.normalises Registry.keeps,
    ReportMetadata.validates.normalises ReportMetadata.keeps,
    AnalysedBranch.validates.normalises AnalysedBranch.keeps,
    Analysis.validates.normalises Analysis.keeps, Sweep.validates.normalises Sweep.keeps,
    (Codec.validates_self ResolutionError.codec).normalises ResolutionError.keeps,
    fun _ _ h => ⟨BranchType.decode_name h, rfl⟩⟩

/-- A registry with short names of types, and with no word of which record is the main one. -/
def shortText : String := "\x7b\"default_branch\":\"master\",\"branches\":[" ++
  "\x7b\"uuid\":\"uuid-a\",\"type\":\"LONG\",\"name\":\"release\"\x7d," ++
  "\x7b\"name\":\"topic\",\"type\":\"SHORT\",\"uuid\":\"uuid-b\"\x7d]\x7d"

def shortRegistry : Registry :=
  ⟨conventionalMain, [⟨⟨"release", by decide⟩, .longLived, ⟨"uuid-a", by decide⟩, false⟩,
    ⟨⟨"topic", by decide⟩, .shortLived, ⟨"uuid-b", by decide⟩, false⟩]⟩

def longText : String := "\x7b\"default_branch\":\"master\",\"branches\":[" ++
  "\x7b\"name\":\"release\",\"type\":\"LONG_LIVED\",\"uuid\":\"uuid-a\",\"is_main\":false\x7d," ++
  "\x7b\"name\":\"topic\",\"type\":\"SHORT_LIVED\",\"uuid\":\"uuid-b\",\"is_main\":false\x7d]\x7d"

namespace Json

/-- The one value is read and written as the other one, which is read and written as itself. -/
def Codec.TakesTo {α : Type} (c : Codec α) (v w : Value) : Prop :=
  (c.decode v.text).map c.encode = .ok w.text ∧ (c.decode w.text).map c.encode = .ok w.text

def Codec.Refuses {α : Type} (c : Codec α) (v : Value) : Prop := ∀ a, c.decode v.text ≠ .ok a

namespace Codec.Normalises

variable {α β : Type} {c : Codec α} {plain : Codec β} {out : α → β}
  {ids : β → List String} {v w : Value}

theorem takesTo (h : c.Normalises plain out ids)
    (hread : ((c.decode v.text).map c.encode).toOption = some w.text) : c.TakesTo v w := by
  have hread := toOption_eq_some.mp hread
  obtain ⟨a, ha, hwrite⟩ := map_eq_ok.mp hread
  have hnormal := (h.normal _ _ ha).1
  rw [hwrite] at hnormal
  exact ⟨hread, hnormal⟩

theorem refuses (h : c.Normalises plain out ids)
    (hplain : (plain.decode v.text).toOption.any (fun b => decide ("" ∈ ids b)) = true) :
    c.Refuses v := by
  obtain ⟨b, hb, hempty⟩ := (Option.any_eq_true _ _).mp hplain
  intro a ha
  exact (h.accepted_iff _ _ (toOption_eq_some.mp hb)).mp ⟨a, ha⟩ (of_decide_eq_true hempty)

end Codec.Normalises
end Json

open Json in
/-- Texts with short names, in another order and without what may be left out, and the same with an
empty identifier. -/
theorem shortText_normalised :
    (Registry.codec.decode shortText = .ok shortRegistry ∧
      Registry.codec.encode shortRegistry = longText ∧
      (Registry.codec.decode longText).map Registry.codec.encode = .ok longText ∧
      Registry.codec.Refuses (.object [("default_branch", .string "")])) ∧
    (ReportMetadata.codec.TakesTo
        (.object [("branch_type", .string "LONG"), ("branch_name", .string "release")])
        (.object [("branch_name", .string "release"), ("branch_type", .string "LONG_LIVED"),
          ("target_branch_name", .null), ("merge_branch_name", .null),
          ("pull_request_key", .null)]) ∧
      ReportMetadata.codec.Refuses (.object [("pull_request_key", .string "")])) ∧
    (AnalysedBranch.codec.TakesTo
        (.object [("is_main", .bool false), ("name", .string "topic"),
          ("branch_type", .string "SHORT")])
        (.object [("name", .string "topic"), ("branch_type", .string "SHORT_LIVED"),
          ("is_main", .bool false), ("reference_uuid", .null), ("pull_request_key", .null),
          ("target_branch_name", .null)]) ∧
      AnalysedBranch.codec.Refuses (.object [("name", .string "topic"),
        ("branch_type", .string "SHORT"), ("is_main", .bool false),
        ("reference_uuid", .string "")])) ∧
    (Analysis.codec.TakesTo
        (.object [("summary", .object [("status", .string "PASSED")]),
          ("issues", .array [.object [("line", .number 7), ("message", .string "unused"),
            ("severity", .string "MINOR"), ("status", .string "OPEN"), ("rule", .null)]])])
        (.object
          [("issues", .array [.object [("message", .string "unused"), ("severity", .string "MINOR"),
            ("status", .string "OPEN"), ("line", .number 7)]]),
          ("summary", .object [("status", .string "PASSED"), ("conditions", .array [])])]) ∧
      Analysis.codec.Refuses (.object [("summary", .object [("status", .string "PASSED")]),
        ("issues", .array [.object [("message", .string "unused"), ("severity", .string "MINOR"),
          ("status", .string "OPEN"), ("rule", .string "")]])])) ∧
    (Sweep.codec.TakesTo
        (.object [("failed", .array [.object [("error", .object [("message", .string "gone"),
          ("kind", .string "parse")]), ("id", .string "4")]]), ("deleted", .array [.string "3"])])
        (.object [("deleted", .array [.string "3"]),
          ("failed", .array [.object [("id", .string "4"),
            ("error", .object [("kind", .string "parse"), ("message", .string "gone")])]])]) ∧
      Sweep.codec.Refuses (.object [("deleted", .array [.string ""]), ("failed", .array [])])) ∧
    ResolutionError.codec.TakesTo
      (.object [("InvalidBranchType",
        .object [("branch_type", .string "LONG"), ("branch", .string "topic")])])
      (.object [("InvalidBranchType", .object [("branch", .string "topic"),
        ("branch_type", .string "LONG_LIVED")])]) ∧
    BranchType.codec.decode (Value.string "SHORT").text = .ok .shortLived ∧
      BranchType.codec.encode .shortLived = (Value.string "SHORT_LIVED").text := by
  obtain ⟨hregistry, hmetadata, hbranch, hanalysis, hsweep, herror, hname⟩ := documents_normalise
  have hread : Registry.codec.decode shortText = .ok shortRegistry :=
    toOption_eq_some.mp (by decide +kernel)
  have hwrite : Registry.codec.encode shortRegistry = longText := by decide +kernel
  have hnormal := (hregistry.normal _ _ hread).1
  rw [hwrite] at hnormal
  exact ⟨⟨hread, hwrite, hnormal, hregistry.refuses (by decide +kernel)⟩,
    ⟨hmetadata.takesTo (by decide +kernel), hmetadata.refuses (by decide +kernel)⟩,
    ⟨hbranch.takesTo (by decide +kernel), hbranch.refuses (by decide +kernel)⟩,
    ⟨hanalysis.takesTo (by decide +kernel), hanalysis.refuses (by decide +kernel)⟩,
    ⟨hsweep.takesTo (by decide +kernel), hsweep.refuses (by decide +kernel)⟩,
    herror.takesTo (by decide +kernel), hname _ _ (by decide)⟩

end PullDecoration
