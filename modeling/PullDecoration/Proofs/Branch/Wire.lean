import PullDecoration.CommandLine.Run
import PullDecoration.Proofs.Json.Checking
import PullDecoration.Proofs.Json.RoundTrip

/-! Descriptors on the wire. A document can put any text in the place of an identifier, and a key
beside any type; it is read as a descriptor exactly if its parts are coherent. What is written for a
descriptor is read as that descriptor, so that a resolved descriptor is passed on unchanged from one
command to another. -/
namespace PullDecoration

open Json

namespace Identifier

variable {kind : IdentifierKind}

theorem ofString_eq_ok {s : String} {id : Identifier kind} : ofString s = .ok id ↔ s = id.text := by
  rw [← ofString?_eq_some, ofString]
  cases (ofString? s : Option (Identifier kind)) <;> simp

theorem checks (kind : IdentifierKind) : (codec : Codec (Identifier kind)).Checks .string text :=
  Codec.checks_refine fun _ _ => ofString_eq_ok

theorem codec_option_keeps {level : Nat} (id? : Option (Identifier kind)) :
    codec.option.Keeps level id? :=
  Codec.keeps_option (fun id => by simp [codec, Codec.refine, Codec.string]) fun id _ => id.keeps

end Identifier

theorem BranchType.keeps {level : Nat} (t : BranchType) : codec.Keeps level t := by
  cases t <;> exact ⟨.string _, rfl⟩

namespace Descriptor

structure Parts where
  name : String
  type : BranchType
  target : Option String
  reference : Option String
  key : Option String
  deriving DecidableEq

namespace Parts

structure IsCoherent (p : Parts) : Prop where
  name : p.name ≠ ""
  target : ∀ text ∈ p.target, text ≠ ""
  reference : ∀ text ∈ p.reference, text ≠ ""
  key : ∀ text ∈ p.key, text ≠ ""
  key_iff : p.key.isSome ↔ p.type = .pullRequest

def codec : Codec Parts :=
  .record "struct DescriptorFields" .skip
    (.cons (.required "name" .string) (.cons (.required "type" BranchType.codec)
      (.cons (.optional "target_name" .string)
        (.cons (.optional "reference_id" .string)
          (.cons (.optional "pull_request_key" .string) .nil)))))
    (fun p => (p.name, p.type, p.target, p.reference, p.key, ()))
    fun (name, type, target, reference, key, ()) => .ok ⟨name, type, target, reference, key⟩

end Parts

def parts (d : Descriptor) : Parts :=
  ⟨d.name.text, d.type, d.target.map (·.text), d.reference.map (·.text), d.key.map (·.text)⟩

theorem parts_isCoherent (d : Descriptor) : d.parts.IsCoherent where
  name := d.name.text_ne_empty
  target := by simp [parts, Identifier.text_ne_empty]
  reference := by simp [parts, Identifier.text_ne_empty]
  key := by simp [parts, Identifier.text_ne_empty]
  key_iff := by simp [parts, d.key_iff]

theorem exists_identifier (kind : IdentifierKind) {text? : Option String}
    (h : ∀ text ∈ text?, text ≠ "") :
    ∃ id? : Option (Identifier kind), id?.map (·.text) = text? := by
  cases text? with
  | none => exact ⟨none, rfl⟩
  | some text => exact ⟨some ⟨text, h text rfl⟩, rfl⟩

theorem Parts.IsCoherent.exists_descriptor {p : Parts} (h : p.IsCoherent) : ∃ d :
    Descriptor, d.parts = p := by
  obtain ⟨name, type, target, reference, key⟩ := p
  obtain ⟨target, rfl⟩ := exists_identifier .branchName h.target
  obtain ⟨reference, rfl⟩ := exists_identifier .branchUuid h.reference
  obtain ⟨key, rfl⟩ := exists_identifier .pullRequestKey h.key
  have hkey : key.isSome ↔ type = .pullRequest := by simpa using h.key_iff
  exact ⟨⟨⟨name, h.name⟩, type, target, reference, key, hkey⟩, rfl⟩

theorem ofParts_eq_ok {name : BranchName} {type : BranchType} {target : Option BranchName}
    {reference : Option BranchUuid} {key : Option PullRequestKey} {d : Descriptor} :
    ofParts name type target reference key = .ok d ↔
      (name, type, target, reference, key) = (d.name, d.type, d.target, d.reference, d.key) := by
  constructor
  · intro h
    unfold ofParts at h
    split at h
    · cases h
      rfl
    · split at h <;> cases h
  · intro h
    cases h
    exact d.ofParts_self

/-- A document is read as a descriptor exactly if it has the parts of that descriptor. -/
theorem checks : codec.Checks Parts.codec parts := by
  have hfields :=
    Fields.Checks.cons (RecordField.checks_required "name" (Identifier.checks .branchName))
    (.cons (RecordField.checks_required "type" BranchType.codec.checks_self)
      (.cons (RecordField.checks_optional "target_name" (Identifier.checks .branchName))
        (.cons (RecordField.checks_optional "reference_id" (Identifier.checks .branchUuid))
          (.cons (RecordField.checks_optional "pull_request_key"
            (Identifier.checks .pullRequestKey)) .nil))))
  refine Codec.checks_record hfields ?_ ?_ fun _ => rfl
  · rintro ⟨name, type, target, reference, key, ⟨⟩⟩ d
    rw [mapError_eq_ok, ofParts_eq_ok]
    simp
  · rintro ⟨name, type, target, reference, key, ⟨⟩⟩ p
    obtain ⟨name', type', target', reference', key'⟩ := p
    simp

theorem keeps (d : Descriptor) : codec.Keeps 0 d := by
  refine Codec.keeps_record (by decide) (by decide) ?_ ?_
  · exact ⟨RecordField.keeps_required d.name.keeps, RecordField.keeps_required d.type.keeps,
      RecordField.keeps_optional (Identifier.codec_option_keeps d.target),
      RecordField.keeps_optional (Identifier.codec_option_keeps d.reference),
      RecordField.keeps_optional (Identifier.codec_option_keeps d.key), trivial⟩
  · simp [mapError_ok]

theorem pullRequestKey_isOk (d : Descriptor) :
    (∃ key, d.pullRequestKey = .ok key) ↔ d.type = .pullRequest := by
  rw [← d.key_iff, pullRequestKey]
  cases d.key <;> simp

end Descriptor

namespace CommandLine

/-- The commands that read a descriptor from the file go on with `d`. -/
structure Surroundings.Sees (s : Surroundings) (path : String) (d : Descriptor) : Prop where
  load (registry : String) (project : BranchUuid) : s.load registry path project = do
    let g ← s.registry registry
    let b ← (AnalysedBranch.ofDescriptor d project g).mapError .ofLoadError
    return .printed (AnalysedBranch.codec.write b)
  decorate (config analysis : String) : s.inputs config analysis path = do
    return (← s.settings config, ← s.analysis analysis, d)

theorem Surroundings.sees_of_descriptor {s : Surroundings} {path : String} {d : Descriptor}
    (h : s.descriptor path = .ok d) : s.Sees path d where
  load registry project := by
    rw [Surroundings.load, h]
    rfl
  decorate config analysis := by
    rw [inputs, h]
    rfl

theorem Surroundings.resolve_eq_ok {s : Surroundings} {registry : String} {p : Parameters}
    {host : HostVersion} {pattern : Option String} {ending : Ending}
    (h : s.resolve registry p host pattern = .ok ending) :
    ∃ g d, s.registry registry = .ok g ∧ Resolver.resolve ⟨.ofVersion host, pattern⟩ p g = .ok d ∧
      ending = .printed (Descriptor.codec.write d) := by
  obtain ⟨g, hregistry, h⟩ := bind_eq_ok.mp h
  obtain ⟨d, hresolve, h⟩ := bind_eq_ok.mp h
  exact ⟨g, d, hregistry, mapError_eq_ok.mp hresolve, (Except.ok.inj h).symm⟩

theorem Surroundings.descriptor_of_printed {s : Surroundings} {path : String} {d : Descriptor}
    (h : s.file path = .ok (Ending.printed (Descriptor.codec.write d)).output) :
    s.descriptor path = .ok d := by
  have hread := d.keeps.decode (Json.Value.isTextOf_prettyLine (Descriptor.codec.write d))
  simp only [descriptor, document, Surroundings.text, h, mapError_ok, bind, Except.bind]
  rw [Ending.printed, hread, mapError_ok]

end CommandLine

namespace Descriptor

open CommandLine

/-- A document whose parts can be read is a descriptor exactly if its parts are coherent, and then
it has no others. Every descriptor is read back from both of its layouts, and from what a resolution
has printed the resolved one is read. -/
theorem read_iff_coherent :
    (∀ text p, Parts.codec.decode text = .ok p →
      ((∃ d, codec.decode text = .ok d) ↔ p.IsCoherent) ∧
      ∀ d, codec.decode text = .ok d → d.parts = p) ∧
    (∀ text d, codec.decode text = .ok d → Parts.codec.decode text = .ok d.parts ∧
      d.parts.IsCoherent) ∧
    (∀ d : Descriptor, ((∃ key, d.pullRequestKey = .ok key) ↔ d.type = .pullRequest) ∧
      codec.decode (codec.encode d) = .ok d ∧ codec.decode (codec.write d).prettyText = .ok d) ∧
    ∀ (s : Surroundings) (registry : String) (p : Parameters) (host : HostVersion)
    (pattern : Option String)
      (ending : Ending), s.resolve registry p host pattern = .ok ending →
      ∃ g d, s.registry registry = .ok g ∧ Resolver.resolve ⟨.ofVersion host, pattern⟩ p g = .ok d ∧
        ∀ (s' : Surroundings) (path : String), s'.file path = .ok ending.output →
        s'.Sees path d := by
  refine ⟨?_, ?_, ?_, ?_⟩
  · intro text p hp
    have hread (d : Descriptor) : codec.decode text = .ok d ↔ d.parts = p := by
      rw [checks.decode, hp, Except.ok.injEq, eq_comm]
    refine ⟨⟨?_, ?_⟩, fun d => (hread d).mp⟩
    · rintro ⟨d, hd⟩
      exact (hread d).mp hd ▸ d.parts_isCoherent
    · intro hcoherent
      obtain ⟨d, hd⟩ := hcoherent.exists_descriptor
      exact ⟨d, (hread d).mpr hd⟩
  · intro text d hd
    exact ⟨checks.decode.mp hd, d.parts_isCoherent⟩
  · intro d
    exact ⟨d.pullRequestKey_isOk, d.keeps.decode (Value.isTextOf_text _),
      d.keeps.decode (Value.isTextOf_prettyText _)⟩
  · intro s registry p host pattern ending h
    obtain ⟨g, d, hregistry, hresolve, rfl⟩ := Surroundings.resolve_eq_ok h
    exact ⟨g, d, hregistry, hresolve, fun s' path hfile =>
      Surroundings.sees_of_descriptor (Surroundings.descriptor_of_printed hfile)⟩

def smuggledText : String :=
  "\x7b\"name\":\"master\",\"type\":\"BRANCH\",\"pull_request_key\":\"7\"\x7d"

def smuggledParts : Parts := ⟨"master", .branch, none, none, some "7"⟩

def singleRecord : Surroundings where
  file _ := .ok ("\x7b\"default_branch\":\"master\",\"branches\":[\x7b\"name\":\"master\"," ++
    "\"type\":\"BRANCH\",\"uuid\":\"uuid-trunk\",\"is_main\":true\x7d]\x7d")
  password := none

theorem smuggledKey_refused :
    Parts.codec.decode smuggledText = .ok smuggledParts ∧
    (¬ ∃ d, codec.decode smuggledText = .ok d) ∧
      ∃ ending, singleRecord.resolve "registry" ⟨[("pullrequest.key", "7")]⟩ ⟨8, 1⟩ none =
        .ok ending ∧
        ∃ d : Descriptor, d.key = some ⟨"7", by decide⟩ ∧
          (Surroundings.mk (fun _ => .ok ending.output) none).Sees "descriptor" d := by
  have hparts : Parts.codec.decode smuggledText = .ok smuggledParts :=
    toOption_eq_some.mp (by decide +kernel)
  obtain ⟨hread, -, -, hresolve⟩ := read_iff_coherent
  refine ⟨hparts, ?_, ?_⟩
  · rw [(hread _ _ hparts).1]
    intro hcoherent
    exact absurd (hcoherent.key_iff.mp rfl) (by decide)
  · have hsome :
        (singleRecord.resolve "registry" ⟨[("pullrequest.key", "7")]⟩ ⟨8, 1⟩ none).isOk := by
      decide +kernel
    obtain ⟨ending, hending⟩ := isOk_iff.mp hsome
    obtain ⟨g, d, hg, hd, hsees⟩ := hresolve _ _ _ _ _ _ hending
    have hkey : ((singleRecord.registry "registry").toOption.bind fun g =>
        (Resolver.resolve ⟨.ofVersion ⟨8, 1⟩, none⟩ ⟨[("pullrequest.key", "7")]⟩ g).toOption.bind
          (·.key)) = some ⟨"7", by decide⟩ := by
      decide +kernel
    rw [toOption_eq_some.mpr hg, Option.bind_some, toOption_eq_some.mpr hd,
      Option.bind_some] at hkey
    exact ⟨ending, hending, d, hkey, hsees _ _ rfl⟩

end Descriptor
end PullDecoration
