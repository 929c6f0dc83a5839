import PullDecoration.Proofs.Branch.Reported

/-! What is loaded for a resolved descriptor where its report is processed. The report carries names
only, so the reference is found once more, in a registry that may have grown. It is found again
wherever the descriptor has a target; a long-lived branch on record has none, and is given the
project as its reference. -/
namespace PullDecoration

namespace AnalysedBranch

variable {d : Descriptor} {g : Registry}

/-- Whether the record of the branch is that of the main line. A pull request is never the main
line. -/
def isMainIn (d : Descriptor) (g : Registry) : Bool :=
  d.type ≠ .pullRequest && (g.find? d.name.text).any (·.isMain)

theorem key_eq_none (h : d.type ≠ .pullRequest) : d.key = none := by
  have hkey : ¬ d.key.isSome := fun hsome => h (d.key_iff.mp hsome)
  simpa using hkey

theorem report_eq (htype : d.type ≠ .main) :
    ReportMetadata.ofDescriptor d = ⟨some d.name, some d.type, d.target, d.target, d.key⟩ :=
      if_neg htype

theorem ofDescriptor_eq (project : BranchUuid) (htype : d.type ≠ .main) :
    ofDescriptor d project g = (referenceFor (.ofDescriptor d) project g).map fun reference =>
      ⟨d.name, d.type, isMainIn d g, some reference, d.key, d.target⟩ := by
  have hkey : (if d.type = .pullRequest then d.key else none) = d.key := by
    by_cases hrequest : d.type = .pullRequest
    · rw [if_pos hrequest]
    · rw [if_neg hrequest, key_eq_none hrequest]
  rw [ofDescriptor, report_eq htype, load_eq rfl rfl ((loadable_or_main _).resolve_right htype),
    hkey, Option.or_self]
  rfl

theorem ofDescriptor_targeted {target : BranchName} {base : BranchRecord} (project : BranchUuid)
    (htype : d.type ≠ .main) (htarget : d.target = some target)
    (hbase : g.find? target.text = some base) :
    ofDescriptor d project g =
      .ok ⟨d.name, d.type, isMainIn d g, some base.uuid, d.key, some target⟩ := by
  have hcompared : comparedName (.ofDescriptor d) g = some target := by
    rw [report_eq htype, comparedName, htarget, Option.getD_some, ite_self]
  have hreference : referenceFor (.ofDescriptor d) project g = .ok base.uuid := by
    rw [referenceFor, hcompared]
    exact referenceOf_eq_ok.mpr ⟨base, Registry.find?_eq_some_iff.mp hbase, rfl⟩
  rw [ofDescriptor_eq project htype, hreference, htarget]
  rfl

theorem ofDescriptor_untargeted (project : BranchUuid) (htype : d.type = .longLived)
    (htarget : d.target = none) :
    ofDescriptor d project g =
      .ok ⟨d.name, .longLived, isMainIn d g, some project, none, none⟩ := by
  have hreference : referenceFor (.ofDescriptor d) project g = .ok project := by
    rw [report_eq (by simp [htype]), referenceFor_branch (by simp [htype]), htarget]
  rw [ofDescriptor_eq project (by simp [htype]), hreference, htarget,
    key_eq_none (by simp [htype]), htype]
  rfl

/-- The report of a main line names nothing, so the project's own record is looked up. -/
theorem ofDescriptor_main (project : BranchUuid) (htype : d.type = .main) :
    ofDescriptor d project g = match g.findByUuid? project with
      | none => .error .mainBranchNotFound
      | some r => .ok ⟨r.name, r.type, r.isMain, none, none, none⟩ := by
  unfold ofDescriptor ReportMetadata.ofDescriptor
  rw [if_pos htype]
  rfl

theorem ofDescriptor_ne_invalidBranchType (d : Descriptor) (project : BranchUuid) (g : Registry)
    (found : String) : ofDescriptor d project g ≠ .error (.invalidBranchType found) := by
  intro h
  by_cases htype : d.type = .main
  · rw [ofDescriptor_main project htype] at h
    cases hfound : g.findByUuid? project <;> simp [hfound] at h
  · rw [ofDescriptor, report_eq htype,
      load_eq_error rfl rfl ((loadable_or_main _).resolve_right htype)] at h
    obtain ⟨merge, -, -, herror⟩ := h
    cases herror

variable {r : Resolver} {p : Parameters}

/-- What is loaded for a resolved branch or pull request, from the registry of its resolution or
from a longer one: the descriptor in all but the reference, which is that of the descriptor exactly
if there is a target. -/
theorem ofDescriptor_of_resolve (h : r.resolve p g = .ok d) (htype : d.type ≠ .main)
    (project : BranchUuid) (more : List BranchRecord) :
    ofDescriptor d project (g.append more) = .ok ⟨d.name, d.type, isMainIn d (g.append more),
      if d.target.isSome then d.reference else some project, d.key, d.target⟩ := by
  have hresolved : r.Resolved p g d := Resolver.resolve_eq_ok.mp h
  cases htarget : d.target with
  | some target =>
    obtain ⟨-, base, hbase, hreference⟩ := hresolved.target htarget
    rw [ofDescriptor_targeted project htype htarget
      (Registry.find?_append_of_some more hbase.found), hreference]
    rfl
  | none =>
    rcases hresolved.untargeted htarget with ⟨hmain, -⟩ | ⟨hlong, -⟩
    · exact absurd hmain htype
    · rw [ofDescriptor_untargeted project hlong htarget, key_eq_none (by simp [hlong]), hlong]
      rfl

/-- The main line is loaded exactly if the project has a record, and it is the first one that
counts. -/
theorem ofDescriptor_main_iff (project : BranchUuid) (htype : d.type = .main) :
    ((∃ b, ofDescriptor d project g = .ok b) ↔ ∃ record ∈ g.records, record.uuid = project) ∧
      ∀ earlier record later, g.records = earlier ++ record :: later → record.uuid = project →
        (∀ other ∈ earlier, other.uuid ≠ project) →
        ofDescriptor d project g =
          .ok ⟨record.name, record.type, record.isMain, none, none, none⟩ := by
  rw [ofDescriptor_main project htype]
  constructor
  · have hfound : (g.findByUuid? project).isSome ↔ ∃ record ∈ g.records, record.uuid = project := by
      simp [Registry.findByUuid?]
    rw [← hfound]
    cases g.findByUuid? project <;> simp
  · intro earlier record later hrecords huuid hearlier
    rw [Registry.findByUuid?_eq_some_iff.mpr ⟨huuid, earlier, later, hrecords, hearlier⟩]

/-- A resolved descriptor can be loaded however the registry grows, and always with the same
reference. For a main line it takes a record of the project. No descriptor at all has a type that is
refused. -/
theorem resolved_stays_loadable (h : r.resolve p g = .ok d) (project : BranchUuid)
    (more : List BranchRecord) :
    (d.type ≠ .main → ∃ now later, ofDescriptor d project g = .ok now ∧
        ofDescriptor d project (g.append more) = .ok later ∧
        later.name = d.name ∧ later.type = d.type ∧ later.key = d.key ∧
        (later.key.isSome ↔ d.type = .pullRequest) ∧ later.target = d.target ∧
        later.reference = now.reference) ∧
      (d.type = .main →
        ((∃ b, ofDescriptor d project (g.append more) = .ok b) ↔
          ∃ record ∈ g.records ++ more, record.uuid = project) ∧
        ∀ earlier record later, g.records ++ more = earlier ++ record :: later →
          record.uuid = project → (∀ other ∈ earlier, other.uuid ≠ project) →
          ofDescriptor d project (g.append more) =
            .ok ⟨record.name, record.type, record.isMain, none, none, none⟩) ∧
      ∀ (other : Descriptor) (anywhere : Registry) (found : String),
        ofDescriptor other project anywhere ≠ .error (.invalidBranchType found) := by
  refine ⟨fun htype => ?_, fun htype => ofDescriptor_main_iff project htype,
    fun other anywhere found => ofDescriptor_ne_invalidBranchType other project anywhere found⟩
  have hnow := ofDescriptor_of_resolve h htype project []
  rw [g.append_nil] at hnow
  exact ⟨_, _, hnow, ofDescriptor_of_resolve h htype project more, rfl, rfl, rfl,
    d.key_iff, rfl, rfl⟩

def releaseRegistry : Registry :=
  ⟨conventionalMain, [⟨conventionalMain, .branch, ⟨"uuid-trunk", by decide⟩, true⟩,
    ⟨⟨"release/1", by decide⟩, .longLived, ⟨"uuid-release", by decide⟩, false⟩]⟩

def releaseParameters : Parameters := ⟨[("branch.name", "release/1")]⟩

def releaseLine : Descriptor :=
  .ofBranch ⟨"release/1", by decide⟩ .longLived none ⟨"uuid-release", by decide⟩ (by decide)

theorem releaseLine_resolved :
    Resolver.conventional.resolve releaseParameters releaseRegistry = .ok releaseLine := by
  rfl

/-- A pull request into the release line stays what it is when a second record of that name turns
up. -/
theorem releaseRequest_loadable :
    let request : Descriptor := .pullRequest ⟨"7", by decide⟩ ⟨"7", by decide⟩
      ⟨"release/1", by decide⟩ ⟨"uuid-release", by decide⟩
    let more : List BranchRecord :=
      [⟨⟨"release/1", by decide⟩, .branch, ⟨"uuid-other", by decide⟩, false⟩]
    Resolver.conventional.resolve
        ⟨[("pullrequest.key", "7"), ("pullrequest.base", "release/1")]⟩ releaseRegistry =
          .ok request ∧
      ∃ later, ofDescriptor request ⟨"uuid-trunk", by decide⟩ (releaseRegistry.append more) =
          .ok later ∧ later.name = request.name ∧ later.key = request.key := by
  intro request more
  have hok : Resolver.conventional.resolve
      ⟨[("pullrequest.key", "7"), ("pullrequest.base", "release/1")]⟩ releaseRegistry =
        .ok request := by
    rfl
  obtain ⟨now, later, -, hlater, hname, -, hkey, -⟩ :=
    (resolved_stays_loadable hok ⟨"uuid-trunk", by decide⟩ more).1 nofun
  exact ⟨hok, later, hlater, hname, hkey⟩

/-- What is loaded for a resolved branch or pull request has the reference of its descriptor. -/
def ReferencesAgree (r : Resolver) (p : Parameters) (g : Registry) (project : BranchUuid) : Prop :=
  ∀ d, r.resolve p g = .ok d → d.type ≠ .main →
    ∃ b, ofDescriptor d project g = .ok b ∧ b.reference = d.reference

/-- The release line is its own reference where it is resolved, and is compared with the main line
where its report is processed. -/
theorem releaseLine_references_differ :
    ¬ ReferencesAgree .conventional releaseParameters releaseRegistry
      ⟨"uuid-trunk", by decide⟩ := by
  intro hagree
  obtain ⟨b, hload, hreference⟩ := hagree releaseLine releaseLine_resolved nofun
  have hproject : b.reference = some ⟨"uuid-trunk", by decide⟩ := by
    rw [ofDescriptor_untargeted _ rfl rfl] at hload
    rw [← Except.ok.inj hload]
  rw [hproject] at hreference
  revert hreference
  decide

/-- The references agree wherever there is a target. Without one the descriptor is that of a
long-lived branch on record, whose own uuid is its reference; the project is loaded in its place, so
the two agree only if they are the same. -/
theorem reference_agrees_iff (h : r.resolve p g = .ok d) (htype : d.type ≠ .main)
    (project : BranchUuid) :
    ∃ b, ofDescriptor d project g = .ok b ∧
      (b.reference = d.reference ↔ d.target ≠ none ∨ d.reference = some project) ∧
      (d.target = none → b.reference = some project ∧ d.type = .longLived ∧
        ∃ record, g.find? d.name.text = some record ∧ d.reference = some record.uuid) := by
  have hload := ofDescriptor_of_resolve h htype project []
  rw [g.append_nil] at hload
  refine ⟨_, hload, ?_, fun htarget => ⟨by simp [htarget], ?_⟩⟩
  · cases d.target with
    | none => simp [eq_comm]
    | some target => simp
  · rcases (Resolver.resolve_eq_ok.mp h).untargeted htarget with ⟨hmain, -⟩ | hlong
    · exact absurd hmain htype
    · exact hlong

theorem releaseLine_reference :
    Resolver.conventional.resolve releaseParameters releaseRegistry = .ok releaseLine ∧
      releaseLine.type ≠ .main ∧
      ∃ b, ofDescriptor releaseLine ⟨"uuid-trunk", by decide⟩ releaseRegistry = .ok b ∧
        b.reference = some ⟨"uuid-trunk", by decide⟩ := by
  obtain ⟨b, hload, -, huntargeted⟩ :=
    reference_agrees_iff releaseLine_resolved nofun ⟨"uuid-trunk", by decide⟩
  exact ⟨releaseLine_resolved, nofun, b, hload, (huntargeted rfl).1⟩

end AnalysedBranch
end PullDecoration
