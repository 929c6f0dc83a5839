import PullDecoration.Proofs.Json.RoundTrip
import PullDecoration.Proofs.Json.Strict
import PullDecoration.Settings.Raw

/-! The documents that settings are read from. A document is a text of an object of at most two
sections, and a section is an object of settings; each key is one of those that are known there and
stands there once. Nothing else is read as settings, apart from arrays of fields in their order. -/
namespace PullDecoration

namespace Json.Value

def text? : Value → Option String
  | .string s => some s
  | _ => none

def seconds? : Value → Option UInt64
  | .number n => if n < UInt64.size then some (.ofNat n) else none
  | _ => none

def toggle? : Value → Option Bool
  | .bool b => some b
  | _ => none

end Json.Value

open Json

variable {α : Type}

/-- What may stand for a setting of the type: null, or a value of the type. -/
def AdmitsSetting (type? : Value → Option α) (v : Value) : Prop :=
  v = .null ∨ (type? v).isSome = true

def settingOf (type? : Value → Option α) (name : String) (ms : List (String × Value)) : Option α :=
  (ms.lookup name).bind type?

/-- What may stand for a section: an object of settings with these keys, and never null. -/
def AdmitsSection (keys : List (String × (Value → Prop))) (v : Value) : Prop :=
  ∃ ms, v = .object ms ∧ Fits keys ms

def sectionOf (name : String) (ms : List (String × Value)) : List (String × Value) :=
  match ms.lookup name with
  | some (.object settings) => settings
  | _ => []

namespace ProviderSection

def keys : List (String × (Value → Prop)) :=
  [("base_url", AdmitsSetting Value.text?), ("workspace", AdmitsSetting Value.text?),
    ("repository", AdmitsSetting Value.text?), ("username", AdmitsSetting Value.text?),
    ("password", AdmitsSetting Value.text?), ("token", AdmitsSetting Value.text?),
    ("request_timeout_secs", AdmitsSetting Value.seconds?)]

def ofMembers (ms : List (String × Value)) : ProviderSection where
  baseUrl := settingOf Value.text? "base_url" ms
  workspace := settingOf Value.text? "workspace" ms
  repository := settingOf Value.text? "repository" ms
  username := settingOf Value.text? "username" ms
  password := settingOf Value.text? "password" ms
  token := settingOf Value.text? "token" ms
  timeout := settingOf Value.seconds? "request_timeout_secs" ms

end ProviderSection

namespace DecorationSection

def keys : List (String × (Value → Prop)) :=
  [("summary_comment", AdmitsSetting Value.toggle?), ("file_comments", AdmitsSetting Value.toggle?),
    ("delete_old_comments", AdmitsSetting Value.toggle?)]

def ofMembers (ms : List (String × Value)) : DecorationSection where
  summary := settingOf Value.toggle? "summary_comment" ms
  issues := settingOf Value.toggle? "file_comments" ms
  clear := settingOf Value.toggle? "delete_old_comments" ms

end DecorationSection

namespace RawSettings

def keys : List (String × (Value → Prop)) :=
  [("provider", AdmitsSection ProviderSection.keys),
    ("decoration", AdmitsSection DecorationSection.keys)]

def ofMembers (ms : List (String × Value)) : RawSettings where
  provider := .ofMembers (sectionOf "provider" ms)
  decoration := .ofMembers (sectionOf "decoration" ms)

end RawSettings

def Json.Codec.Reads (c : Codec α) (type? : Value → Option α) : Prop :=
  ∀ (v : Value) (level : Nat) (a : α), c.read (v.document level) = .ok a ↔ type? v = some a

theorem reads_string : Codec.string.Reads Value.text? := by
  intro v level text
  cases v <;> simp [Codec.string, readString, Value.document, Value.text?,
    readLiteral, Literal.ofString]

theorem reads_bool : Codec.bool.Reads Value.toggle? := by
  intro v level b
  cases v <;> simp [Codec.bool, readBool, Value.document, Value.toggle?]

theorem reads_u64 : Codec.u64.Reads Value.seconds? := by
  intro v level a
  cases v with
  | number n =>
    have hread (k : Nat) : readNatural UInt64.size "u64" ((Value.number n).document level) = .ok k ↔
        n < UInt64.size ∧ n = k := by
      constructor
      · intro h
        obtain ⟨hstands, hk⟩ := Codec.natural_of_readNatural h
        cases hstands with
        | number hnumber =>
          obtain rfl := natural_of_number_ofNat hnumber
          exact ⟨hk, rfl⟩
      · rintro ⟨hn, rfl⟩
        exact Codec.readNatural_number level "u64" hn (Nat.le_refl _)
    simp [Codec.u64, map_eq_ok, hread, Value.seconds?]
  | _ => simp [Codec.u64, readNatural, Value.document, Value.seconds?, Except.map]

section Reading

variable {level : Nat} {ms : List (String × Value)} {name : String}

/-- What may be missing is read from null and from the values of the type. -/
theorem Json.Codec.Reads.option {c : Codec α} {type? : Value → Option α} (hreads : c.Reads type?)
    (hnull : type? .null = none) (v : Value) (a? : Option α) :
    c.option.read (v.document level) = .ok a? ↔ AdmitsSetting type? v ∧ a? = type? v := by
  by_cases hv : v = .null
  · subst hv
    simp [Codec.option, readOption, Value.document, AdmitsSetting, hnull, eq_comm]
  · have hread : c.option.read (v.document level) = .ok a? ↔
        ∃ a, c.read (v.document level) = .ok a ∧ some a = a? := by
      cases v with
      | null => exact absurd rfl hv
      | _ => simp [Codec.option, readOption, Value.document, bind_eq_ok, pure, Except.pure]
    rw [hread, AdmitsSetting, or_iff_right hv]
    simp only [hreads v level]
    cases type? v <;> simp [eq_comm]

theorem determines_nullable {c : Codec α} {type? : Value → Option α} (hreads : c.Reads type?)
    (hnull : type? .null = none) : (RecordField.nullable name c).Determines level ms
      (AdmitsSetting type?) (settingOf type? name ms) where
  present {v} h a? := by
    have hlookup : ms.lookup name = some v := lookup_of_only h
    rw [settingOf, hlookup]
    exact hreads.option hnull v a?
  absent h := by
    have hlookup : ms.lookup name = none := lookup_of_absent h
    rw [settingOf, hlookup]
    rfl

theorem determines_text : (RecordField.nullable name .string).Determines level ms
    (AdmitsSetting Value.text?) (settingOf Value.text? name ms) :=
  determines_nullable reads_string rfl

theorem determines_seconds : (RecordField.nullable name .u64).Determines level ms
    (AdmitsSetting Value.seconds?) (settingOf Value.seconds? name ms) :=
  determines_nullable reads_u64 rfl

theorem determines_toggle : (RecordField.nullable name .bool).Determines level ms
    (AdmitsSetting Value.toggle?) (settingOf Value.toggle? name ms) :=
  determines_nullable reads_bool rfl

theorem ProviderSection.read_eq_ok (hlevel : level < readableLevels) (settings : ProviderSection) :
    ProviderSection.codec.read ((Value.object ms).document level) = .ok settings ↔
      Fits ProviderSection.keys ms ∧ settings = .ofMembers ms := by
  refine (Codec.read_object_eq_ok
    (.cons determines_text (.cons determines_text (.cons determines_text (.cons determines_text
      (.cons determines_text (.cons determines_text (.cons determines_seconds .nil)))))))
    hlevel (by decide) settings).trans ?_
  simp only [Except.ok.injEq, eq_comm]
  rfl

theorem DecorationSection.read_eq_ok (hlevel : level < readableLevels)
    (settings : DecorationSection) :
    DecorationSection.codec.read ((Value.object ms).document level) = .ok settings ↔
      Fits DecorationSection.keys ms ∧ settings = .ofMembers ms := by
  refine (Codec.read_object_eq_ok (.cons determines_toggle (.cons determines_toggle
    (.cons determines_toggle .nil))) hlevel (by decide) settings).trans ?_
  simp only [Except.ok.injEq, eq_comm]
  rfl

end Reading

/-- The configuration or one of its sections is laid out as an array of its fields in their
order. -/
inductive ListsFields : Value → Prop
  | configuration (items : List Value) : ListsFields (.array items)
  | inSection {name : String} {items : List Value} {ms : List (String × Value)}
      (hname : name ∈ RawSettings.keys.map (·.1)) (h : (name, .array items) ∈ ms) :
      ListsFields (.object ms)

inductive HasUnknownKey (ms : List (String × Value)) : Prop
  | atTop {m : String × Value} (hm : m ∈ ms) (hkey : m.1 ∉ RawSettings.keys.map (·.1)) :
      HasUnknownKey ms
  | inSection {name : String} {keys : List (String × (Value → Prop))}
      {settings : List (String × Value)} {m : String × Value}
      (hsection : (name, AdmitsSection keys) ∈ RawSettings.keys)
      (hsettings : (name, .object settings) ∈ ms) (hm : m ∈ settings)
      (hkey : m.1 ∉ keys.map (·.1)) :
      HasUnknownKey ms

/-- The section of a name is read from the object behind the name, if there is one. -/
theorem determines_section {c : Codec α} {keys : List (String × (Value → Prop))}
    {ofMembers : List (String × Value) → α} {level : Nat} {ms : List (String × Value)}
    {name : String} {a₀ : α}
    (hread : ∀ settings a, c.read ((Value.object settings).document level) = .ok a ↔
      Fits keys settings ∧ a = ofMembers settings)
    (hother : ∀ (v : Value) (a : α), c.read (v.document level) = .ok a →
      (∃ items, v = .array items) ∨ ∃ settings, v = .object settings)
    (habsent : a₀ = ofMembers []) (harray : ∀ items, (name, .array items) ∉ ms) :
    (RecordField.defaulted name c a₀).Determines level ms (AdmitsSection keys)
      (ofMembers (sectionOf name ms)) where
  present {v} h a := by
    have hlookup : ms.lookup name = some v := lookup_of_only h
    have hmem : (name, v) ∈ ms := mem_valuesOf.mp (h ▸ List.mem_singleton_self v)
    constructor
    · intro hok
      obtain ⟨items, rfl⟩ | ⟨settings, rfl⟩ := hother v a hok
      · exact absurd hmem (harray items)
      · obtain ⟨hfits, ha⟩ := (hread settings a).mp hok
        exact ⟨⟨settings, rfl, hfits⟩, by rw [ha, sectionOf, hlookup]⟩
    · rintro ⟨⟨settings, rfl, hfits⟩, ha⟩
      rw [sectionOf, hlookup] at ha
      exact (hread settings a).mpr ⟨hfits, ha⟩
  absent h := by
    have hlookup : ms.lookup name = none := lookup_of_absent h
    rw [sectionOf, hlookup, ← habsent]
    rfl

theorem ProviderSection.determines {level : Nat} {ms : List (String × Value)}
    (hlevel : level < readableLevels) (harray : ∀ items, ("provider", .array items) ∉ ms) :
    (RecordField.defaulted "provider" ProviderSection.codec .empty).Determines level ms
      (AdmitsSection ProviderSection.keys) (.ofMembers (sectionOf "provider" ms)) :=
  determines_section (fun _ => ProviderSection.read_eq_ok hlevel)
    (fun _ _ => Codec.array_or_object_of_read) rfl harray

theorem DecorationSection.determines {level : Nat} {ms : List (String × Value)}
    (hlevel : level < readableLevels) (harray : ∀ items, ("decoration", .array items) ∉ ms) :
    (RecordField.defaulted "decoration" DecorationSection.codec .empty).Determines level ms
      (AdmitsSection DecorationSection.keys) (.ofMembers (sectionOf "decoration" ms)) :=
  determines_section (fun _ => DecorationSection.read_eq_ok hlevel)
    (fun _ _ => Codec.array_or_object_of_read) rfl harray

theorem ProviderSection.readsValues : ProviderSection.codec.ReadsValues :=
  Codec.readsValues_record ⟨Codec.readsValues_string.option, Codec.readsValues_string.option,
    Codec.readsValues_string.option, Codec.readsValues_string.option,
    Codec.readsValues_string.option, Codec.readsValues_string.option,
    Codec.readsValues_u64.option, trivial⟩

theorem DecorationSection.readsValues : DecorationSection.codec.ReadsValues :=
  Codec.readsValues_record ⟨Codec.readsValues_bool.option, Codec.readsValues_bool.option,
    Codec.readsValues_bool.option, trivial⟩

namespace RawSettings

theorem readsValues : codec.ReadsValues :=
  Codec.readsValues_record ⟨ProviderSection.readsValues, DecorationSection.readsValues, trivial⟩

theorem read_eq_ok {v : Value} (hv : ¬ ListsFields v) (raw : RawSettings) :
    codec.read (v.document 0) = .ok raw ↔ ∃ ms, v = .object ms ∧ Fits keys ms ∧
    raw = ofMembers ms := by
  -- Both directions come down to objects: nothing but arrays and objects is read, and arrays are
  -- left out.
  have hobject (ms : List (String × Value)) (hms : ¬ ListsFields (.object ms)) :
      codec.read ((Value.object ms).document 0) = .ok raw ↔ Fits keys ms ∧ raw = ofMembers ms := by
    have harray {name : String} (hname : name ∈ keys.map (·.1)) (items : List Value) :
        (name, .array items) ∉ ms := fun h => hms (.inSection hname h)
    refine (Codec.read_object_eq_ok
      (.cons (ProviderSection.determines (by decide) (harray (by simp [keys])))
        (.cons (DecorationSection.determines (by decide) (harray (by simp [keys]))) .nil))
      (by decide) (by decide) raw).trans ?_
    simp only [Except.ok.injEq, eq_comm]
    rfl
  constructor
  · intro hok
    obtain ⟨items, rfl⟩ | ⟨ms, rfl⟩ := Codec.array_or_object_of_read hok
    · exact absurd (.configuration items) hv
    · exact ⟨ms, rfl, (hobject ms hv).mp hok⟩
  · rintro ⟨ms, rfl, hfits⟩
    exact (hobject ms hv).mpr hfits

theorem not_fits_of_hasUnknownKey {ms : List (String × Value)} (h : HasUnknownKey ms) :
    ¬ Fits keys ms := by
  intro hfits
  cases h with
  | atTop hm hkey => exact hkey (hfits.key_mem hm)
  | inSection hsection hsettings hm hkey =>
    obtain ⟨settings, hobject, hinner⟩ := hfits.admits (by decide) hsettings hsection
    cases hobject
    exact hkey (hinner.key_mem hm)

/-- A text whose configuration and sections are no arrays is read exactly if it is the text of an
object of sections: every key is known where it stands and stands there once, a setting is null or a
value of its type, and a section is an object. Each setting that is read is then the one that stands
behind its key. In the text of a value numbers are naturals and surrogates stand in pairs; a text
with any others is not read either. -/
theorem decode_exact {s : String} (hs : ∀ v, IsTextOf s v → ¬ ListsFields v) :
    (∀ raw, codec.decode s = .ok raw ↔
      ∃ ms, IsTextOf s (.object ms) ∧ Fits keys ms ∧ raw = ofMembers ms) ∧
    ∀ ms, IsTextOf s (.object ms) → HasUnknownKey ms → ∃ e, codec.decode s = .error e := by
  have hexact (raw : RawSettings) : codec.decode s = .ok raw ↔
      ∃ ms, IsTextOf s (.object ms) ∧ Fits keys ms ∧ raw = ofMembers ms := by
    rw [readsValues.decode_eq_ok]
    constructor
    · rintro ⟨v, htext, hread⟩
      obtain ⟨ms, rfl, hms⟩ := (read_eq_ok (hs v htext) raw).mp hread
      exact ⟨ms, htext, hms⟩
    · rintro ⟨ms, htext, hms⟩
      exact ⟨_, htext, (read_eq_ok (hs _ htext) raw).mpr ⟨ms, rfl, hms⟩⟩
  refine ⟨hexact, fun ms htext hunknown => ?_⟩
  cases hdecode : codec.decode s with
  | error e => exact ⟨e, rfl⟩
  | ok raw =>
    obtain ⟨ms', htext', hfits, -⟩ := (hexact raw).mp hdecode
    cases htext.unique htext'
    exact absurd hfits (not_fits_of_hasUnknownKey hunknown)

theorem timeout_decoded :
    codec.decode (Value.object [("provider", .object [("token", .null),
        ("request_timeout_secs", .number 30)])]).text =
      .ok ⟨{ ProviderSection.empty with timeout := some 30 }, .empty⟩ ∧
    ∃ e, codec.decode (Value.object [("provider", .object [("workspce", .string "typo")])]).text =
      .error e := by
  have hobject {settings : List (String × Value)} {v : Value}
      (hv : IsTextOf (Value.object [("provider", .object settings)]).text v) : ¬ ListsFields v := by
    rw [hv.unique (Value.isTextOf_text _)]
    intro hlists
    cases hlists with
    | inSection _ h => simp at h
  constructor
  · have htoken : ∃ admits, ("token", admits) ∈ ProviderSection.keys ∧ admits .null :=
      ⟨AdmitsSetting Value.text?, by simp [ProviderSection.keys], .inl rfl⟩
    have hseconds : ∃ admits, ("request_timeout_secs", admits) ∈ ProviderSection.keys ∧
        admits (.number 30) :=
      ⟨AdmitsSetting Value.seconds?, by simp [ProviderSection.keys], .inr rfl⟩
    have hsettings : Fits ProviderSection.keys
        [("token", .null), ("request_timeout_secs", .number 30)] :=
      ⟨by decide, List.forall_mem_cons.mpr ⟨htoken, List.forall_mem_singleton.mpr hseconds⟩⟩
    have hprovider : ∃ admits, ("provider", admits) ∈ keys ∧ admits (.object _) :=
      ⟨AdmitsSection ProviderSection.keys, .head _, _, rfl, hsettings⟩
    exact ((decode_exact fun _ => hobject).1 _).mpr
      ⟨_, Value.isTextOf_text _, ⟨by decide, List.forall_mem_singleton.mpr hprovider⟩, rfl⟩
  · exact (decode_exact fun _ => hobject).2 _ (Value.isTextOf_text _)
      (.inSection (.head _) (.head _) (.head _) (by decide))

end RawSettings
end PullDecoration
