import Mathlib.Data.List.Nodup
import PullDecoration.Proofs.Json.Checking
import PullDecoration.Proofs.Json.Soundness

/-! Records that refuse strangers. Nothing of an object is passed over by such a record: it reads
each member wholly, so what it accepts is the text of a value; each member is one of its fields, no
field has two members, and each value is one that its field admits. -/
namespace PullDecoration
namespace Json

variable {α τ δ : Type}

theorem readLiteral_eq_ok {s : Literal} {text : String} :
    readLiteral s = .ok text ↔ s.read = .ok text := by
  cases h : s.read <;> simp [readLiteral, h]

def Codec.ReadsValues (c : Codec α) : Prop := ∀ d a, c.read d = .ok a → ∃ v, d.StandsFor v

namespace Codec

theorem readsValues_bool : bool.ReadsValues := by
  intro d b h
  cases d with
  | bool b => exact ⟨_, .bool b⟩
  | _ => cases h

theorem readsValues_string : string.ReadsValues := by
  intro d text h
  cases d with
  | string s => exact ⟨_, .string (readLiteral_eq_ok.mp h)⟩
  | _ => cases h

theorem natural_of_readNatural {bound k : Nat} {kind : String} {d : Document}
    (h : readNatural bound kind d = .ok k) : d.StandsFor (.number k) ∧ k < bound := by
  cases d with
  | number n =>
    simp only [readNatural] at h
    split at h
    · rename_i hnatural
      split at h
      · cases h
        exact ⟨.number hnatural, ‹_›⟩
      · cases h
    all_goals cases h
  | _ => cases h

theorem readsValues_u64 : u64.ReadsValues := by
  intro d n h
  obtain ⟨k, hk, -⟩ := map_eq_ok.mp h
  exact ⟨_, (natural_of_readNatural hk).1⟩

theorem ReadsValues.option {c : Codec α} (h : c.ReadsValues) : c.option.ReadsValues := by
  intro d a? hread
  cases d with
  | null => exact ⟨_, .null⟩
  | _ =>
    obtain ⟨a, ha, -⟩ := bind_eq_ok.mp hread
    exact h _ a ha

theorem decode_of_isTextOf (c : Codec α) {s : String} {v : Value} (h : IsTextOf s v) :
    c.decode s = c.read (v.document 0) := by
  cases hread : c.read (v.document 0) <;>
    simp [decode, h.parse, hread, bind, Except.bind, pure, Except.pure]

theorem ReadsValues.decode_eq_ok {c : Codec α} (h : c.ReadsValues) {s : String} {a : α} :
    c.decode s = .ok a ↔ ∃ v, IsTextOf s v ∧ c.read (v.document 0) = .ok a := by
  constructor
  · intro hdecode
    obtain ⟨⟨d, ended⟩, hparse⟩ : ∃ r, parse s = r := ⟨_, rfl⟩
    rw [decode, hparse] at hdecode
    obtain ⟨b, hread, hended⟩ := bind_eq_ok.mp hdecode
    cases ended with
    | false => cases hended
    | true =>
      cases hended
      obtain ⟨v, hv⟩ := h d a hread
      have htext := isTextOf_of_parse hparse hv
      have hsame := hparse.symm.trans htext.parse
      cases hsame
      exact ⟨v, htext, hread⟩
  · rintro ⟨v, htext, hread⟩
    rw [decode_of_isTextOf c htext, hread]

end Codec

namespace Fields

def ReadsValues {τ δ : Type} : Fields τ δ → Prop
  | .nil => True
  | .cons f fs => f.codec.ReadsValues ∧ fs.ReadsValues

variable {fs : Fields τ δ}

theorem ReadsValues.store (h : fs.ReadsValues) {key : String} {d : Document} {known known' : δ}
    (hstore : fs.store key d known = some (.ok known')) : ∃ v, d.StandsFor v := by
  induction fs with
  | nil => cases hstore
  | cons f fs ih =>
    obtain ⟨a?, known⟩ := known
    obtain ⟨a?', known'⟩ := known'
    rcases store_cons_eq_ok.mp hstore with ⟨-, -, -, a, hread, -⟩ | ⟨-, -, hrest⟩
    · exact h.1 d a hread
    · exact ih h.2 hrest

theorem gather_refuse_member_eq_ok {key : Literal} {value : Document}
    {rest : Members} {known known' : δ} {others : List (String × Document)} :
    fs.gather .refuse known (.member key value rest) = .ok (known', others) ↔
      ∃ name next, readLiteral key = .ok name ∧ fs.store name value known = some (.ok next) ∧
        fs.gather .refuse next rest = .ok (known', others) := by
  rw [gather_member_eq_ok]
  constructor
  · rintro ⟨name, hname, ⟨next, hstore, hrest⟩ | ⟨-, others', -, hpasses⟩⟩
    · exact ⟨name, next, hname, hstore, hrest⟩
    · cases hpasses
  · rintro ⟨name, next, hname, hstore, hrest⟩
    exact ⟨name, hname, .inl ⟨next, hstore, hrest⟩⟩

theorem ReadsValues.gather (h : fs.ReadsValues) {known known' : δ} {ms : Members}
    {others : List (String × Document)}
    (hgather : fs.gather .refuse known ms = .ok (known', others)) :
    ∃ l, ms.StandFor l := by
  fun_induction fs.gather .refuse known ms with
  | case1 => exact ⟨[], .close⟩
  | case2 => cases hgather
  | case3 => cases hgather
  | case4 known key value rest ihNext ihRest =>
    have hmember : fs.gather .refuse known (.member key value rest) =
      .ok (known', others) := hgather
    obtain ⟨name, next, hname, hstore, hrest⟩ := gather_refuse_member_eq_ok.mp hmember
    obtain ⟨v, hv⟩ := h.store hstore
    obtain ⟨l, hl⟩ := ihNext next hrest
    exact ⟨(name, v) :: l, .member (readLiteral_eq_ok.mp hname) hv hl⟩

/-- The items of an array that are fields are values, and so are all its items if those left over
are. -/
theorem ReadsValues.ofItems (h : fs.ReadsValues) {expected : String} {index : Nat}
    {items rest : Items} {record : τ} {vs : List Value}
    (hitems : fs.ofItems expected index items = .ok (record, rest)) (hrest : rest.StandFor vs) :
    ∃ vs', items.StandFor vs' := by
  induction fs generalizing index items with
  | nil =>
    cases hitems
    exact ⟨vs, hrest⟩
  | cons f fs ih =>
    obtain ⟨a, record⟩ := record
    rcases ofItems_cons_eq_ok.mp hitems with ⟨head, tail, rfl, hread, htail⟩ | ⟨rfl, -, -⟩
    · obtain ⟨v, hv⟩ := h.1 head a hread
      obtain ⟨vs', hvs⟩ := ih h.2 htail
      exact ⟨v :: vs', .item hv hvs⟩
    · exact ⟨[], .close⟩

theorem ReadsValues.readRecord (h : fs.ReadsValues) {title : String} {d : Document} {record : τ}
    (hread : Json.readRecord title .refuse fs d = .ok record) : ∃ v, d.StandsFor v := by
  cases d with
  | array level items =>
    obtain ⟨-, -, hitems⟩ := bind_eq_ok.mp hread
    obtain ⟨⟨record, rest⟩, hfields, hend⟩ := bind_eq_ok.mp hitems
    cases rest with
    | close =>
      obtain ⟨vs, hvs⟩ := h.ofItems hfields .close
      exact ⟨_, .array hvs⟩
    | stop fault => cases hend
    | item head tail => cases hend
  | object level members =>
    obtain ⟨-, -, hmembers⟩ := bind_eq_ok.mp hread
    obtain ⟨⟨known, others⟩, hgather, -⟩ := bind_eq_ok.mp hmembers
    obtain ⟨l, hl⟩ := h.gather hgather
    exact ⟨_, .object hl⟩
  | _ => cases hread

end Fields

theorem Codec.readsValues_record {title : String} {fs : Fields τ δ} {out : α → τ}
    {into : τ → Except ReadError α} (h : fs.ReadsValues) :
    (Codec.record title .refuse fs out into).ReadsValues := by
  intro d a hread
  obtain ⟨record, hrecord, -⟩ := bind_eq_ok.mp hread
  exact h.readRecord hrecord

/-! ### Members that are all fields -/

namespace RecordField

variable {f : RecordField α} {level : Nat} {known : Option α} {ms : List (String × Value)} {a : α}

theorem completes_nil : f.Completes level known [] a ↔ (known <|> f.whenAbsent) = some a := by
  cases known <;> simp [Completes, Holds]

theorem completes_cons_self {v : Value} :
    f.Completes level known ((f.name, v) :: ms) a ↔
      known = none ∧ f.codec.read (v.document level) = .ok a ∧ valuesOf f.name ms = [] := by
  constructor
  · exact Completes.read
  · rintro ⟨rfl, hread, hvalues⟩
    exact holds_of_member (by rw [valuesOf_cons_self, hvalues]) hread

end RecordField

namespace Fields

variable {fs : Fields τ δ} {level : Nat} {ms : List (String × Value)} {state : δ} {record : τ}

theorem finish_eq_ok (level : Nat) : fs.finish state = .ok record ↔
    fs.Completes level [] state record := by
  induction fs with
  | nil => simp [finish, Completes]
  | cons f fs ih => rw [finish_cons_eq_ok, Completes, RecordField.completes_nil, ih]

/-- One of the fields has read the member, and the others complete what is then known. -/
theorem completes_of_store {key : String} {v : Value} {next : δ} (hnames : fs.names.Nodup)
    (hstore : fs.store key (v.document level) state = some (.ok next))
    (h : fs.Completes level ms next record) :
    key ∈ fs.names ∧ fs.Completes level ((key, v) :: ms) state record := by
  induction fs with
  | nil => cases hstore
  | cons f fs ih =>
    obtain ⟨known, state⟩ := state
    obtain ⟨known', next⟩ := next
    obtain ⟨a, record⟩ := record
    obtain ⟨hf, hfs⟩ := h
    obtain ⟨hfresh, hnames⟩ := List.nodup_cons.mp hnames
    rcases store_cons_eq_ok.mp hstore with ⟨rfl, rfl, rfl, b, hread, rfl⟩ | ⟨hne, rfl, hbehind⟩
    · obtain ⟨rfl, hvalues⟩ := hf
      exact ⟨List.mem_cons_self, RecordField.completes_cons_self.mpr ⟨rfl, hread, hvalues⟩,
        (completes_cons_of_notMem v fs hfresh).mpr hfs⟩
    · obtain ⟨hmem, hrest⟩ := ih hnames hbehind hfs
      exact ⟨List.mem_cons_of_mem _ hmem, (RecordField.completes_cons_ne hne v).mpr hf, hrest⟩

/-- Members are gathered without a stranger and make up the record where all of them are fields and
they complete it. -/
theorem gather_refuse_eq_ok (hnames : fs.names.Nodup) :
    (∃ next others, fs.gather .refuse state (Value.documentMembers level ms) = .ok (next, others) ∧
      fs.finish next = .ok record) ↔ (∀ m ∈ ms, m.1 ∈ fs.names) ∧
      fs.Completes level ms state record := by
  induction ms generalizing state with
  | nil => simp [Value.documentMembers, gather, finish_eq_ok level]
  | cons m ms ih =>
    obtain ⟨key, v⟩ := m
    rw [Value.documentMembers, List.forall_mem_cons]
    constructor
    · rintro ⟨next, others, hgather, hfinish⟩
      obtain ⟨name, state', hname, hstore, hrest⟩ := gather_refuse_member_eq_ok.mp hgather
      cases hname
      obtain ⟨hknown, hcompletes⟩ := ih.mp ⟨next, others, hrest, hfinish⟩
      obtain ⟨hkey, hall⟩ := completes_of_store hnames hstore hcompletes
      exact ⟨⟨hkey, hknown⟩, hall⟩
    · rintro ⟨⟨hkey, hknown⟩, hcompletes⟩
      obtain ⟨state', hstore, hrest⟩ := hcompletes.store fs hnames hkey
      obtain ⟨next, others, hgather, hfinish⟩ := ih.mpr ⟨hknown, hrest⟩
      exact ⟨next, others,
        gather_refuse_member_eq_ok.mpr ⟨key, state', rfl, hstore, hgather⟩, hfinish⟩

end Fields

/-- The members of an object that has these keys: each has one of the keys and a value that the key
admits, and no two of them have the same key. -/
structure Fits (keys : List (String × (Value → Prop))) (ms : List (String × Value)) : Prop where
  unrepeated : (ms.map (·.1)).Nodup
  known : ∀ m ∈ ms, ∃ admits, (m.1, admits) ∈ keys ∧ admits m.2

theorem Fits.key_mem {keys : List (String × (Value → Prop))}
    {ms : List (String × Value)} (h : Fits keys ms) {m : String × Value} (hm : m ∈ ms) :
    m.1 ∈ keys.map (·.1) := by
  obtain ⟨admits, hmem, -⟩ := h.known m hm
  exact List.mem_map_of_mem hmem

/-- Where no key is twice among the known ones, what stands behind a key is what the key admits. -/
theorem Fits.admits {keys : List (String × (Value → Prop))}
    {ms : List (String × Value)} (h : Fits keys ms) (hkeys : (keys.map (·.1)).Nodup) {name : String}
    {v : Value} {admits : Value → Prop} (hm : (name, v) ∈ ms) (hkey : (name, admits) ∈ keys) :
    admits v := by
  obtain ⟨admits', hmem, hadmits⟩ := h.known _ hm
  have hsame : (name, admits') = (name, admits) := List.inj_on_of_nodup_map hkeys hmem hkey rfl
  rw [← (Prod.mk.inj hsame).2]
  exact hadmits

theorem mem_valuesOf {name : String} {v : Value} {ms : List (String × Value)} :
    v ∈ valuesOf name ms ↔ (name, v) ∈ ms := by
  simp [valuesOf]

theorem length_valuesOf (name : String) (ms : List (String × Value)) :
    (valuesOf name ms).length = (ms.map (·.1)).count name := by
  rw [valuesOf, List.length_map, ← List.countP_eq_length_filter, List.count, List.countP_map]
  rfl

theorem lookup_eq_head_valuesOf (name : String) (ms : List (String × Value)) :
    ms.lookup name = (valuesOf name ms).head? := by
  induction ms with
  | nil => rfl
  | cons m ms ih =>
    obtain ⟨key, v⟩ := m
    by_cases hkey : key = name
    · subst hkey
      simp
    · have hne : (name == key) = false := by simpa using Ne.symm hkey
      rw [List.lookup_cons, hne, valuesOf_cons_ne hkey, ih]

theorem lookup_of_only {name : String} {v : Value} {ms : List (String × Value)}
    (h : valuesOf name ms = [v]) :
    ms.lookup name = some v := by
  rw [lookup_eq_head_valuesOf, h, List.head?_cons]

theorem lookup_of_absent {name : String} {ms : List (String × Value)} (h : valuesOf name ms = []) :
    ms.lookup name = none := by
  rw [lookup_eq_head_valuesOf, h, List.head?_nil]

/-- Said key by key: no other one is there, and each has at most one value, which it admits. -/
theorem fits_iff {keys : List (String × (Value → Prop))} {ms : List (String × Value)}
    (hkeys : (keys.map (·.1)).Nodup) : Fits keys ms ↔ (∀ m ∈ ms, m.1 ∈ keys.map (·.1)) ∧
      ∀ key ∈ keys, (valuesOf key.1 ms).length ≤ 1 ∧ ∀ v ∈ valuesOf key.1 ms, key.2 v := by
  constructor
  · intro h
    refine ⟨fun m hm => h.key_mem hm, fun key hkey => ⟨?_, fun v hv => ?_⟩⟩
    · rw [length_valuesOf]
      exact List.nodup_iff_count_le_one.mp h.unrepeated key.1
    · exact h.admits hkeys (mem_valuesOf.mp hv) hkey
  · rintro ⟨hnames, hvalues⟩
    refine ⟨List.nodup_iff_count_le_one.mpr fun name => ?_, fun m hm => ?_⟩
    · by_cases hname : name ∈ keys.map (·.1)
      · obtain ⟨key, hkey, rfl⟩ := List.mem_map.mp hname
        rw [← length_valuesOf]
        exact (hvalues key hkey).1
      · have hnone : name ∉ ms.map (·.1) := by
          rintro hmem
          obtain ⟨m, hm, rfl⟩ := List.mem_map.mp hmem
          exact hname (hnames m hm)
        rw [List.count_eq_zero_of_not_mem hnone]
        exact Nat.zero_le 1
    · obtain ⟨key, hkey, hsame⟩ := List.mem_map.mp (hnames m hm)
      refine ⟨key.2, hsame ▸ hkey, (hvalues key hkey).2 m.2 (mem_valuesOf.mpr ?_)⟩
      rw [hsame]
      exact hm

/-- With these members the field is `a`: the value of an only member is read as `a` if the field
admits it and not at all otherwise, and without a member the field counts as `a`. -/
structure RecordField.Determines (f : RecordField α) (level : Nat) (ms : List (String × Value))
    (admits : Value → Prop) (a : α) : Prop where
  present {v : Value} (h : valuesOf f.name ms = [v]) (b : α) :
    f.codec.read (v.document level) = .ok b ↔ admits v ∧ b = a
  absent (h : valuesOf f.name ms = []) : f.whenAbsent = some a

theorem RecordField.Determines.holds_iff {f : RecordField α} {level : Nat}
    {ms : List (String × Value)} {admits : Value → Prop} {a : α}
    (h : f.Determines level ms admits a) (b : α) :
    f.Holds level ms b ↔
      ((valuesOf f.name ms).length ≤ 1 ∧ ∀ v ∈ valuesOf f.name ms, admits v) ∧ b = a := by
  unfold Holds
  split
  · rename_i hvalues
    simp [hvalues, h.absent hvalues, eq_comm]
  · rename_i v hvalues
    simp [hvalues, h.present hvalues]
  · rename_i hnone hone
    refine iff_of_false id fun hall => ?_
    have hlength := hall.1.1
    cases hvalues : valuesOf f.name ms with
    | nil => exact hnone hvalues
    | cons v vs =>
      cases vs with
      | nil => exact hone v hvalues
      | cons w vs => simp [hvalues] at hlength

namespace Fields

/-- Field by field: the keys, what they admit, and the record that the members determine. -/
inductive Determines (level : Nat) (ms : List (String × Value)) :
    {τ δ : Type} → Fields τ δ → List (String × (Value → Prop)) → τ → Prop
  | nil : Determines level ms .nil [] ()
  | cons {α τ δ : Type} {f : RecordField α} {fs : Fields τ δ} {admits : Value → Prop} {a : α}
      {keys : List (String × (Value → Prop))} {record : τ} (hf : f.Determines level ms admits a)
      (hfs : Determines level ms fs keys record) :
      Determines level ms (.cons f fs) ((f.name, admits) :: keys) (a, record)

variable {fs : Fields τ δ} {level : Nat} {ms : List (String × Value)}
  {keys : List (String × (Value → Prop))} {record : τ}

theorem Determines.names (h : fs.Determines level ms keys record) : fs.names = keys.map (·.1) := by
  induction h with
  | nil => rfl
  | cons _ _ ih => rw [Fields.names, ih, List.map_cons]

theorem Determines.completes_iff (h : fs.Determines level ms keys record) (r : τ) :
    fs.Completes level ms fs.blank r ↔
      (∀ key ∈ keys, (valuesOf key.1 ms).length ≤ 1 ∧ ∀ v ∈ valuesOf key.1 ms, key.2 v) ∧
      r = record := by
  induction h with
  | nil => simp [Completes]
  | @cons _ _ _ f fs admits a keys record hf _ ih =>
    obtain ⟨b, r⟩ := r
    have hhead : f.Completes level none ms b ↔ _ := hf.holds_iff b
    rw [blank, Completes, hhead, ih, List.forall_mem_cons, Prod.mk.injEq]
    exact and_and_and_comm

/-- A record that refuses strangers is read from exactly the objects whose members fit its keys. -/
theorem Determines.readRecord (h : fs.Determines level ms keys record)
    {title : String} {depth : Nat} (hdepth : depth ≤ readableLevels)
    (hnames : fs.names.Nodup) (r : τ) :
    Json.readRecord title .refuse fs (.object depth (Value.documentMembers level ms)) = .ok r ↔
      Fits keys ms ∧ r = record := by
  have hgather : (∃ next others, fs.gather .refuse fs.blank (Value.documentMembers level ms) =
        .ok (next, others) ∧ fs.finish next = .ok r) ↔
      (∀ m ∈ ms, m.1 ∈ fs.names) ∧ fs.Completes level ms fs.blank r := gather_refuse_eq_ok hnames
  rw [h.completes_iff, h.names, ← and_assoc, ← fits_iff (h.names ▸ hnames)] at hgather
  rw [← hgather]
  simp [Json.readRecord, checkLevel_of_le hdepth, bind_eq_ok]

end Fields

namespace Codec

variable {title : String} {fs : Fields τ δ} {out : α → τ} {into : τ → Except ReadError α}

theorem read_object_eq_ok {level : Nat} {ms : List (String × Value)}
    {keys : List (String × (Value → Prop))} {record : τ}
    (h : fs.Determines (level + 1) ms keys record) (hlevel : level < readableLevels)
    (hnames : fs.names.Nodup) (a : α) :
    (Codec.record title .refuse fs out into).read ((Value.object ms).document level) = .ok a ↔
      Fits keys ms ∧ into record = .ok a := by
  simp [Codec.record, Value.document, bind_eq_ok,
    h.readRecord (Nat.succ_le_of_lt hlevel) hnames, and_assoc]

theorem array_or_object_of_read {level : Nat} {v : Value} {a : α}
    (h : (Codec.record title .refuse fs out into).read (v.document level) = .ok a) :
    (∃ items, v = .array items) ∨ ∃ ms, v = .object ms := by
  cases v with
  | array items => exact .inl ⟨items, rfl⟩
  | object ms => exact .inr ⟨ms, rfl⟩
  | _ => cases h

end Codec
end Json
end PullDecoration
