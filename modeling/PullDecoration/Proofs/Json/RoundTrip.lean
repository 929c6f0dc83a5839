import PullDecoration.Identifier
import PullDecoration.Json.Tagged
import PullDecoration.Proofs.Json.Indented
import PullDecoration.Proofs.Json.Reading
import Mathlib.Data.List.Nodup

/-! Codecs that read back what they write. The law is stated for one value at one depth, since
readers refuse what is nested too deeply; each way of making codecs from others carries it over.
Tagged alternatives also demand that what stands beside the tag is plain JSON, for it is read
twice. -/
namespace PullDecoration
namespace Json

variable {α β τ δ : Type} {level : Nat}

/-- A value that no reader refuses as plain JSON inside `level` arrays and objects: numbers have 64
bits, the nesting stays within the bound, and no object has two members of one name. -/
inductive Value.Plain : Nat → Value → Prop
  | null {level : Nat} : Plain level .null
  | bool {level : Nat} (b : Bool) : Plain level (.bool b)
  | number {level n : Nat} (h : n < UInt64.size) : Plain level (.number n)
  | string {level : Nat} (s : String) : Plain level (.string s)
  | array {level : Nat} {vs : List Value} (hlevel : level < readableLevels)
      (h : ∀ v ∈ vs, Plain (level + 1) v) : Plain level (.array vs)
  | object {level : Nat} {ms : List (String × Value)} (hlevel : level < readableLevels)
      (hnames : (ms.map Prod.fst).Nodup) (h : ∀ m ∈ ms, Plain (level + 1) m.2) :
      Plain level (.object ms)

theorem check_documentItems {vs : List Value} (h : ∀ v ∈ vs, (v.document level).check = .ok ()) :
    (Value.documentItems level vs).check = .ok () := by
  induction vs with
  | nil => rfl
  | cons v vs ih =>
    have hhead := h v List.mem_cons_self
    have htail := ih fun w hw => h w (List.mem_cons_of_mem _ hw)
    simp [Value.documentItems, Items.check, hhead, htail, bind, Except.bind]

theorem check_documentMembers {ms : List (String × Value)}
    (h : ∀ m ∈ ms, (m.2.document level).check = .ok ()) :
    (Value.documentMembers level ms).check = .ok () := by
  induction ms with
  | nil => rfl
  | cons m ms ih =>
    have hhead := h m List.mem_cons_self
    have htail := ih fun w hw => h w (List.mem_cons_of_mem _ hw)
    simp [Value.documentMembers, Members.check, readLiteral, Literal.ofString, hhead, htail, bind,
      Except.bind]

theorem Value.Plain.check {v : Value} (h : v.Plain level) : (v.document level).check = .ok () := by
  induction h with
  | null => rfl
  | bool b => rfl
  | number hn => simp [document, Document.check, number_ofNat hn]
  | string s => rfl
  | array hlevel _ ih =>
    simp [document, Document.check, checkLevel_of_le hlevel,
      check_documentItems ih, bind, Except.bind]
  | object hlevel _ _ ih =>
    simp [document, Document.check, checkLevel_of_le hlevel,
      check_documentMembers ih, bind, Except.bind]

/-- The codec writes plain JSON for `a` and reads `a` back from it. -/
structure Codec.Keeps (c : Codec α) (level : Nat) (a : α) : Prop where
  plain : (c.write a).Plain level
  read : c.read ((c.write a).document level) = .ok a

namespace Codec

theorem Keeps.decode {c : Codec α} {a : α} {s : String} (h : c.Keeps 0 a)
    (hs : IsTextOf s (c.write a)) : c.decode s = .ok a := by
  simp [Codec.decode, hs.parse, h.read, bind, Except.bind, pure, Except.pure]

theorem keeps_bool (b : Bool) : bool.Keeps level b := ⟨.bool b, rfl⟩

theorem keeps_string (s : String) : string.Keeps level s := ⟨.string s, rfl⟩

theorem readNatural_number {bound n : Nat} (level : Nat) (kind : String) (h : n < bound)
    (hbound : bound ≤ UInt64.size) :
    readNatural bound kind ((Value.number n).document level) = .ok n := by
  have hsize : n < UInt64.size := Nat.lt_of_lt_of_le h hbound
  simp [Value.document, readNatural, number_ofNat hsize, h]

theorem keeps_natural {bound n : Nat} (kind : String) (h : n < bound)
    (hbound : bound ≤ UInt64.size) :
    (natural bound kind).Keeps level n :=
  ⟨.number (Nat.lt_of_lt_of_le h hbound), readNatural_number level kind h hbound⟩

theorem keeps_u16 (n : UInt16) : u16.Keeps level n := by
  have hn : n.toNat < UInt16.size := n.toNat_lt_size
  refine ⟨.number (Nat.lt_of_lt_of_le hn (by decide)), ?_⟩
  simp [u16, readNatural_number level _ hn (by decide), Except.map]

theorem keeps_u32 (n : UInt32) : u32.Keeps level n := by
  have hn : n.toNat < UInt32.size := n.toNat_lt_size
  refine ⟨.number (Nat.lt_of_lt_of_le hn (by decide)), ?_⟩
  simp [u32, readNatural_number level _ hn (by decide), Except.map]

theorem keeps_option {c : Codec α} {a? : Option α} (hnull : ∀ a, c.write a ≠ .null)
    (h : ∀ a ∈ a?, c.Keeps level a) : c.option.Keeps level a? := by
  cases a? with
  | none => exact ⟨.null, rfl⟩
  | some a =>
    have ha := h a rfl
    refine ⟨ha.plain, ?_⟩
    have hother : (c.write a).document level ≠ .null := by
      cases hwrite : c.write a with
      | null => exact absurd hwrite (hnull a)
      | _ => simp [Value.document]
    -- no null, so that the second case of the reader applies
    simp [option, readOption, ha.read, bind, Except.bind, pure, Except.pure]

theorem keeps_list {c : Codec α} {as : List α} (hlevel : level < readableLevels)
    (h : ∀ a ∈ as, c.Keeps (level + 1) a) : c.list.Keeps level as := by
  refine ⟨.array hlevel (List.forall_mem_map.mpr fun a ha => (h a ha).plain), ?_⟩
  refine readList_array hlevel ?_
  rw [List.forall₂_map_left_iff]
  exact List.forall₂_same.mpr fun a ha => (h a ha).read

theorem keeps_refine {c : Codec β} {out : α → β} {into : β → Except String α} {a : α}
    (h : c.Keeps level (out a)) (hinto : into (out a) = .ok a) :
    (refine c out into).Keeps level a := by
  refine ⟨h.plain, ?_⟩
  simp [refine, h.read, hinto, mapError_ok, bind, Except.bind]

end Codec

/-- The field is left out where it counts as `a` without a member, or its codec keeps `a`. -/
def RecordField.Keeps (f : RecordField α) (level : Nat) (a : α) : Prop :=
  if f.isOmitted a then f.whenAbsent = some a else f.codec.Keeps level a

namespace RecordField

variable {name : String} {codec : Codec α} {a : α}

theorem keeps_required (h : codec.Keeps level a) : (required name codec).Keeps level a := h

theorem keeps_nullable {a? : Option α} (h : codec.option.Keeps level a?) :
    (nullable name codec).Keeps level a? := h

theorem keeps_optional {a? : Option α} (h : codec.option.Keeps level a?) :
    (optional name codec).Keeps level a? := by
  cases a? with
  | none => rfl
  | some a => exact h

theorem keeps_optionalList {as : List α} (h : codec.list.Keeps level as) :
    (optionalList name codec).Keeps level as := by
  cases as with
  | nil => rfl
  | cons a as => exact h

end RecordField

theorem valuesOf_append (name : String) (ms ms' : List (String × Value)) :
    valuesOf name (ms ++ ms') = valuesOf name ms ++ valuesOf name ms' := by
  simp [valuesOf]

theorem valuesOf_of_notMem {name : String} {ms : List (String × Value)}
    (h : name ∉ ms.map Prod.fst) :
    valuesOf name ms = [] := by
  rw [valuesOf, List.map_eq_nil_iff, List.filter_eq_nil_iff]
  intro m hm hname
  exact h (List.mem_map.mpr ⟨m, hm, of_decide_eq_true hname⟩)

namespace Fields

/-- Every field keeps its value. -/
def Keeps {τ δ : Type} (level : Nat) : Fields τ δ → τ → Prop
  | .nil, _ => True
  | .cons f fs, (a, record) => f.Keeps level a ∧ fs.Keeps level record

theorem names_write_sublist (fs : Fields τ δ) (record : τ) :
    ((fs.write record).map Prod.fst).Sublist fs.names := by
  induction fs with
  | nil => exact .refl _
  | cons f fs ih =>
    obtain ⟨a, record⟩ := record
    rw [write]
    split
    · exact (ih record).cons _
    · exact (ih record).cons_cons _

theorem Keeps.plain {fs : Fields τ δ} {record : τ} (h : fs.Keeps level record) :
    ∀ m ∈ fs.write record, m.2.Plain level := by
  induction fs with
  | nil => exact List.forall_mem_nil _
  | cons f fs ih =>
    obtain ⟨a, record⟩ := record
    obtain ⟨hhead, htail⟩ := h
    rw [write]
    rw [RecordField.Keeps] at hhead
    split
    · exact ih htail
    · rename_i homitted
      rw [if_neg homitted] at hhead
      exact List.forall_mem_cons.mpr ⟨hhead.plain, ih htail⟩

theorem completes_congr {fs : Fields τ δ} {ms ms' : List (String × Value)} {state : δ} {record : τ}
    (h : ∀ name ∈ fs.names, valuesOf name ms = valuesOf name ms') :
    fs.Completes level ms state record ↔ fs.Completes level ms' state record := by
  induction fs with
  | nil => exact Iff.rfl
  | cons f fs ih =>
    obtain ⟨hhead, htail⟩ := List.forall_mem_cons.mp h
    simp only [Completes, RecordField.Completes, RecordField.Holds, hhead, ih htail]

theorem Keeps.completes {fs : Fields τ δ} {record : τ} (hnames : fs.names.Nodup)
    (h : fs.Keeps level record) : fs.Completes level (fs.write record) fs.blank record := by
  induction fs with
  | nil => trivial
  | cons f fs ih =>
    obtain ⟨a, record⟩ := record
    obtain ⟨hhead, htail⟩ := h
    obtain ⟨hfresh, hnames⟩ := List.nodup_cons.mp hnames
    have hothers : valuesOf f.name (fs.write record) = [] :=
      valuesOf_of_notMem fun hmem => hfresh ((fs.names_write_sublist record).subset hmem)
    have hcompletes := ih hnames htail
    rw [RecordField.Keeps] at hhead
    rw [write]
    split
    · rename_i homitted
      rw [if_pos homitted] at hhead
      exact ⟨RecordField.holds_of_absent hothers hhead, hcompletes⟩
    · rename_i homitted
      rw [if_neg homitted] at hhead
      refine ⟨RecordField.holds_of_member ?_ hhead.read, ?_⟩
      · rw [valuesOf_cons_self, hothers]
      · exact (completes_cons_of_notMem _ fs hfresh).mpr hcompletes

def strangers (fs : Fields τ δ) (ms : List (String × Value)) : List (String × Value) :=
  ms.filter fun m => m.1 ∉ fs.names

theorem Completes.gather_keep {fs : Fields τ δ} {ms : List (String × Value)}
    {state : δ} {record : τ} (hnames : fs.names.Nodup)
    (hplain : ∀ m ∈ fs.strangers ms, m.2.Plain level) (h : fs.Completes level ms state record) :
    ∃ state', fs.gather .keep state (Value.documentMembers level ms) =
        .ok (state', (fs.strangers ms).map fun m => (m.1, m.2.document level)) ∧
      fs.finish state' = .ok record := by
  induction ms generalizing state with
  | nil => exact ⟨state, rfl, h.finish⟩
  | cons m ms ih =>
    obtain ⟨key, v⟩ := m
    by_cases hkey : key ∈ fs.names
    · have hstrangers : fs.strangers ((key, v) :: ms) = fs.strangers ms := by simp [strangers, hkey]
      rw [hstrangers] at hplain ⊢
      obtain ⟨next, hstore, hcompletes⟩ := h.store fs hnames hkey
      obtain ⟨state', hgather, hfinish⟩ := ih hplain hcompletes
      refine ⟨state', ?_, hfinish⟩
      rw [Value.documentMembers, Fields.gather]
      simp [readLiteral, Literal.ofString, hstore, hgather, bind, Except.bind]
    · have hstrangers : fs.strangers ((key, v) :: ms) = (key, v) :: fs.strangers ms := by
        simp [strangers, hkey]
      rw [hstrangers] at hplain ⊢
      obtain ⟨hhead, htail⟩ := List.forall_mem_cons.mp hplain
      obtain ⟨state', hgather, hfinish⟩ := ih htail ((completes_cons_of_notMem v fs hkey).mp h)
      refine ⟨state', ?_, hfinish⟩
      rw [Value.documentMembers, Fields.gather]
      simp [readLiteral, Literal.ofString, fs.store_of_notMem _ state hkey,
        hhead.check, hgather, bind, Except.bind, pure, Except.pure]

end Fields

theorem Codec.keeps_record {title : String} {fs : Fields τ δ} {out : α → τ}
    {into : τ → Except ReadError α} {a : α} (hlevel : level < readableLevels)
    (hnames : fs.names.Nodup) (h : fs.Keeps (level + 1) (out a)) (hinto : into (out a) = .ok a) :
    (Codec.record title .skip fs out into).Keeps level a where
  plain := .object hlevel (hnames.sublist (fs.names_write_sublist _)) h.plain
  read := (Codec.record_read (out a) hlevel hnames (h.completes hnames)).trans hinto

/-- An alternative with fields that is written as an object with its name for the only member. -/
theorem Codec.keeps_variant {variants : List (Variant α)} {write : α → Value} {name title : String}
    {fs : Fields τ δ} {into : τ → α} {a : α} (record : τ) (hlevel : level + 1 < readableLevels)
    (hfind : findVariant variants name = .ok (.record name title fs into)) (hnames : fs.names.Nodup)
    (h : fs.Keeps (level + 2) record) (hinto : into record = a)
    (hwrite : write a = .object [(name, .object (fs.write record))]) :
    (Codec.mk write (readVariant variants)).Keeps level a where
  plain := by
    have hpayload : (Value.object (fs.write record)).Plain (level + 1) :=
      .object hlevel (hnames.sublist (fs.names_write_sublist record)) h.plain
    simp only [hwrite]
    exact .object (Nat.lt_of_succ_lt hlevel) (by simp) (List.forall_mem_singleton.mpr hpayload)
  read := by
    have houter : level + 1 ≤ readableLevels := Nat.le_of_lt hlevel
    have hinner := (h.completes hnames).readRecord title (Nat.succ_le_of_lt hlevel) hnames
    simp only [hwrite]
    simp [readVariant, Value.document, Value.documentMembers, readLiteral, Literal.ofString,
      checkLevel_of_le houter, hfind, Variant.record, hinner, hinto, readOnly, bind,
      Except.bind, pure, Except.pure]

section Tagged

variable {tag : String} {alternatives : List (Alternative α)} {ms : List (String × Value)} {a : α}

/-- Members that stand for `a` among tagged alternatives: the tag, and beside it plain members that
the alternative of this name reads as `a`. -/
inductive IsTagged (tag : String) (alternatives : List (Alternative α)) (level : Nat) :
    List (String × Value) → α → Prop
  | intro {name : String} {alternative : Alternative α} {ms : List (String × Value)} {a : α}
      (hfind : findAlternative alternatives name = .ok alternative)
      (hnames : (tag :: ms.map Prod.fst).Nodup) (hplain : ∀ m ∈ ms, m.2.Plain level)
      (hpayload : alternative.payload (.object 0 (Value.documentMembers level ms)) = .ok a) :
      IsTagged tag alternatives level ((tag, .string name) :: ms) a

theorem isTagged_unit {name : String}
    (hfind : findAlternative alternatives name = .ok (.unit name a)) :
    IsTagged tag alternatives level [(tag, .string name)] a :=
  .intro hfind (by simp) (List.forall_mem_nil _) rfl

theorem isTagged_record {name title : String} {fs : Fields τ δ} {into : τ → α} (record : τ)
    (hfind : findAlternative alternatives name = .ok (.record name title fs into))
    (hnames : (tag :: fs.names).Nodup) (h : fs.Keeps level record) :
    IsTagged tag alternatives level ((tag, .string name) :: fs.write record) (into record) := by
  have hfields : fs.names.Nodup := (List.nodup_cons.mp hnames).2
  have hread := (h.completes hfields).readRecord title (Nat.zero_le _) hfields
  refine .intro hfind (hnames.sublist ((fs.names_write_sublist record).cons_cons tag)) h.plain ?_
  simp [Alternative.record, hread, bind, Except.bind, pure, Except.pure]

theorem IsTagged.nodup (h : IsTagged tag alternatives level ms a) : (ms.map Prod.fst).Nodup := by
  cases h with
  | intro hfind hnames hplain hpayload => exact hnames

theorem IsTagged.plain (h : IsTagged tag alternatives level ms a) : ∀ m ∈ ms, m.2.Plain level := by
  cases h with
  | intro hfind hnames hplain hpayload => exact List.forall_mem_cons.mpr ⟨.string _, hplain⟩

theorem splitTag_rest (read : Document → Except ReadError β) (b : β) (htag : tag ∉ ms.map Prod.fst)
    (hplain : ∀ m ∈ ms, m.2.Plain level) :
    splitTag tag read (some b) (Value.documentMembers level ms) =
      .ok (some b, ms.map fun m => (m.1, m.2.document level)) := by
  induction ms with
  | nil => rfl
  | cons m ms ih =>
    obtain ⟨key, v⟩ := m
    simp only [List.map_cons, List.mem_cons, not_or] at htag
    obtain ⟨hhead, htail⟩ := List.forall_mem_cons.mp hplain
    rw [Value.documentMembers, splitTag]
    simp [readLiteral, Literal.ofString, Ne.symm htag.1, hhead.check,
      ih htag.2 htail, bind, Except.bind, pure, Except.pure]

theorem ofList_document (ms : List (String × Value)) :
    Members.ofList (ms.map fun m => (m.1, m.2.document level)) =
      Value.documentMembers level ms := by
  induction ms with
  | nil => rfl
  | cons m ms ih => simp [Members.ofList, Value.documentMembers, ih]

theorem IsTagged.readTaggedMembers (read : Document → Except ReadError (Alternative α))
    (hread : ∀ name, read (.string (.ofString name)) = findAlternative alternatives name)
    (h : IsTagged tag alternatives level ms a) :
    Json.readTaggedMembers tag read (Value.documentMembers level ms) = .ok a := by
  cases h with
  | @intro name alternative ms a hfind hnames hplain hpayload =>
    have hrest := splitTag_rest read alternative (List.nodup_cons.mp hnames).1 hplain
    rw [Value.documentMembers, Value.document, Json.readTaggedMembers, splitTag]
    simp only [readLiteral, Literal.ofString, bind, Except.bind, if_true]
    rw [← Literal.ofString, hread, hfind]
    simp [hrest, ofList_document, hpayload]

theorem keeps_tagged {name : String} {members : α → List (String × Value)}
    (hlevel : level < readableLevels) (h : IsTagged tag alternatives (level + 1) (members a) a) :
    (Codec.mk (fun a => .object (members a)) (readTagged tag name alternatives)).Keeps level a where
  plain := .object hlevel h.nodup h.plain
  read := by
    have hread := h.readTaggedMembers (readTag alternatives) fun _ => rfl
    simp [readTagged, Value.document, checkLevel_of_le hlevel, hread, bind, Except.bind]

section Among

variable {fs : Fields τ δ} {record : τ} {before after : List (String × Value)}

/-- The members of an alternative among those of a record, with no name in common. -/
theorem strangers_among (hwrite : before ++ after = fs.write record)
    (hnames : (ms.map Prod.fst ++ fs.names).Nodup) : fs.strangers (before ++ ms ++ after) = ms := by
  have hfields : ∀ m ∈ before ++ after, m.1 ∈ fs.names := fun m hm =>
    (fs.names_write_sublist record).subset (List.mem_map_of_mem (hwrite ▸ hm))
  have hothers : ∀ m ∈ ms, m.1 ∉ fs.names := fun m hm =>
    (List.nodup_append'.mp hnames).2.2 (List.mem_map_of_mem hm)
  have hbefore : fs.strangers before = [] := by
    simpa [Fields.strangers, List.filter_eq_nil_iff] using fun m v hm =>
      hfields (m, v) (List.mem_append_left _ hm)
  have hafter : fs.strangers after = [] := by
    simpa [Fields.strangers, List.filter_eq_nil_iff] using fun m v hm =>
      hfields (m, v) (List.mem_append_right _ hm)
  have hmiddle : fs.strangers ms = ms :=
    List.filter_eq_self.mpr fun m hm => decide_eq_true (hothers m hm)
  simp only [Fields.strangers, List.filter_append] at hbefore hafter hmiddle ⊢
  rw [hbefore, hmiddle, hafter, List.nil_append, List.append_nil]

theorem completes_among (hwrite : before ++ after = fs.write record)
    (hkeeps : fs.Keeps level record) (hnames : (ms.map Prod.fst ++ fs.names).Nodup) :
    fs.Completes level (before ++ ms ++ after) fs.blank record := by
  obtain ⟨-, hfields, hdisjoint⟩ := List.nodup_append'.mp hnames
  refine (Fields.completes_congr fun name hname => ?_).mpr (hkeeps.completes hfields)
  have hothers : valuesOf name ms = [] := valuesOf_of_notMem fun hmem => hdisjoint hmem hname
  rw [← hwrite, valuesOf_append, valuesOf_append, valuesOf_append, hothers, List.append_nil]

theorem IsTagged.plain_among (hlevel : level < readableLevels)
    (h : IsTagged tag alternatives (level + 1) ms a) (hwrite : before ++ after = fs.write record)
    (hkeeps : fs.Keeps (level + 1) record) (hnames : (ms.map Prod.fst ++ fs.names).Nodup) :
    (Value.object (before ++ ms ++ after)).Plain level := by
  have hfields : ∀ m ∈ before ++ after, m.2.Plain (level + 1) := hwrite ▸ hkeeps.plain
  obtain ⟨hbefore, hafter⟩ := List.forall_mem_append.mp hfields
  refine .object hlevel ?_ ?_
  · have hsublist : (ms.map Prod.fst ++ (before ++ after).map Prod.fst).Sublist
        (ms.map Prod.fst ++ fs.names) := by
      rw [hwrite]
      exact (fs.names_write_sublist record).append_left _
    have hperm : (before ++ ms ++ after).Perm (ms ++ (before ++ after)) := by
      rw [← List.append_assoc]
      exact List.perm_append_comm.append_right after
    rw [(hperm.map Prod.fst).nodup_iff, List.map_append]
    exact hnames.sublist hsublist
  · exact List.forall_mem_append.mpr ⟨List.forall_mem_append.mpr ⟨hbefore, h.plain⟩, hafter⟩

/-- A record and an alternative whose members stand in one object are both read back from it. -/
theorem IsTagged.read_among (title : String) (hlevel : level < readableLevels)
    (h : IsTagged tag alternatives (level + 1) ms a) (hwrite : before ++ after = fs.write record)
    (hkeeps : fs.Keeps (level + 1) record) (hnames : (ms.map Prod.fst ++ fs.names).Nodup) :
    readWithTagged title fs tag alternatives
      ((Value.object (before ++ ms ++ after)).document level) =
      .ok (record, a) := by
  have hstrangers := strangers_among hwrite hnames
  have hplain : ∀ m ∈ fs.strangers (before ++ ms ++ after), m.2.Plain (level + 1) :=
    hstrangers.symm ▸ h.plain
  have hfields : fs.names.Nodup := (List.nodup_append'.mp hnames).2.1
  have hread := h.readTaggedMembers (readKeptTag alternatives) fun _ => rfl
  obtain ⟨state, hgather, hfinish⟩ :=
    (completes_among hwrite hkeeps hnames).gather_keep hfields hplain
  rw [hstrangers] at hgather
  simp only [readWithTagged, Value.document, checkLevel_of_le hlevel, hgather,
    hfinish, ofList_document, hread, bind, Except.bind, pure, Except.pure]

end Among

end Tagged

end Json

theorem Identifier.keeps {kind : IdentifierKind} {level : Nat} (id : Identifier kind) :
    Identifier.codec.Keeps level id :=
  Json.Codec.keeps_refine (Json.Codec.keeps_string id.text) id.ofString_text

end PullDecoration
