import PullDecoration.Cloud.Comment
import PullDecoration.Cloud.Page
import PullDecoration.Proofs.Json.Layout
import PullDecoration.Proofs.Json.Reading

/-! Pages of comments as the service sends them: which JSON values stand for an entry and for a
page, and that every text of such a value is read as the page; and that no text is of which one
entry has a malformed id. -/
namespace PullDecoration
namespace Cloud

open Json

/-- The members of an entry hold this body: none where the content, or the text in it, is left out
or null. -/
inductive Entry.HasBody (ms : List (String × Value)) : Option String → Prop
  | noContent (h : valuesOf "content" ms = []) : HasBody ms none
  | nullContent (h : valuesOf "content" ms = [.null]) : HasBody ms none
  | noText {inner : List (String × Value)} (h : valuesOf "content" ms = [.object inner])
      (hraw : valuesOf "raw" inner = []) : HasBody ms none
  | nullText {inner : List (String × Value)} (h : valuesOf "content" ms = [.object inner])
      (hraw : valuesOf "raw" inner = [.null]) : HasBody ms none
  | text {inner : List (String × Value)} {body : String}
      (h : valuesOf "content" ms = [.object inner]) (hraw : valuesOf "raw" inner = [.string body]) :
      HasBody ms (some body)

/-- An entry on the wire: an object with an id, which is a number of 64 bits or a text, maybe a
body, and maybe a mark that it is deleted. Other members may stand beside these. -/
inductive Entry.Represented : Value → Entry → Prop
  | object {ms : List (String × Value)} {e : Entry}
      (hid : valuesOf "id" ms = [EntryId.codec.write e.id])
      (hsize : ∀ n, e.id = .number n → n < UInt64.size) (hbody : HasBody ms e.body)
      (hdeleted : valuesOf "deleted" ms = [.bool e.deleted] ∨
        (valuesOf "deleted" ms = [] ∧ e.deleted = false)) : Represented (.object ms) e

/-- A page on the wire: an object with a list of entries, and maybe a link to the next page. -/
inductive Page.Represented : Value → Page Entry → Prop
  | object {ms : List (String × Value)} {p : Page Entry}
      (hvalues : (∃ vs, valuesOf "values" ms = [.array vs] ∧
          List.Forall₂ Entry.Represented vs p.values) ∨ (valuesOf "values" ms = [] ∧ p.values = []))
      (hnext : (∃ link, valuesOf "next" ms = [.string link] ∧ p.next = some link) ∨
        (valuesOf "next" ms = [.null] ∨ valuesOf "next" ms = []) ∧ p.next = none) :
      Represented (.object ms) p

theorem EntryId.read_write {id : EntryId} (hsize : ∀ n, id = .number n → n < UInt64.size)
    (level : Nat) : EntryId.read ((EntryId.codec.write id).document level) = .ok id := by
  cases id with
  | number n =>
    have hn := hsize n rfl
    simp [codec, Value.document, EntryId.read, Document.check, number_ofNat hn,
      hn, bind, Except.bind, pure, Except.pure]
  | text s => rfl

structure EntryId.IsMalformed (v : Value) : Prop where
  number : ∀ n, v = .number n → UInt64.size ≤ n
  text : ∀ s, v ≠ .string s

theorem EntryId.isMalformed_bool (b : Bool) : IsMalformed (.bool b) where
  number n h := by cases h
  text s h := by cases h

theorem EntryId.IsMalformed.read {v : Value} (h : IsMalformed v) (level : Nat) (id : EntryId) :
    EntryId.codec.read (v.document level) ≠ .ok id := by
  intro hread
  obtain ⟨-, -, hread⟩ := bind_eq_ok.mp hread
  cases v with
  | number n =>
    simp only [Value.document] at hread
    split at hread
    · rename_i k hk
      have hsize := h.number n rfl
      rw [← natural_of_number_ofNat hk] at hsize
      rw [if_neg (Nat.not_lt.mpr hsize)] at hread
      cases hread
    · cases hread
  | string s => exact h.text s rfl
  | null | bool | array | object => cases hread

theorem Entry.represented_write {e : Entry} (hsize : ∀ n, e.id = .number n → n < UInt64.size) :
    Represented (Entry.codec.write e) e := by
  obtain ⟨id, body, deleted⟩ := e
  cases body with
  | none => exact .object rfl hsize (.noContent rfl) (.inl rfl)
  | some body => exact .object rfl hsize (.text rfl rfl) (.inl rfl)

theorem Page.represented_write {p : Page Entry}
    (hsize : ∀ e ∈ p.values, ∀ n, e.id = .number n → n < UInt64.size) :
    Represented ((codec Entry.codec).write p) p := by
  obtain ⟨values, next⟩ := p
  have hvalues : List.Forall₂ Entry.Represented (values.map Entry.codec.write) values := by
    simpa [List.forall₂_map_left_iff, List.forall₂_same] using
      fun e he => Entry.represented_write (hsize e he)
  cases next with
  | none => exact .object (.inl ⟨_, rfl, hvalues⟩) (.inr ⟨.inr rfl, rfl⟩)
  | some link => exact .object (.inl ⟨_, rfl, hvalues⟩) (.inl ⟨link, rfl, rfl⟩)

theorem readOption_string (body : String) (level : Nat) :
    Codec.string.option.read ((Value.string body).document level) = .ok (some body) := rfl

namespace Entry

theorem contentCodec_read {inner : List (String × Value)} {raw : Option String} {level : Nat}
    (hlevel : level < readableLevels)
    (hraw : (RecordField.nullable "raw" Codec.string).Holds (level + 1) inner raw) :
    contentCodec.read ((Value.object inner).document level) = .ok raw :=
  Codec.record_read (raw, ()) hlevel (by decide) ⟨hraw, trivial⟩

/-- What is read as the content of an entry: none where it is left out, and none inside where its
text is. -/
theorem HasBody.content {ms : List (String × Value)} {body : Option String} (h : HasBody ms body)
    {level : Nat} (hlevel : level < readableLevels) :
    ∃ content, content.join = body ∧
      (RecordField.optional "content" contentCodec).Holds level ms content := by
  have hinner {inner : List (String × Value)} {raw : Option String}
      (hmember : valuesOf "content" ms = [.object inner])
      (hraw : (RecordField.nullable "raw" Codec.string).Holds (level + 1) inner raw) :
      (RecordField.optional "content" contentCodec).Holds level ms (some raw) := by
    refine RecordField.holds_of_member hmember ?_
    have hread := contentCodec_read hlevel hraw
    rw [Value.document] at hread ⊢
    simp [RecordField.optional, Codec.option, readOption, hread, bind,
      Except.bind, pure, Except.pure]
  cases h with
  | noContent h => exact ⟨none, rfl, RecordField.holds_of_absent h rfl⟩
  | nullContent h => exact ⟨none, rfl, RecordField.holds_of_member h rfl⟩
  | noText h hraw => exact ⟨some none, rfl, hinner h (RecordField.holds_of_absent hraw rfl)⟩
  | nullText h hraw => exact ⟨some none, rfl, hinner h (RecordField.holds_of_member hraw rfl)⟩
  | @text inner body h hraw =>
    exact ⟨some (some body), rfl,
      hinner h (RecordField.holds_of_member hraw (readOption_string body _))⟩

theorem Represented.read {v : Value} {e : Entry} (h : Represented v e) {level : Nat}
    (hlevel : level + 1 < readableLevels) : Entry.codec.read (v.document level) = .ok e := by
  cases h with
  | @object ms e hid hsize hbody hdeleted =>
    obtain ⟨content, hcontent, hcontentField⟩ := hbody.content hlevel
    have hidField : (RecordField.required "id" EntryId.codec).Holds (level + 1) ms e.id :=
      RecordField.holds_of_member hid (EntryId.read_write hsize _)
    have hdeletedField :
        (RecordField.defaulted "deleted" Codec.bool false).Holds (level + 1) ms e.deleted := by
      rcases hdeleted with h | ⟨h, hfalse⟩
      · exact RecordField.holds_of_member h rfl
      · exact RecordField.holds_of_absent h (by rw [hfalse]; rfl)
    have hread : Entry.codec.read ((Value.object ms).document level) =
        .ok ⟨e.id, content.join, e.deleted⟩ :=
      Codec.record_read (e.id, content, e.deleted, ()) (Nat.lt_of_succ_lt hlevel) (by decide)
        ⟨hidField, hcontentField, hdeletedField, trivial⟩
    rw [hread, hcontent]

end Entry

namespace Page

theorem Represented.read {v : Value} {p : Page Entry} (h : Represented v p) :
    (codec Entry.codec).read (v.document 0) = .ok p := by
  cases h with
  | @object ms p hvalues hnext =>
    have hvaluesField :
        (RecordField.defaulted "values" Entry.codec.list []).Holds 1 ms p.values := by
      rcases hvalues with ⟨vs, h, hentries⟩ | ⟨h, hempty⟩
      · refine RecordField.holds_of_member h ?_
        exact readList_array (by decide) (hentries.imp fun v e hentry => hentry.read (by decide))
      · exact RecordField.holds_of_absent h (by rw [hempty]; rfl)
    have hnextField : (RecordField.optional "next" Codec.string).Holds 1 ms p.next := by
      rcases hnext with ⟨link, h, hlink⟩ | ⟨h | h, hnone⟩
      · exact RecordField.holds_of_member h (by rw [hlink]; rfl)
      · exact RecordField.holds_of_member h (by rw [hnone]; rfl)
      · exact RecordField.holds_of_absent h (by rw [hnone]; rfl)
    exact Codec.record_read (p.values, p.next, ()) (by decide) (by decide)
      ⟨hvaluesField, hnextField, trivial⟩

theorem Represented.decode {v : Value} {p : Page Entry} {s : String} (h : Represented v p)
    (hs : IsTextOf s v) : (codec Entry.codec).decode s = .ok p := by
  simp [Codec.decode, hs.parse, h.read, bind, Except.bind, pure, Except.pure]

/-- A page with an entry whose id is malformed is not read, whatever else is in it. -/
theorem decode_malformed {ms entry : List (String × Value)} {vs : List Value}
    {w : Value} {s : String} (hvalues : ("values", .array vs) ∈ ms) (hentry : .object entry ∈ vs)
    (hid : ("id", w) ∈ entry) (hw : EntryId.IsMalformed w) (hs : IsTextOf s (.object ms)) :
    ∃ err, (codec Entry.codec).decode s = .error err := by
  cases hdecode : (codec Entry.codec).decode s with
  | error err => exact ⟨err, rfl⟩
  | ok page =>
    simp only [Codec.decode, hs.parse] at hdecode
    obtain ⟨page', hpage, -⟩ := bind_eq_ok.mp hdecode
    have hlist := Codec.accepts_of_record hpage _ hvalues
    obtain ⟨es, hes⟩ : ∃ es, Entry.codec.list.read ((Value.array vs).document 1) = .ok es := by
      simpa [Fields.Accepts, RecordField.defaulted] using hlist
    obtain ⟨e, he⟩ := read_of_readList hes _ hentry
    have hread := Codec.accepts_of_record he _ hid
    obtain ⟨id, hread⟩ : ∃ id, EntryId.codec.read (w.document 3) = .ok id := by
      simpa [Fields.Accepts, RecordField.required] using hread
    exact absurd hread (hw.read 3 id)
end Page
end Cloud
end PullDecoration
