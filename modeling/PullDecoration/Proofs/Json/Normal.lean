import PullDecoration.Proofs.Json.Checking
import PullDecoration.Proofs.Json.RoundTrip

/-! Normal forms of documents. A codec that reads back what it writes takes every text that it
accepts to one text, and takes that text to itself. Which texts are accepted is said by a plain
codec, which reads mere texts where the other one reads identifiers, and by the texts among these
that must not be empty. -/
namespace PullDecoration
namespace Json

variable {α β τ τ' δ δ' : Type}

/-- The codec accepts what the plain one reads unless one of these texts in it is empty. -/
structure Codec.Validates (c : Codec α) (plain : Codec β) (out : α → β)
    (texts : β → List String) : Prop where
  checks : c.Checks plain out
  covers (b : β) : "" ∉ texts b ↔ ∃ a, out a = b

namespace Codec

variable {c : Codec α} {plain : Codec β} {out : α → β} {texts : β → List String}

theorem validates_self (c : Codec α) : c.Validates c id fun _ => [] :=
  ⟨c.checks_self, fun b => by simp⟩

theorem Validates.option (h : c.Validates plain out texts) :
    c.option.Validates plain.option (Option.map out) fun b? => b?.toList.flatMap texts where
  checks := h.checks.option
  covers b? := by
    cases b? with
    | none => simp
    | some b => simp [h.covers, Option.map_eq_some_iff]

theorem Validates.list (h : c.Validates plain out texts) :
    c.list.Validates plain.list (List.map out) (List.flatMap texts) where
  checks := h.checks.list
  covers bs := by
    induction bs with
    | nil => simp
    | cons b bs ih =>
      rw [List.flatMap_cons, List.mem_append, not_or, h.covers, ih]
      simp [List.map_eq_cons_iff]

end Codec

structure RecordField.Validates (f : RecordField α) (g : RecordField β) (out : α → β)
    (texts : β → List String) :
    Prop where
  checks : f.Checks g out
  covers (b : β) : "" ∉ texts b ↔ ∃ a, out a = b

namespace RecordField

variable {c : Codec α} {plain : Codec β} {out : α → β} {texts : β → List String}

theorem validates_self (f : RecordField α) : f.Validates f id fun _ => [] :=
  ⟨⟨rfl, f.codec.checks_self, by simp, by simp⟩, fun b => by simp⟩

theorem validates_required (name : String) (h : c.Validates plain out texts) :
    (required name c).Validates (required name plain) out texts :=
  ⟨checks_required name h.checks, h.covers⟩

theorem validates_nullable (name : String) (h : c.Validates plain out texts) :
    (nullable name c).Validates (nullable name plain) (Option.map out) fun b? =>
      b?.toList.flatMap texts :=
  ⟨checks_nullable name h.checks, h.option.covers⟩

theorem validates_optional (name : String) (h : c.Validates plain out texts) :
    (optional name c).Validates (optional name plain) (Option.map out) fun b? =>
      b?.toList.flatMap texts :=
  ⟨checks_optional name h.checks, h.option.covers⟩

theorem validates_defaulted (name : String) (h : c.Validates plain out texts) (a : α) :
    (defaulted name c a).Validates (defaulted name plain (out a)) out texts :=
  ⟨checks_defaulted name h.checks a, h.covers⟩

end RecordField

structure Fields.Validates (fs : Fields τ δ) (gs : Fields τ' δ') (record : τ → τ') (state : δ → δ')
    (texts : τ' → List String) : Prop where
  checks : fs.Checks gs record state
  covers (r : τ') : "" ∉ texts r ↔ ∃ r', record r' = r

namespace Fields

theorem validates_nil : nil.Validates nil id id fun _ => [] := ⟨.nil, fun r => by simp⟩

theorem Validates.cons {f : RecordField α} {g : RecordField β} {out : α → β}
    {texts : β → List String} {fs : Fields τ δ} {gs : Fields τ' δ'} {record : τ → τ'}
    {state : δ → δ'} {others : τ' → List String} (hf : f.Validates g out texts)
    (hfs : fs.Validates gs record state others) :
    (cons f fs).Validates (cons g gs) (Prod.map out record) (Prod.map (Option.map out) state)
      fun r => texts r.1 ++ others r.2 where
  checks := .cons hf.checks hfs.checks
  covers r := by
    obtain ⟨b, r⟩ := r
    rw [List.mem_append, not_or, hf.covers, hfs.covers]
    simp [Prod.exists, exists_and_left, exists_and_right]

end Fields

namespace Codec

variable {c : Codec α} {plain : Codec β} {out : α → β} {texts : β → List String}

/-- The record of the fields as they are read, with no type of its own. -/
def fields (title : String) (fs : Fields τ δ) : Codec τ := .record title .skip fs id .ok

theorem validates_record {title : String} {fs : Fields τ δ} {gs : Fields τ' δ'} {record : τ → τ'}
    {state : δ → δ'} {out : α → τ} {into : τ → Except ReadError α} {texts ids : τ' → List String}
    (h : fs.Validates gs record state texts) (hinto : ∀ a, into (out a) = .ok a)
    (hout : Function.Surjective out) (hids : ∀ r, "" ∈ ids r ↔ "" ∈ texts r) :
    (Codec.record title .skip fs out into).Validates (fields title gs)
    (fun a => record (out a)) ids where
  checks := by
    refine checks_record h.checks ?_ (fun r r' => by simp) fun _ => rfl
    intro r a
    obtain ⟨a', rfl⟩ := hout r
    rw [hinto, Except.ok.injEq]
    constructor
    · rintro rfl
      rfl
    · intro hsame
      have hok := hinto a'
      rw [hsame, hinto] at hok
      exact (Except.ok.inj hok).symm
  covers r := by
    rw [hids, h.covers]
    constructor
    · rintro ⟨r', rfl⟩
      obtain ⟨a, rfl⟩ := hout r'
      exact ⟨a, rfl⟩
    · rintro ⟨a, rfl⟩
      exact ⟨out a, rfl⟩

/-- What is written is read back, from either layout; a text is read exactly if none of the texts in
it that have to be identifiers is empty; and what is written for a value that was read is a normal
form of the text. -/
structure Normalises (c : Codec α) (plain : Codec β) (out : α → β)
    (ids : β → List String) : Prop where
  read_written (a : α) : c.decode (c.encode a) = .ok a ∧ c.decode (c.write a).prettyText = .ok a
  read_iff (text : String) (a : α) : c.decode text = .ok a ↔ plain.decode text = .ok (out a)
  accepted_iff (text : String) (b : β) (h : plain.decode text = .ok b) :
    (∃ a, c.decode text = .ok a) ↔ "" ∉ ids b
  nonempty (text : String) (a : α) (h : c.decode text = .ok a) : "" ∉ ids (out a)
  normal (text : String) (a : α) (h : c.decode text = .ok a) :
    (c.decode (c.encode a)).map c.encode = .ok (c.encode a) ∧
      (c.decode (c.write a).prettyText).map (fun a => (c.write a).prettyText) =
        .ok (c.write a).prettyText

theorem Validates.normalises (h : c.Validates plain out texts) (hkeeps : ∀ a, c.Keeps 0 a) :
    c.Normalises plain out texts := by
  have hread (a : α) : c.decode (c.encode a) = .ok a ∧ c.decode (c.write a).prettyText = .ok a :=
    ⟨(hkeeps a).decode (Value.isTextOf_text _), (hkeeps a).decode (Value.isTextOf_prettyText _)⟩
  refine ⟨hread, fun _ _ => h.checks.decode, ?_, ?_, ?_⟩
  · intro text b hb
    rw [h.covers]
    constructor
    · rintro ⟨a, ha⟩
      rw [h.checks.decode, hb, Except.ok.injEq] at ha
      exact ⟨a, ha.symm⟩
    · rintro ⟨a, rfl⟩
      exact ⟨a, h.checks.decode.mpr hb⟩
  · intro text a _
    exact (h.covers (out a)).mpr ⟨a, rfl⟩
  · intro text a _
    obtain ⟨hcompact, hpretty⟩ := hread a
    rw [hcompact, hpretty]
    exact ⟨rfl, rfl⟩

end Codec
end Json
end PullDecoration
