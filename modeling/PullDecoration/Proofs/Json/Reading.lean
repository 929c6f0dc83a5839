import PullDecoration.Json.Record
import PullDecoration.Proofs.Except
import Mathlib.Data.List.Forall2

/-! What is read from written values. A number of 64 bits is read exactly. The members of a record
may stand in any order and among members of other names; all that counts for a field is which values
stand behind its name. One member that its field does not accept is enough for the record not to be
read. -/
namespace PullDecoration
namespace Json

variable {α τ δ : Type}

theorem le_ofDigitChars (cs : List Char) (n : Nat) : n ≤ Nat.ofDigitChars 10 cs n := by
  induction cs generalizing n with
  | nil => exact Nat.le_refl n
  | cons c cs ih =>
    rw [Nat.ofDigitChars_cons]
    exact Nat.le_trans (by omega) (ih _)

theorem gatherDigits_eq {cs : List Char} {n : Nat} (h : Nat.ofDigitChars 10 cs n ≤ maxUInt64) :
    gatherDigits n cs = (Nat.ofDigitChars 10 cs n, 0) := by
  induction cs generalizing n with
  | nil => rfl
  | cons c cs ih =>
    rw [Nat.ofDigitChars_cons] at h ⊢
    have hnext := Nat.le_trans (le_ofDigitChars cs _) h
    rw [gatherDigits, if_neg (Nat.not_lt.mpr hnext), ih h]

theorem number_ofNat {n : Nat} (h : n < UInt64.size) :
    (Numeral.ofNat n).number = .ok (.natural n) := by
  have hvalue : Nat.ofDigitChars 10 (Text.decimal n) 0 = n := Text.digitsValue_decimal n
  have hgather : gatherDigits 0 (Text.decimal n) = (n, 0) := by
    rw [gatherDigits_eq (by rw [hvalue]; exact Nat.le_pred_of_lt h), hvalue]
  simp [Numeral.number, Numeral.ofNat, hgather]

theorem gatherDigits_fst {cs : List Char} {n : Nat} (h : (gatherDigits n cs).2 = 0) :
    (gatherDigits n cs).1 = Nat.ofDigitChars 10 cs n := by
  induction cs generalizing n with
  | nil => rfl
  | cons c cs ih =>
    rw [Nat.ofDigitChars_cons]
    rw [gatherDigits] at h ⊢
    split at h
    · cases h
    · rename_i hfits
      rw [if_neg hfits]
      exact ih h

/-- A written number is read as a natural one only where it is kept exactly. -/
theorem natural_of_number_ofNat {n k : Nat}
    (h : (Numeral.ofNat n).number = .ok (.natural k)) : k = n := by
  have hvalue : Nat.ofDigitChars 10 (Text.decimal n) 0 = n := Text.digitsValue_decimal n
  by_cases hall : (gatherDigits 0 (Text.decimal n)).2 = 0
  · have hfst := gatherDigits_fst hall
    simp only [Numeral.number, Numeral.ofNat, hall, hfst, hvalue] at h
    cases h
    rfl
  · simp only [Numeral.number, Numeral.ofNat, hall, false_and, if_false] at h
    cases hreal : realOf false (gatherDigits 0 (Text.decimal n)).1
      (gatherDigits 0 (Text.decimal n)).2 <;>
      simp [hreal, Except.map] at h

def valuesOf (name : String) (ms : List (String × Value)) : List Value :=
  (ms.filter (·.1 = name)).map (·.2)

@[simp] theorem valuesOf_nil (name : String) : valuesOf name [] = [] := rfl

@[simp] theorem valuesOf_cons_self (name : String) (v : Value) (ms : List (String × Value)) :
    valuesOf name ((name, v) :: ms) = v :: valuesOf name ms := by
  simp [valuesOf]

theorem valuesOf_cons_ne {name key : String} (h : key ≠ name) (v : Value)
    (ms : List (String × Value)) : valuesOf name ((key, v) :: ms) = valuesOf name ms := by
  simp [valuesOf, h]

/-- The members hold `a` as the value of the field: it is read from the only member of the name, or
is what the field is without one. -/
def RecordField.Holds (f : RecordField α) (level : Nat)
    (ms : List (String × Value)) (a : α) : Prop :=
  match valuesOf f.name ms with
  | [] => f.whenAbsent = some a
  | [v] => f.codec.read (v.document level) = .ok a
  | _ => False

/-- The value of the field is `a`, which is either known, and no member names the field again, or
held by the members that are left. -/
def RecordField.Completes (f : RecordField α) (level : Nat) (known : Option α)
    (ms : List (String × Value)) (a : α) : Prop :=
  match known with
  | some b => b = a ∧ valuesOf f.name ms = []
  | none => f.Holds level ms a

namespace RecordField

variable {f : RecordField α} {level : Nat} {known : Option α} {ms : List (String × Value)} {a : α}

theorem holds_of_member {v : Value} (h : valuesOf f.name ms = [v])
    (hread : f.codec.read (v.document level) = .ok a) : f.Holds level ms a := by
  simpa [Holds, h] using hread

theorem holds_of_absent (h : valuesOf f.name ms = []) (ha : f.whenAbsent = some a) :
    f.Holds level ms a := by
  simpa [Holds, h] using ha

theorem completes_cons_ne {key : String} (h : key ≠ f.name) (v : Value) :
    f.Completes level known ((key, v) :: ms) a ↔ f.Completes level known ms a := by
  cases known <;> simp only [Completes, Holds, valuesOf_cons_ne h]

/-- A field with a member is not known yet, and its value is that of the member. -/
theorem Completes.read {v : Value} (h : f.Completes level known ((f.name, v) :: ms) a) :
    known = none ∧ f.codec.read (v.document level) = .ok a ∧ valuesOf f.name ms = [] := by
  cases known with
  | some b => simp [Completes] at h
  | none =>
    simp only [Completes, Holds, valuesOf_cons_self] at h
    split at h
    · contradiction
    · rename_i hvalues
      obtain ⟨rfl, hrest⟩ := List.cons.inj hvalues
      exact ⟨rfl, h, hrest⟩
    · exact h.elim

theorem Completes.finish (h : f.Completes level known [] a) :
    (known <|> f.whenAbsent) = some a := by
  cases known with
  | some b => simp [h.1]
  | none => simpa [Completes, Holds] using h

end RecordField

namespace Fields

/-- The members that are left complete what is known of the fields to the record. -/
def Completes {τ δ : Type} (level : Nat) (ms : List (String × Value)) : Fields τ δ → δ → τ → Prop
  | .nil, _, _ => True
  | .cons f fs, (known, state), (a, record) =>
    f.Completes level known ms a ∧ fs.Completes level ms state record

variable {level : Nat} {ms : List (String × Value)}

theorem completes_cons_of_notMem {key : String} (v : Value) (fs : Fields τ δ)
    {state : δ} {record : τ} (h : key ∉ fs.names) :
    fs.Completes level ((key, v) :: ms) state record ↔ fs.Completes level ms state record := by
  induction fs with
  | nil => exact Iff.rfl
  | cons f fs ih =>
    simp only [names, List.mem_cons, not_or] at h
    simp only [Completes, RecordField.completes_cons_ne h.1, ih h.2]

theorem store_of_notMem {key : String} (d : Document) (fs : Fields τ δ) (state : δ)
    (h : key ∉ fs.names) : fs.store key d state = none := by
  induction fs with
  | nil => rfl
  | cons f fs ih =>
    simp only [names, List.mem_cons, not_or] at h
    simp [store, h.1, ih state.2 h.2]

/-- A member of one of the fields is stored, and the others complete what is then known. -/
theorem Completes.store {key : String} {v : Value} (fs : Fields τ δ) {state : δ} {record : τ}
    (hnames : fs.names.Nodup) (hkey : key ∈ fs.names)
    (h : fs.Completes level ((key, v) :: ms) state record) :
    ∃ state', fs.store key (v.document level) state = some (.ok state') ∧
      fs.Completes level ms state' record := by
  induction fs with
  | nil => cases hkey
  | cons f fs ih =>
    obtain ⟨known, rest⟩ := state
    obtain ⟨a, as⟩ := record
    obtain ⟨hf, hfs⟩ := h
    obtain ⟨hfresh, hnames⟩ := List.nodup_cons.mp hnames
    by_cases hhead : key = f.name
    · subst hhead
      obtain ⟨rfl, hread, hvalues⟩ := hf.read
      exact ⟨(some a, rest), by simp [Fields.store, hread, Except.map], ⟨rfl, hvalues⟩,
        (completes_cons_of_notMem v fs hfresh).mp hfs⟩
    · have htail : key ∈ fs.names := (List.mem_cons.mp hkey).resolve_left hhead
      obtain ⟨rest', hstore, hcompletes⟩ := ih hnames htail hfs
      exact ⟨(known, rest'), by simp [Fields.store, hhead, hstore, Except.map],
        (RecordField.completes_cons_ne hhead v).mp hf, hcompletes⟩

theorem Completes.finish (fs : Fields τ δ) {state : δ} {record : τ}
    (h : fs.Completes level [] state record) : fs.finish state = .ok record := by
  induction fs with
  | nil => rfl
  | cons f fs ih =>
    simp [Fields.finish, h.1.finish, ih h.2]

end Fields

mutual

theorem Value.skip_document (level : Nat) : ∀ v : Value, (v.document level).skip = .ok ()
  | .null | .bool _ | .number _ | .string _ => by simp [document, Document.skip, Literal.ofString]
  | .array vs => by simpa [document, Document.skip] using skip_documentItems (level + 1) vs
  | .object ms => by simpa [document, Document.skip] using skip_documentMembers (level + 1) ms

theorem Value.skip_documentItems (level : Nat) : ∀ vs : List Value,
    (documentItems level vs).skip = .ok ()
  | [] => rfl
  | v :: vs => by
    simp [documentItems, Items.skip, skip_document level v, skip_documentItems level vs]
    rfl

theorem Value.skip_documentMembers (level : Nat) : ∀ ms : List (String × Value),
    (documentMembers level ms).skip = .ok ()
  | [] => rfl
  | (key, v) :: ms => by
    simp [documentMembers, Members.skip, Literal.ofString, skip_document level v,
      skip_documentMembers level ms]
    rfl

end

theorem Fields.Completes.gather {level : Nat} {ms : List (String × Value)}
    {fs : Fields τ δ} {state : δ} {record : τ} (hnames : fs.names.Nodup)
    (h : fs.Completes level ms state record) :
    ∃ state', fs.gather .skip state (Value.documentMembers level ms) = .ok (state', []) ∧
      fs.finish state' = .ok record := by
  induction ms generalizing state with
  | nil => exact ⟨state, rfl, h.finish⟩
  | cons m ms ih =>
    obtain ⟨key, v⟩ := m
    by_cases hkey : key ∈ fs.names
    · obtain ⟨next, hstore, hcompletes⟩ := h.store fs hnames hkey
      obtain ⟨state', hgather, hfinish⟩ := ih hcompletes
      refine ⟨state', ?_, hfinish⟩
      rw [Value.documentMembers, Fields.gather]
      simp [readLiteral, Literal.ofString, hstore, hgather, bind, Except.bind]
    · obtain ⟨state', hgather, hfinish⟩ := ih ((completes_cons_of_notMem v fs hkey).mp h)
      refine ⟨state', ?_, hfinish⟩
      rw [Value.documentMembers, Fields.gather]
      simp [readLiteral, Literal.ofString, fs.store_of_notMem _ state hkey, skip,
        v.skip_document level, mapError_ok, hgather, bind, Except.bind]

theorem checkLevel_of_le {level : Nat} (h : level ≤ readableLevels) :
    checkLevel level = .ok () := by
  simp [checkLevel, Nat.not_lt.mpr h]

/-- A record is read from members that complete it, whatever depth their object was noted with. -/
theorem Fields.Completes.readRecord (title : String) {level : Nat} {fs : Fields τ δ}
    {ms : List (String × Value)} {record : τ} {depth : Nat} (hdepth : depth ≤ readableLevels)
    (hnames : fs.names.Nodup) (h : fs.Completes level ms fs.blank record) :
    Json.readRecord title .skip fs (.object depth (Value.documentMembers level ms)) =
      .ok record := by
  obtain ⟨state, hgather, hfinish⟩ := h.gather hnames
  simp [Json.readRecord, checkLevel_of_le hdepth, hgather, hfinish, bind, Except.bind]

theorem Codec.record_read {title : String} {fs : Fields τ δ} {out : α → τ}
    {into : τ → Except ReadError α} {level : Nat} {ms : List (String × Value)} (record : τ)
    (hlevel : level < readableLevels) (hnames : fs.names.Nodup)
    (h : fs.Completes (level + 1) ms fs.blank record) :
    (Codec.record title .skip fs out into).read ((Value.object ms).document level) =
      into record := by
  have hread := h.readRecord title (Nat.succ_le_of_lt hlevel) hnames
  simp only [Codec.record, Value.document, hread, bind, Except.bind]

theorem readList_array {read : Document → Except ReadError α} {level : Nat} {vs : List Value}
    {as : List α} (hlevel : level < readableLevels)
    (h : List.Forall₂ (fun v a => read (v.document (level + 1)) = .ok a) vs as) :
    readList read ((Value.array vs).document level) = .ok as := by
  have hdepth : level + 1 ≤ readableLevels := hlevel
  have hitems : readItems read (Value.documentItems (level + 1) vs) = .ok as := by
    induction h with
    | nil => rfl
    | cons hhead _ ih =>
      simp [Value.documentItems, readItems, hhead, ih, bind, Except.bind, pure, Except.pure]
  simp [readList, Value.document, checkLevel_of_le hdepth, hitems, bind, Except.bind]

/-- A field of the name, if there is one, can be read from the document. -/
def Fields.Accepts (key : String) (d : Document) {τ δ : Type} : Fields τ δ → Prop
  | .nil => True
  | .cons f fs => if key = f.name then ∃ a, f.codec.read d = .ok a else fs.Accepts key d

theorem Fields.accepts_of_store {key : String} {d : Document} (fs : Fields τ δ) (state : δ)
    (h : ∀ err, fs.store key d state ≠ some (.error err)) : fs.Accepts key d := by
  induction fs with
  | nil => trivial
  | cons f fs ih =>
    obtain ⟨known, rest⟩ := state
    by_cases hkey : key = f.name
    · rw [Accepts, if_pos hkey]
      cases hread : f.codec.read d with
      | ok a => exact ⟨a, rfl⟩
      | error err =>
        cases known with
        | none => exact absurd (by simp [store, hkey, hread, Except.map]) (h err)
        | some a => exact absurd (by simp [store, hkey]) (h (.duplicateField key))
    · rw [Accepts, if_neg hkey]
      refine ih rest fun err hstore => h err ?_
      simp [store, hkey, hstore, Except.map]

theorem Fields.accepts_of_gather {fs : Fields τ δ} {level : Nat}
    {ms : List (String × Value)} {state : δ} {result : δ × List (String × Document)}
    (h : fs.gather .skip state (Value.documentMembers level ms) = .ok result) :
    ∀ m ∈ ms, fs.Accepts m.1 (m.2.document level) := by
  induction ms generalizing state with
  | nil => exact List.forall_mem_nil _
  | cons m ms ih =>
    obtain ⟨key, v⟩ := m
    rw [Value.documentMembers, gather] at h
    obtain ⟨name, hname, h⟩ := bind_eq_ok.mp h
    cases hname
    refine List.forall_mem_cons.mpr ?_
    cases hstore : fs.store key (v.document level) state with
    | none =>
      simp only [hstore] at h
      obtain ⟨-, -, h⟩ := bind_eq_ok.mp h
      exact ⟨fs.accepts_of_store state (by simp [hstore]), ih h⟩
    | some stored =>
      simp only [hstore] at h
      obtain ⟨next, hnext, h⟩ := bind_eq_ok.mp h
      exact ⟨fs.accepts_of_store state (by simp [hstore, hnext]), ih h⟩

theorem Codec.accepts_of_record {title : String} {fs : Fields τ δ} {out : α → τ}
    {into : τ → Except ReadError α} {level : Nat} {ms : List (String × Value)} {a : α}
    (h : (Codec.record title .skip fs out into).read ((Value.object ms).document level) = .ok a) :
    ∀ m ∈ ms, fs.Accepts m.1 (m.2.document (level + 1)) := by
  obtain ⟨record, hrecord, -⟩ := bind_eq_ok.mp h
  obtain ⟨-, -, hmembers⟩ := bind_eq_ok.mp hrecord
  obtain ⟨result, hgather, -⟩ := bind_eq_ok.mp hmembers
  exact Fields.accepts_of_gather hgather

theorem read_of_readList {read : Document → Except ReadError α} {level : Nat} {vs : List Value}
    {as : List α} (h : readList read ((Value.array vs).document level) = .ok as) :
    ∀ v ∈ vs, ∃ a, read (v.document (level + 1)) = .ok a := by
  obtain ⟨-, -, hitems⟩ := bind_eq_ok.mp h
  clear h
  induction vs generalizing as with
  | nil => exact List.forall_mem_nil _
  | cons v vs ih =>
    obtain ⟨a, hhead, hrest⟩ := bind_eq_ok.mp hitems
    obtain ⟨as', htail, -⟩ := bind_eq_ok.mp hrest
    exact List.forall_mem_cons.mpr ⟨⟨a, hhead⟩, ih htail⟩

end Json
end PullDecoration
