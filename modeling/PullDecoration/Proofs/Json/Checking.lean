import Mathlib.Data.Prod.Basic
import PullDecoration.Json.Record
import PullDecoration.Proofs.Except

/-! Codecs that check what other codecs only read. Where each field of a record checks what a field
of another record reads, the record is read from exactly the documents from which the other one is
read with parts that pass the checks: an object or an array of fields is not accepted by one way of
reading and refused by the other for any other reason. -/
namespace PullDecoration
namespace Json

variable {α β τ τ' δ δ' : Type}

/-- The codec reads `a` from exactly the documents from which the plain one reads `out a`. -/
structure Codec.Checks (c : Codec α) (plain : Codec β) (out : α → β) : Prop where
  read (d : Document) (a : α) : c.read d = .ok a ↔ plain.read d = .ok (out a)
  injective : Function.Injective out

namespace Codec

variable {c : Codec α} {plain : Codec β} {out : α → β}

theorem checks_self (c : Codec α) : c.Checks c id := ⟨fun _ _ => Iff.rfl, Function.injective_id⟩

theorem checks_refine {into : β → Except String α} (h : ∀ a b, into b = .ok a ↔ b = out a) :
    (refine plain out into).Checks plain out where
  read d a := by
    simp only [refine, bind_eq_ok, mapError_eq_ok, h]
    constructor
    · rintro ⟨b, hread, rfl⟩
      exact hread
    · exact fun hread => ⟨out a, hread, rfl⟩
  injective a a' hsame := by
    have ha := (h a (out a)).mpr rfl
    rw [hsame, (h a' (out a')).mpr rfl] at ha
    exact (Except.ok.inj ha).symm

theorem Checks.option (h : c.Checks plain out) : c.option.Checks plain.option (Option.map out) where
  read d a? := by
    by_cases hnull : d = .null
    · subst hnull
      cases a? <;> simp [Codec.option, readOption]
    · have hother {γ : Type} (read : Document → Except ReadError γ) :
          readOption read d = do return some (← read d) := by
        cases d with
        | null => exact absurd rfl hnull
        | _ => rfl
      cases a? with
      | none => simp [Codec.option, hother, bind_eq_ok, pure, Except.pure]
      | some a => simp [Codec.option, hother, bind_eq_ok, pure, Except.pure, h.read]
  injective := Option.map_injective h.injective

theorem readItems_item_eq_ok {read : Document → Except ReadError α} {head : Document} {rest : Items}
    {as : List α} : readItems read (.item head rest) = .ok as ↔
      ∃ a, read head = .ok a ∧ ∃ as', readItems read rest = .ok as' ∧ a :: as' = as := by
  simp [readItems, bind_eq_ok, pure, Except.pure]

theorem Checks.items (h : c.Checks plain out) {items : Items} {as : List α} :
    readItems c.read items = .ok as ↔ readItems plain.read items = .ok (as.map out) := by
  fun_induction readItems c.read items generalizing as with
  | case1 => simp [readItems, eq_comm]
  | case2 => simp [readItems]
  | case3 head rest ih =>
    have hitem : readItems c.read (.item head rest) = .ok as ↔
        readItems plain.read (.item head rest) = .ok (as.map out) := by
      rw [readItems_item_eq_ok, readItems_item_eq_ok]
      constructor
      · rintro ⟨a, hhead, as', hrest, rfl⟩
        exact ⟨out a, (h.read head a).mp hhead, as'.map out, ih.mp hrest, rfl⟩
      · rintro ⟨b, hhead, bs, hrest, hbs⟩
        obtain ⟨a, as', rfl, rfl, rfl⟩ := List.map_eq_cons_iff.mp hbs.symm
        exact ⟨a, (h.read head a).mpr hhead, as', ih.mpr hrest, rfl⟩
    exact hitem

theorem Checks.list (h : c.Checks plain out) : c.list.Checks plain.list (List.map out) where
  read d as := by
    cases d with
    | array level items => simp [Codec.list, readList, bind_eq_ok, h.items]
    | null | bool b | number n | string s | object level members | broken fault | nothing =>
      simp [Codec.list, readList]
  injective := List.map_injective_iff.mpr h.injective

end Codec

/-- The field checks what a plain field of its name reads, and stands for the same where it is left
out. -/
structure RecordField.Checks (f : RecordField α) (g : RecordField β) (out : α → β) : Prop where
  name : f.name = g.name
  codec : f.codec.Checks g.codec out
  absent : g.whenAbsent = f.whenAbsent.map out
  short : g.whenShort = f.whenShort.map out

namespace RecordField

variable {c : Codec α} {plain : Codec β} {out : α → β}

theorem checks_required (name : String) (h : c.Checks plain out) :
    (required name c).Checks (required name plain) out := ⟨rfl, h, rfl, rfl⟩

theorem checks_optional (name : String) (h : c.Checks plain out) :
    (optional name c).Checks (optional name plain) (Option.map out) := ⟨rfl, h.option, rfl, rfl⟩

theorem checks_nullable (name : String) (h : c.Checks plain out) :
    (nullable name c).Checks (nullable name plain) (Option.map out) := ⟨rfl, h.option, rfl, rfl⟩

theorem checks_defaulted (name : String) (h : c.Checks plain out) (a : α) :
    (defaulted name c a).Checks (defaulted name plain (out a)) out := ⟨rfl, h, rfl, rfl⟩

end RecordField

/-- A member that is no field is read and then passed over, or kept in front of the other
strangers. -/
inductive Strangers.Passes (name : String) (value : Document) (others : List (String × Document)) :
    Strangers → List (String × Document) → Prop
  | skip (h : Json.skip value = .ok ()) : Passes name value others .skip others
  | keep (h : value.check = .ok ()) : Passes name value others .keep ((name, value) :: others)

namespace Fields

/-- Field by field: what `record` makes of the checked values, and `state` of what is known of
them. -/
inductive Checks : {τ δ τ' δ' : Type} → Fields τ δ → Fields τ' δ' → (τ → τ') → (δ → δ') → Prop
  | nil : Checks .nil .nil id id
  | cons {α β τ δ τ' δ' : Type} {f : RecordField α} {g : RecordField β}
      {out : α → β} {fs : Fields τ δ} {gs : Fields τ' δ'} {record : τ → τ'} {state : δ → δ'}
      (hf : f.Checks g out) (hfs : Checks fs gs record state) :
      Checks (.cons f fs) (.cons g gs) (Prod.map out record) (Prod.map (Option.map out) state)

variable {fs : Fields τ δ} {gs : Fields τ' δ'} {record : τ → τ'} {state : δ → δ'}

theorem Checks.injective (h : fs.Checks gs record state) :
    Function.Injective record ∧ Function.Injective state := by
  induction h with
  | nil => exact ⟨Function.injective_id, Function.injective_id⟩
  | cons hf _ ih =>
    exact ⟨hf.codec.injective.prodMap ih.1, (Option.map_injective hf.codec.injective).prodMap ih.2⟩

theorem Checks.blank (h : fs.Checks gs record state) : state fs.blank = gs.blank := by
  induction h with
  | nil => rfl
  | cons hf _ ih => simp [Fields.blank, ih]

/-- A value is stored as that of the first field, which is not known yet, or as that of a later
one. -/
theorem store_cons_eq_ok {f : RecordField α} {key : String} {value : Document} {a? a?' : Option α}
    {known known' : δ} :
    (cons f fs).store key value (a?, known) = some (.ok (a?', known')) ↔
      (key = f.name ∧ a? = none ∧ known = known' ∧ ∃ a, f.codec.read value = .ok a ∧ a?' = some a) ∨
        (key ≠ f.name ∧ a? = a?' ∧ fs.store key value known = some (.ok known')) := by
  by_cases hkey : key = f.name
  · cases a? with
    | some a => simp [store, hkey]
    | none =>
      cases hread : f.codec.read value with
      | error e => simp [store, hkey, hread, Except.map]
      | ok a => simp [store, hkey, hread, Except.map, eq_comm, and_comm]
  · cases hstore : fs.store key value known with
    | none => simp [store, hkey, hstore]
    | some r => cases r <;> simp [store, hkey, hstore, Except.map]

theorem Checks.store (h : fs.Checks gs record state) {key : String} {value : Document}
    {known known' : δ} :
    fs.store key value known = some (.ok known') ↔
      gs.store key value (state known) = some (.ok (state known')) := by
  induction h with
  | nil => simp [Fields.store]
  | @cons _ _ _ _ _ _ f g out fs gs record state hf hfs ih =>
    obtain ⟨a?, known⟩ := known
    obtain ⟨a?', known'⟩ := known'
    have hread : (∃ a, f.codec.read value = .ok a ∧ a?' = some a) ↔
        ∃ b, g.codec.read value = .ok b ∧ a?'.map out = some b := by
      cases a?' <;> simp [hf.codec.read]
    simp only [Prod.map_apply, store_cons_eq_ok, hread, hf.name, ih, Option.map_eq_none_iff,
      (Option.map_injective hf.codec.injective).eq_iff, hfs.injective.2.eq_iff]

theorem Checks.store_eq_none (h : fs.Checks gs record state) {key : String}
    {value : Document} {known : δ} :
    fs.store key value known = none ↔ gs.store key value (state known) = none := by
  induction h with
  | nil => simp [Fields.store]
  | cons hf _ ih =>
    obtain ⟨a?, known⟩ := known
    cases a? <;> simp only [Prod.map_apply, Option.map_none, Option.map_some,
      Fields.store, hf.name] <;>
      split <;> simp [ih]

/-- Where all that is known afterwards passes the checks, so does what was known before. -/
theorem Checks.known_of_store (h : fs.Checks gs record state) {key : String}
    {value : Document} {before : δ'} {known : δ}
    (hstore : gs.store key value before = some (.ok (state known))) :
    ∃ known₀, state known₀ = before := by
  induction h with
  | nil => exact ⟨(), rfl⟩
  | cons hf _ ih =>
    obtain ⟨b?, before⟩ := before
    obtain ⟨a?, known⟩ := known
    rcases store_cons_eq_ok.mp hstore with ⟨-, rfl, rfl, -⟩ | ⟨-, rfl, hrest⟩
    · exact ⟨(none, known), rfl⟩
    · obtain ⟨known₀, rfl⟩ := ih hrest
      exact ⟨(a?, known₀), rfl⟩

theorem finish_cons_eq_ok {f : RecordField α} {a? : Option α} {known : δ} {a : α} {r : τ} :
    (cons f fs).finish (a?, known) = .ok (a, r) ↔
      (a? <|> f.whenAbsent) = some a ∧ fs.finish known = .ok r := by
  cases h : a? <|> f.whenAbsent with
  | none => simp [finish, h, bind_eq_ok, throw, throwThe, MonadExceptOf.throw]
  | some b => cases hrest : fs.finish known <;> simp [finish, h, hrest, bind,
    Except.bind, pure, Except.pure]

theorem Checks.finish (h : fs.Checks gs record state) {known : δ} {r : τ} :
    fs.finish known = .ok r ↔ gs.finish (state known) = .ok (record r) := by
  induction h with
  | nil => simp [Fields.finish]
  | @cons _ _ _ _ _ _ f g out fs gs record state hf hfs ih =>
    obtain ⟨a?, known⟩ := known
    obtain ⟨a, r⟩ := r
    have hhead : (a?.map out <|> g.whenAbsent) = (a? <|> f.whenAbsent).map out := by
      rw [hf.absent]
      cases a? <;> rfl
    rw [Prod.map_apply, Prod.map_apply, finish_cons_eq_ok, finish_cons_eq_ok, hhead,
      ih, ← Option.map_some, (Option.map_injective hf.codec.injective).eq_iff]

theorem Checks.known_of_finish (h : fs.Checks gs record state) {known' : δ'} {r : τ}
    (hfinish : gs.finish known' = .ok (record r)) : ∃ known, state known = known' := by
  induction h with
  | nil => exact ⟨(), rfl⟩
  | @cons _ _ _ _ _ _ f g out fs gs record state hf hfs ih =>
    obtain ⟨b?, known'⟩ := known'
    obtain ⟨a, r⟩ := r
    obtain ⟨hhead, hrest⟩ := finish_cons_eq_ok.mp hfinish
    obtain ⟨known, rfl⟩ := ih hrest
    cases b? with
    | none => exact ⟨(none, known), rfl⟩
    | some b =>
      cases hhead
      exact ⟨(some a, known), rfl⟩

/-- The first member is stored, or passed as a stranger, and then the others are gathered. -/
theorem gather_member_eq_ok {strangers : Strangers} {key : Literal}
    {value : Document} {rest : Members} {known known' : δ} {others : List (String × Document)} :
    fs.gather strangers known (.member key value rest) = .ok (known', others) ↔
      ∃ name, readLiteral key = .ok name ∧
        ((∃ next, fs.store name value known = some (.ok next) ∧
            fs.gather strangers next rest = .ok (known', others)) ∨
          fs.store name value known = none ∧ ∃ others', fs.gather strangers known rest =
            .ok (known', others') ∧
            strangers.Passes name value others' others) := by
  rw [gather, bind_eq_ok]
  refine exists_congr fun name => and_congr_right fun _ => ?_
  cases hstore : fs.store name value known with
  | some stored => simp [bind_eq_ok]
  | none =>
    simp only [reduceCtorEq, false_and, exists_false, true_and, false_or]
    constructor
    · intro h
      cases strangers with
      | skip =>
        obtain ⟨⟨⟩, hskip, hrest⟩ := bind_eq_ok.mp h
        exact ⟨others, hrest, .skip hskip⟩
      | refuse => cases h
      | keep =>
        obtain ⟨⟨⟩, hcheck, h⟩ := bind_eq_ok.mp h
        obtain ⟨⟨_, others'⟩, hrest, h⟩ := bind_eq_ok.mp h
        cases h
        exact ⟨others', hrest, .keep hcheck⟩
    · rintro ⟨others', hrest, hpasses⟩
      cases hpasses with
      | skip h => exact bind_eq_ok.mpr ⟨(), h, hrest⟩
      | keep h => exact bind_eq_ok.mpr ⟨(), h, bind_eq_ok.mpr ⟨(known', others'), hrest, rfl⟩⟩

theorem Checks.known_of_gather (h : fs.Checks gs record state) {strangers : Strangers}
    {ms : Members} {before : δ'} {known : δ} {others : List (String × Document)}
    (hgather : gs.gather strangers before ms = .ok (state known, others)) :
    ∃ known₀, state known₀ = before := by
  fun_induction gs.gather strangers before ms generalizing others with
  | case1 =>
    cases hgather
    exact ⟨known, rfl⟩
  | case2 => cases hgather
  | case3 => cases hgather
  | case4 before key value rest ihNext ihRest =>
    have hmember : gs.gather strangers before (.member key value rest) =
      .ok (state known, others) := hgather
    obtain ⟨name, -, ⟨next, hstore, hrest⟩ | ⟨-, others', hrest, -⟩⟩ :=
      gather_member_eq_ok.mp hmember
    · obtain ⟨known₁, rfl⟩ := ihNext next hrest
      exact h.known_of_store hstore
    · exact ihRest hrest

theorem Checks.gather (h : fs.Checks gs record state) {strangers : Strangers}
    {ms : Members} {known known' : δ} {others : List (String × Document)} :
    fs.gather strangers known ms = .ok (known', others) ↔
      gs.gather strangers (state known) ms = .ok (state known', others) := by
  fun_induction fs.gather strangers known ms generalizing others with
  | case1 known => simp [Fields.gather, h.injective.2.eq_iff]
  | case2 => simp [Fields.gather]
  | case3 => simp [Fields.gather]
  | case4 known key value rest ihNext ihRest =>
    have hmember : fs.gather strangers known (.member key value rest) = .ok (known', others) ↔
        gs.gather strangers (state known) (.member key value rest) =
          .ok (state known', others) := by
      rw [gather_member_eq_ok, gather_member_eq_ok]
      refine exists_congr fun name => and_congr_right fun _ => or_congr ?_ ?_
      · constructor
        · rintro ⟨next, hstore, hrest⟩
          exact ⟨state next, h.store.mp hstore, (ihNext next).mp hrest⟩
        · rintro ⟨next', hstore, hrest⟩
          obtain ⟨next, rfl⟩ := h.known_of_gather hrest
          exact ⟨next, h.store.mpr hstore, (ihNext next).mpr hrest⟩
      · simp only [h.store_eq_none, ihRest]
    exact hmember

/-- An item is read by the first field; where there is none left, the field has to have a value
without one. -/
theorem ofItems_cons_eq_ok {f : RecordField α} {expected : String} {index : Nat}
    {items rest : Items} {a : α} {r : τ} :
    (cons f fs).ofItems expected index items = .ok ((a, r), rest) ↔
      (∃ head tail, items = .item head tail ∧ f.codec.read head = .ok a ∧
        fs.ofItems expected (index + 1) tail = .ok (r, rest)) ∨
      items = .close ∧ f.whenShort = some a ∧
      fs.ofItems expected (index + 1) .close = .ok (r, rest) := by
  cases items with
  | item head tail => simp [ofItems, bind_eq_ok, pure, Except.pure, and_assoc]
  | stop fault => simp [ofItems]
  | close =>
    cases hshort : f.whenShort with
    | none => simp [ofItems, hshort, throw, throwThe, MonadExceptOf.throw]
    | some b => simp [ofItems, hshort, bind_eq_ok, pure, Except.pure, and_comm]

theorem Checks.ofItems (h : fs.Checks gs record state) {expected expected' : String} {index : Nat}
    {items rest : Items} {r : τ} :
    fs.ofItems expected index items = .ok (r, rest) ↔
      gs.ofItems expected' index items = .ok (record r, rest) := by
  induction h generalizing index items with
  | nil => simp [Fields.ofItems]
  | @cons _ _ _ _ _ _ f g out fs gs record state hf hfs ih =>
    obtain ⟨a, r⟩ := r
    have hshort : g.whenShort = some (out a) ↔ f.whenShort = some a := by
      rw [hf.short, ← Option.map_some, (Option.map_injective hf.codec.injective).eq_iff]
    simp only [Prod.map_apply, ofItems_cons_eq_ok, hshort, hf.codec.read, ih]

/-- A record is read where the plain one is read with values that pass the checks. -/
theorem Checks.readRecord (h : fs.Checks gs record state) {title : String}
    {strangers : Strangers} {d : Document} {r : τ} : Json.readRecord title strangers fs d = .ok r ↔
      Json.readRecord title strangers gs d = .ok (record r) := by
  cases d with
  | array level items =>
    simp only [Json.readRecord, bind_eq_ok, pure, Except.pure, Except.ok.injEq]
    refine exists_congr fun _ => and_congr_right fun _ => ?_
    constructor
    · rintro ⟨⟨r₀, rest⟩, hitems, ended, hrest, rfl⟩
      exact ⟨(record r₀, rest), h.ofItems.mp hitems, ended, hrest, rfl⟩
    · rintro ⟨⟨r', rest⟩, hitems, ended, hrest, hr⟩
      cases hr
      exact ⟨(r, rest), h.ofItems.mpr hitems, ended, hrest, rfl⟩
  | object level members =>
    simp only [Json.readRecord, bind_eq_ok]
    refine exists_congr fun _ => and_congr_right fun _ => ?_
    constructor
    · rintro ⟨⟨known, others⟩, hgather, hfinish⟩
      exact ⟨(state known, others), h.blank ▸ h.gather.mp hgather, h.finish.mp hfinish⟩
    · rintro ⟨⟨known', others⟩, hgather, hfinish⟩
      obtain ⟨known, rfl⟩ := h.known_of_finish hfinish
      exact ⟨(known, others), h.gather.mpr (h.blank ▸ hgather), h.finish.mpr hfinish⟩
  | null | bool b | number n | string s | broken fault | nothing => simp [Json.readRecord]

end Fields

namespace Codec

/-- Where `into` accepts exactly what is written, a record is read where its fields are. -/
theorem record_read_eq_ok {title : String} {strangers : Strangers} {fs : Fields τ δ} {out : α → τ}
    {into : τ → Except ReadError α} (hinto : ∀ r a, into r = .ok a ↔ r = out a)
    {d : Document} {a : α} :
    (Codec.record title strangers fs out into).read d = .ok a ↔
      Json.readRecord title strangers fs d = .ok (out a) := by
  simp [Codec.record, bind_eq_ok, hinto]

theorem checks_record {title : String} {strangers : Strangers} {fs : Fields τ δ} {gs : Fields τ' δ'}
    {record : τ → τ'} {state : δ → δ'} (h : fs.Checks gs record state) {out : α → τ}
    {into : τ → Except ReadError α} (hinto : ∀ r a, into r = .ok a ↔ r = out a) {out' : β → τ'}
    {into' : τ' → Except ReadError β} (hinto' : ∀ r b, into' r = .ok b ↔ r = out' b) {parts : α → β}
    (hparts : ∀ a, record (out a) = out' (parts a)) :
    (Codec.record title strangers fs out into).Checks
      (Codec.record title strangers gs out' into') parts where
  read d a := by
    rw [record_read_eq_ok hinto, record_read_eq_ok hinto', h.readRecord, hparts]
  injective a a' hsame := by
    have hout : out a = out a' := h.injective.1 (by rw [hparts, hparts, hsame])
    have ha := (hinto (out a) a).mpr rfl
    rw [hout, (hinto (out a') a').mpr rfl] at ha
    exact (Except.ok.inj ha).symm

theorem Checks.decode {c : Codec α} {plain : Codec β} {out : α → β}
    (h : c.Checks plain out) {s : String} {a : α} :
    c.decode s = .ok a ↔ plain.decode s = .ok (out a) := by
  cases hended : (parse s).2 <;>
    simp [Codec.decode, bind_eq_ok, hended, h.read, pure, Except.pure, throw, throwThe,
      MonadExceptOf.throw]

end Codec
end Json
end PullDecoration
