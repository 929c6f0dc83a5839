import PullDecoration.Json.Codec

/-! Records as JSON objects. A record is also accepted as an array of its fields in their order. In an
object the fields may stand in any order; one that is missing is noticed at the end of the object. -/
namespace PullDecoration
namespace Json

/-- A field of a record. `whenAbsent` is its value if an object has no such member, `whenShort` its value
if an array ends before it, and an omitted value is not written. -/
structure RecordField (α : Type) where
  name : String
  codec : Codec α
  whenAbsent : Option α
  whenShort : Option α
  isOmitted : α → Bool

namespace RecordField

variable {α : Type}

def required (name : String) (codec : Codec α) : RecordField α :=
  ⟨name, codec, none, none, fun _ => false⟩

/-- A field that counts as `a` where it is left out. -/
def defaulted (name : String) (codec : Codec α) (a : α) : RecordField α :=
  ⟨name, codec, some a, some a, fun _ => false⟩

/-- An optional field that an object may lack but an array may not. -/
def nullable (name : String) (codec : Codec α) : RecordField (Option α) :=
  ⟨name, codec.option, some none, none, fun _ => false⟩

/-- An optional field that is written only if it is there. -/
def optional (name : String) (codec : Codec α) : RecordField (Option α) :=
  ⟨name, codec.option, some none, some none, Option.isNone⟩

/-- A list that is written only if it has items. -/
def optionalList (name : String) (codec : Codec α) : RecordField (List α) :=
  ⟨name, codec.list, some [], some [], List.isEmpty⟩

end RecordField

/-- The fields of a record: the type of their values, and the type of what is known of them while an
object is being read. -/
inductive Fields : Type → Type → Type 1
  | nil : Fields Unit Unit
  | cons {α τ δ : Type} (head : RecordField α) (tail : Fields τ δ) : Fields (α × τ) (Option α × δ)

namespace Fields

def names {τ δ : Type} : Fields τ δ → List String
  | .nil => []
  | .cons f fs => f.name :: fs.names

/-- Nothing is known of any field. -/
def blank {τ δ : Type} : Fields τ δ → δ
  | .nil => ()
  | .cons _ fs => (none, fs.blank)

/-- Reads the value of the named field; none if there is no such field. -/
def store {τ δ : Type} (key : String) (value : Document) :
    Fields τ δ → δ → Option (Except ReadError δ)
  | .nil, _ => none
  | .cons f fs, (a?, rest) =>
    if key = f.name then
      match a? with
      | some _ => some (.error (.duplicateField key))
      | none => some ((f.codec.read value).map fun a => (some a, rest))
    else (fs.store key value rest).map fun r => r.map fun rest => (a?, rest)

/-- The record, once all members have been read. -/
def finish {τ δ : Type} : Fields τ δ → δ → Except ReadError τ
  | .nil, _ => .ok ()
  | .cons f fs, (a?, rest) => do
    let a ← match a? <|> f.whenAbsent with
      | some a => pure a
      | none => throw (.missingField f.name)
    return (a, ← fs.finish rest)

/-- The record from items in the order of the fields, and the items behind them. -/
def ofItems {τ δ : Type} (expected : String) (index : Nat) :
    Fields τ δ → Items → Except ReadError (τ × Items)
  | .nil, items => .ok ((), items)
  | .cons f fs, .item head rest => do
    let a ← f.codec.read head
    let (as, rest) ← ofItems expected (index + 1) fs rest
    return ((a, as), rest)
  | .cons _ _, .stop fault => .error (.malformed fault.read)
  | .cons f fs, .close => do
    match f.whenShort with
    | none => throw (.invalidLength index expected)
    | some a =>
      let (as, rest) ← ofItems expected (index + 1) fs .close
      return ((a, as), rest)

def write {τ δ : Type} : Fields τ δ → τ → List (String × Value)
  | .nil, _ => []
  | .cons f fs, (a, rest) =>
    if f.isOmitted a then fs.write rest else (f.name, f.codec.write a) :: fs.write rest

end Fields

/-- What becomes of members that are no field: they are passed over, refused, or kept for another
reader. -/
inductive Strangers
  | skip | refuse | keep
  deriving DecidableEq

/-- Reads members into fields, and the strangers among them that are kept. -/
def Fields.gather {τ δ : Type} (fs : Fields τ δ) (strangers : Strangers) (state : δ) :
    Members → Except ReadError (δ × List (String × Document))
  | .close => .ok (state, [])
  | .stop fault => .error (.malformed fault.read)
  | .misfit _ => .error (.malformed .keyNotString)
  | .member key value rest => do
    let name ← readLiteral key
    match fs.store name value state with
    | some result => fs.gather strangers (← result) rest
    | none =>
      match strangers with
      | .skip => Json.skip value; fs.gather strangers state rest
      | .refuse => throw (.unknownField name fs.names)
      | .keep =>
        value.check
        let (state, others) ← fs.gather strangers state rest
        return (state, (name, value) :: others)

/-- How a text goes on wrongly behind the last field of an array. -/
def readArrayEnd : Items → Except ReadError Unit
  | .close => .ok ()
  | .stop fault =>
    .error (.malformed (if fault.read = .trailingComma ∨ fault.read = .endInList then fault.read
      else .trailingCharacters))
  | .item _ _ => .error (.malformed .trailingCharacters)

def lengthTitle (title : String) (n : Nat) : String := title ++ " with " ++ counted n "element"

/-- A record called `title` in complaints. -/
def readRecord {τ δ : Type} (title : String) (strangers : Strangers) (fs : Fields τ δ) :
    Document → Except ReadError τ
  | .array level items => do
    checkLevel level
    let (record, rest) ← fs.ofItems (lengthTitle title fs.names.length) 0 items
    readArrayEnd rest
    return record
  | .object level members => do
    checkLevel level
    let (state, _) ← fs.gather strangers fs.blank members
    fs.finish state
  | d => .error (mismatch title d)

/-- A type whose values are records of `fs` that `into` accepts. -/
def Codec.record {α τ δ : Type} (title : String) (strangers : Strangers) (fs : Fields τ δ)
    (out : α → τ) (into : τ → Except ReadError α) : Codec α where
  write a := .object (fs.write (out a))
  read d := do into (← readRecord title strangers fs d)

/-- A named alternative with fields. -/
def Variant.record {α τ δ : Type} (name title : String) (fs : Fields τ δ) (into : τ → α) :
    Variant α :=
  ⟨name, none, fun d => do return into (← readRecord title .skip fs d)⟩

end Json
end PullDecoration
