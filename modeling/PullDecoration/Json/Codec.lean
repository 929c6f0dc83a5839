import PullDecoration.Json.Parser
import PullDecoration.Json.ReadError
import PullDecoration.Json.Value

/-! What a type writes as JSON and what it accepts. A codec reads a tree from left to right and reports
the first thing in it that it does not accept. -/
namespace PullDecoration
namespace Json

structure Codec (α : Type) where
  write : α → Value
  read : Document → Except ReadError α

def readLiteral (s : Literal) : Except ReadError String :=
  match s.read with
  | .ok text => .ok text
  | .error e => .error (.malformed e)

/-- The complaint about a value of the wrong type; a value that is not JSON either is reported as such. -/
def mismatch (expected : String) : Document → ReadError
  | .null => .invalidType .null expected
  | .bool b => .invalidType (.bool b) expected
  | .number n => match n.number with
    | .ok x => .invalidType x.found expected
    | .error e => .malformed e
  | .string s => match s.read with
    | .ok text => .invalidType (.string text) expected
    | .error e => .malformed e
  | .array _ _ => .invalidType .sequence expected
  | .object _ _ => .invalidType .map expected
  | .broken fault => .malformed fault.read
  | .nothing => .malformed .endInValue

def checkLevel (level : Nat) : Except ReadError Unit :=
  if readableLevels < level then .error (.malformed .nestedTooDeep) else .ok ()

def skip (d : Document) : Except ReadError Unit := d.skip.mapError .malformed

mutual

/-- Accepts any JSON value, and reads all of it. -/
def Document.check : Document → Except ReadError Unit
  | .null | .bool _ => .ok ()
  | .number n => match n.number with
    | .ok _ => .ok ()
    | .error e => .error (.malformed e)
  | .string s => do let _ ← readLiteral s
  | .array level items => do checkLevel level; items.check
  | .object level members => do checkLevel level; members.check
  | .broken fault => .error (.malformed fault.read)
  | .nothing => .error (.malformed .endInValue)

def Items.check : Items → Except ReadError Unit
  | .close => .ok ()
  | .stop fault => .error (.malformed fault.read)
  | .item head rest => do head.check; rest.check

def Members.check : Members → Except ReadError Unit
  | .close => .ok ()
  | .stop fault => .error (.malformed fault.read)
  | .misfit _ => .error (.malformed .keyNotString)
  | .member key value rest => do
    let _ ← readLiteral key
    value.check
    rest.check

end

/-- What the codec reads from a text that holds one value and blanks around it. -/
def Codec.decode {α : Type} (c : Codec α) (s : String) : Except ReadError α := do
  let (d, ended) := parse s
  let a ← c.read d
  if ended then return a else throw (.malformed .trailingCharacters)

def Codec.encode {α : Type} (c : Codec α) (a : α) : String := (c.write a).text

def readBool : Document → Except ReadError Bool
  | .bool b => .ok b
  | d => .error (mismatch "a boolean" d)

def readString (expected : String) : Document → Except ReadError String
  | .string s => readLiteral s
  | d => .error (mismatch expected d)

/-- A natural number below `bound`; `kind` names such numbers. -/
def readNatural (bound : Nat) (kind : String) : Document → Except ReadError Nat
  | .number n => match n.number with
    | .ok (.natural k) =>
      if k < bound then .ok k else .error (.invalidValue (.natural k) kind)
    | .ok (.negative k) => .error (.invalidValue (.negative k) kind)
    | .ok (.real x) => .error (.invalidType (.real x) kind)
    | .error e => .error (.malformed e)
  | d => .error (mismatch kind d)

def readUnit : Document → Except ReadError Unit
  | .null => .ok ()
  | d => .error (mismatch "unit" d)

/-- Every item in turn. -/
def readItems {α : Type} (read : Document → Except ReadError α) : Items → Except ReadError (List α)
  | .close => .ok []
  | .stop fault => .error (.malformed fault.read)
  | .item head rest => do
    let a ← read head
    let as ← readItems read rest
    return a :: as

def readList {α : Type} (read : Document → Except ReadError α) :
    Document → Except ReadError (List α)
  | .array level items => do checkLevel level; readItems read items
  | d => .error (mismatch "a sequence" d)

def readOption {α : Type} (read : Document → Except ReadError α) :
    Document → Except ReadError (Option α)
  | .null => .ok none
  | d => do return some (← read d)

namespace Codec

def bool : Codec Bool := ⟨.bool, readBool⟩

def string : Codec String := ⟨.string, readString "a string"⟩

/-- Naturals below `bound`, which are called `kind`. -/
def natural (bound : Nat) (kind : String) : Codec Nat := ⟨.number, readNatural bound kind⟩

def u16 : Codec UInt16 :=
  ⟨fun n => .number n.toNat, fun d => (readNatural UInt16.size "u16" d).map .ofNat⟩

def u32 : Codec UInt32 :=
  ⟨fun n => .number n.toNat, fun d => (readNatural UInt32.size "u32" d).map .ofNat⟩

def u64 : Codec UInt64 :=
  ⟨fun n => .number n.toNat, fun d => (readNatural UInt64.size "u64" d).map .ofNat⟩

variable {α β : Type}

/-- Null stands for none. -/
def option (c : Codec α) : Codec (Option α) :=
  ⟨fun a? => a?.elim .null c.write, readOption c.read⟩

def list (c : Codec α) : Codec (List α) := ⟨fun as => .array (as.map c.write), readList c.read⟩

/-- The values of `β` that `into` accepts, as values of `α`. -/
def refine (c : Codec β) (out : α → β) (into : β → Except String α) : Codec α where
  write a := c.write (out a)
  read d := do
    let b ← c.read d
    (into b).mapError .refused

end Codec

/-- A named alternative: what its bare name means, if that is enough, and how the value is read that
stands behind the name as the only member of an object. -/
structure Variant (α : Type) where
  name : String
  bare : Option α
  payload : Document → Except ReadError α

def Variant.unit {α : Type} (name : String) (a : α) : Variant α :=
  ⟨name, some a, fun d => do readUnit d; return a⟩

def findVariant {α : Type} (variants : List (Variant α)) (name : String) :
    Except ReadError (Variant α) :=
  match variants.find? (·.name = name) with
  | some v => .ok v
  | none => .error (.unknownVariant name (variants.map (·.name)))

/-- An object of one member ends behind it. -/
def readOnly : Members → Except ReadError Unit
  | .close => .ok ()
  | .stop fault =>
    .error (.malformed (if fault = .both .endInObject then .endInObject else .valueExpected))
  | .misfit _ | .member .. => .error (.malformed .valueExpected)

def readVariant {α : Type} (variants : List (Variant α)) : Document → Except ReadError α
  | .string s => do
    let v ← findVariant variants (← readLiteral s)
    match v.bare with
    | some a => return a
    | none => throw (.invalidType .unitVariant "struct variant")
  | .object level members => do
    checkLevel level
    match members with
    | .close => throw (.malformed .valueExpected)
    | .stop _ => throw (.malformed .endInValue)
    | .misfit found => throw (mismatch "variant identifier" found)
    | .member key value rest =>
      let v ← findVariant variants (← readLiteral key)
      let a ← v.payload value
      readOnly rest
      return a
  | .nothing => .error (.malformed .endInValue)
  | _ => .error (.malformed .valueExpected)

/-- A type of constants, each known by the names that `names` gives it and written as `name`. -/
def Codec.ofNames {α : Type} (names : List (String × α)) (name : α → String) : Codec α where
  write a := .string (name a)
  read := readVariant (names.map fun p => .unit p.1 p.2)

end Json
end PullDecoration
