import PullDecoration.Json.Record

/-! Alternatives told apart by one member of their object, the tag. The other members may stand before
the tag, so all of them are read as plain JSON first and then once more as fields. -/
namespace PullDecoration
namespace Json

/-- An alternative: the tag's text and how the members beside the tag are read. -/
structure Alternative (α : Type) where
  name : String
  payload : Document → Except ReadError α

def Items.count : Items → Nat
  | .item _ rest => rest.count + 1
  | .close | .stop _ => 0

/-- The end of a list that is already read as plain JSON. -/
def noneLeft (read : Nat) (rest : Items) : Except ReadError Unit :=
  if rest.count = 0 then .ok ()
  else .error (.invalidLength (read + rest.count) (counted read "element" ++ " in sequence"))

def Alternative.unit {α : Type} (name : String) (a : α) : Alternative α where
  name
  payload
    | .array _ items => do noneLeft 0 items; return a
    | _ => .ok a

def Alternative.record {α τ δ : Type} (name title : String) (fs : Fields τ δ) (into : τ → α) :
    Alternative α where
  name
  payload
    | .array _ items => do
      let (record, rest) ← fs.ofItems (lengthTitle title fs.names.length) 0 items
      noneLeft fs.names.length rest
      return into record
    | d => do return into (← readRecord title .skip fs d)

def findAlternative {α : Type} (alternatives : List (Alternative α)) (name : String) :
    Except ReadError (Alternative α) :=
  match alternatives.find? (·.name = name) with
  | some a => .ok a
  | none => .error (.unknownVariant name (alternatives.map (·.name)))

def tagKind : String := "variant identifier"

def readTag {α : Type} (alternatives : List (Alternative α)) (d : Document) :
    Except ReadError (Alternative α) := do
  findAlternative alternatives (← readString tagKind d)

/-- A tag among members that were kept for later may also be the alternative's number. -/
def readKeptTag {α : Type} (alternatives : List (Alternative α)) :
    Document → Except ReadError (Alternative α)
  | .number n => match n.number with
    | .ok (.natural k) =>
      match alternatives[k]? with
      | some a => .ok a
      | none => .error (.invalidValue (.natural k)
          ("variant index 0 <= i < " ++ String.ofList (Text.decimal alternatives.length)))
    | .ok x => .error (.invalidType x.found tagKind)
    | .error e => .error (.malformed e)
  | d => readTag alternatives d

def Members.ofList : List (String × Document) → Members
  | [] => .close
  | (key, value) :: rest => .member (.ofString key) value (ofList rest)

/-- Finds the tag among the members and keeps the others. -/
def splitTag {β : Type} (tag : String) (read : Document → Except ReadError β) :
    Option β → Members → Except ReadError (Option β × List (String × Document))
  | found, .close => .ok (found, [])
  | _, .stop fault => .error (.malformed fault.read)
  | _, .misfit _ => .error (.malformed .keyNotString)
  | found, .member key value rest => do
    let name ← readLiteral key
    if name = tag then
      match found with
      | some _ => throw (.duplicateField tag)
      | none => splitTag tag read (some (← read value)) rest
    else
      value.check
      let (found, others) ← splitTag tag read found rest
      return (found, (name, value) :: others)

def readTaggedMembers {α : Type} (tag : String) (read : Document → Except ReadError (Alternative α))
    (members : Members) : Except ReadError α := do
  let (found, others) ← splitTag tag read none members
  match found with
  | some a => a.payload (.object 0 (.ofList others))
  | none => throw (.missingField tag)

/-- Alternatives of a type called `name`, as an object, or as an array that starts with the tag. -/
def readTagged {α : Type} (tag name : String) (alternatives : List (Alternative α)) :
    Document → Except ReadError α
  | .array level items => do
    checkLevel level
    match items with
    | .close => throw (.missingField tag)
    | .stop fault => throw (.malformed fault.read)
    | .item head rest =>
      let a ← readTag alternatives head
      rest.check
      a.payload (.array 0 rest)
  | .object level members => do
    checkLevel level
    readTaggedMembers tag (readTag alternatives) members
  | d => .error (mismatch ("internally tagged enum " ++ name) d)

/-- A record among whose members stand those of an alternative. -/
def readWithTagged {α τ δ : Type} (title : String) (fs : Fields τ δ) (tag : String)
    (alternatives : List (Alternative α)) : Document → Except ReadError (τ × α)
  | .object level members => do
    checkLevel level
    let (state, others) ← fs.gather .keep fs.blank members
    let record ← fs.finish state
    let a ← readTaggedMembers tag (readKeptTag alternatives) (.ofList others)
    return (record, a)
  | d => .error (mismatch title d)

end Json
end PullDecoration
