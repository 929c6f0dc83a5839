/-! TOML values, and tables while they are being written. A table may be opened by its own header, arise
on the way to another table, or arise from a dotted key; which of these decides who may add to it. -/
namespace PullDecoration
namespace Toml

inductive TomlError
  | unexpected
  | invalidEscape
  | numberOutOfRange
  | dateOutOfRange
  | nestedTooDeep
  | duplicateKey (key : String)
  | notATable (key : String)
  | wrongType (expected : String)
  | missing (index : Nat)
  | unknownKey (key : String)
  deriving DecidableEq, Repr

namespace TomlError

def cause : TomlError → String
  | unexpected => "invalid syntax"
  | invalidEscape => "invalid escape sequence"
  | numberOutOfRange => "number too large to fit in target type"
  | dateOutOfRange => "value is out of range"
  | nestedTooDeep => "recursion limit exceeded"
  | duplicateKey key => "duplicate key " ++ key
  | notATable key => "dotted key " ++ key ++ " attempted to extend a value"
  | wrongType expected => "invalid type, expected " ++ expected
  | missing index => "invalid length " ++ toString index
  | unknownKey key => "unknown field " ++ key

def message (e : TomlError) : String := "TOML parse error: " ++ e.cause

end TomlError

/-- Values; of floating point numbers, dates and times no more is kept than that they are there. -/
inductive Value
  | string (s : String)
  | integer (n : Int)
  | boolean (b : Bool)
  | float
  | moment
  | array (items : List Value)
  | table (entries : List (String × Value))

/-- A table's origin. -/
inductive Origin
  | header | implied | dotted
  deriving DecidableEq

inductive Node
  | value (v : Value)
  | table (origin : Origin) (entries : List (String × Node))
  | tables (earlier : List (List (String × Node))) (last : List (String × Node))

abbrev Entries := List (String × Node)

mutual

def Node.finished : Node → Value
  | .value v => v
  | .table _ entries => .table (finishedEntries entries)
  | .tables earlier last =>
    .array (finishedTables earlier ++ [.table (finishedEntries last)])

def finishedEntries : List (String × Node) → List (String × Value)
  | [] => []
  | (key, n) :: rest => (key, n.finished) :: finishedEntries rest

def finishedTables : List (List (String × Node)) → List Value
  | [] => []
  | t :: ts => .table (finishedEntries t) :: finishedTables ts

end

namespace Entries

def lookup? (t : Entries) (key : String) : Option Node :=
  (List.find? (fun e => e.1 = key) t).map (·.2)

/-- Puts the node in the place of the one with this key, or at the end. -/
def put (t : Entries) (key : String) (n : Node) : Entries :=
  if t.any (·.1 = key) then t.map fun e => if e.1 = key then (key, n) else e
  else t ++ [(key, n)]

/-- Changes the table at the end of a path, which arises where it is missing. Dotted keys do not lead
through tables that have a header. -/
def change (dotted : Bool) (f : Origin → Entries → Except TomlError Entries) :
    List String → Origin → Entries → Except TomlError Entries
  | [], origin, t => f origin t
  | key :: path, _, t =>
    match t.lookup? key with
    | none => do
      let origin := if dotted then .dotted else .implied
      return t.put key (.table origin (← change dotted f path origin []))
    | some (.value _) => .error (.notATable key)
    | some (.tables earlier last) => do
      return t.put key (.tables earlier (← change dotted f path .header last))
    | some (.table origin entries) =>
      if dotted ∧ origin = .header then .error (.duplicateKey key)
      else do return t.put key (.table origin (← change dotted f path origin entries))

/-- Adds a value to a table. Dotted keys end in tables that dotted keys have made, plain ones do not. -/
def add (viaPath : Bool) (key : String) (v : Value) (origin : Origin) (t : Entries) :
    Except TomlError Entries :=
  if viaPath ≠ (origin = .dotted : Bool) then .error (.duplicateKey key)
  else if (t.lookup? key).isSome then .error (.duplicateKey key)
  else .ok (t.put key (.value v))

/-- Adds a value behind a dotted key. -/
def addAt (path : List String) (key : String) (v : Value) (origin : Origin) (t : Entries) :
    Except TomlError Entries :=
  change true (add (!path.isEmpty) key v) path origin t

/-- Opens a table by its header. -/
def openTable (key : String) (_ : Origin) (t : Entries) : Except TomlError Entries :=
  match t.lookup? key with
  | none => .ok (t.put key (.table .header []))
  | some (.table .implied entries) => .ok (t.put key (.table .header entries))
  | some _ => .error (.duplicateKey key)

/-- Opens one more table of an array of tables. -/
def openItem (key : String) (_ : Origin) (t : Entries) : Except TomlError Entries :=
  match t.lookup? key with
  | none => .ok (t.put key (.tables [] []))
  | some (.tables earlier last) => .ok (t.put key (.tables (earlier ++ [last]) []))
  | some _ => .error (.duplicateKey key)

end Entries
end Toml
end PullDecoration
