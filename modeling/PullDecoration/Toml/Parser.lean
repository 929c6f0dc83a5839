import PullDecoration.Toml.Scalar

/-! TOML documents, line by line: keys with values, and headers of tables. -/
namespace PullDecoration
namespace Toml

/-- The text behind a comment, or the text itself. -/
def skipComment (cs : List Char) : List Char :=
  match cs with
  | '#' :: cs => cs.dropWhile isLineChar
  | _ => cs

/-- Drops blanks, comments and line ends. -/
def skipLines : Nat → List Char → Except TomlError (List Char)
  | 0, cs => .ok cs
  | fuel + 1, cs =>
    match skipBlank cs with
    | '#' :: cs => match lineEnd? (cs.dropWhile isLineChar) with
      | some cs => skipLines fuel cs
      | none => .error .unexpected
    | cs => match lineEnd? cs with
      | some cs => skipLines fuel cs
      | none => if cs.head? = some '\r' then .error .unexpected else .ok cs

def skipSpace (cs : List Char) : Except TomlError (List Char) := skipLines (cs.length + 1) cs

mutual

/-- A value with `depth` levels below it still to use. -/
def value : Nat → Nat → List Char → Except TomlError (Value × List Char)
  | 0, _, _ => .error .unexpected
  | fuel + 1, depth, cs =>
    match cs with
    | '"' :: _ | '\'' :: _ => do
      let (s, cs) ← string cs
      return (.string s, cs)
    | '[' :: cs => if depth = 0 then .error .nestedTooDeep else items fuel (depth - 1) [] cs
    | '{' :: cs => if depth = 0 then .error .nestedTooDeep else inlineTable fuel (depth - 1) cs
    | 't' :: 'r' :: 'u' :: 'e' :: cs => .ok (.boolean true, cs)
    | 'f' :: 'a' :: 'l' :: 's' :: 'e' :: cs => .ok (.boolean false, cs)
    | 'i' :: 'n' :: 'f' :: cs | 'n' :: 'a' :: 'n' :: cs => .ok (.float, cs)
    | c :: _ => if c = '+' ∨ c = '-' ∨ c.isDigit then number cs else .error .unexpected
    | [] => .error .unexpected

/-- Items of an array up to its bracket; `acc` holds those before in reverse. -/
def items : Nat → Nat → List Value → List Char → Except TomlError (Value × List Char)
  | 0, _, _, _ => .error .unexpected
  | fuel + 1, depth, acc, cs => do
    match ← skipSpace cs with
    | ']' :: cs => return (.array acc.reverse, cs)
    | cs =>
      let (v, cs) ← value fuel depth cs
      match ← skipSpace cs with
      | ',' :: cs => items fuel depth (v :: acc) cs
      | ']' :: cs => return (.array (v :: acc).reverse, cs)
      | _ => throw .unexpected

def inlineTable : Nat → Nat → List Char → Except TomlError (Value × List Char)
  | 0, _, _ => .error .unexpected
  | fuel + 1, depth, cs =>
    match skipBlank cs with
    | '}' :: cs => .ok (.table [], cs)
    | cs => inlineEntries fuel depth [] cs

/-- Entries of a table in braces. -/
def inlineEntries : Nat → Nat → Entries → List Char → Except TomlError (Value × List Char)
  | 0, _, _, _ => .error .unexpected
  | fuel + 1, depth, t, cs => do
    let ((path, last), cs) ← key cs
    let '=' :: cs := cs | throw .unexpected
    let (v, cs) ← value fuel depth (skipBlank cs)
    let t ← t.addAt path last v .implied
    match skipBlank cs with
    | ',' :: cs => inlineEntries fuel depth t cs
    | '}' :: cs => return (.table (finishedEntries t), cs)
    | _ => throw .unexpected

end

/-- The text behind the rest of a line on which nothing but a comment may stand. -/
def endLine (cs : List Char) : Except TomlError (List Char) :=
  match skipComment (skipBlank cs) with
  | [] => .ok []
  | cs => match lineEnd? cs with
    | some cs => .ok cs
    | none => .error .unexpected

/-- A document in the making: all tables, and the path of the one that lines add to. -/
structure State where
  root : Entries
  current : List String

namespace State

def header (s : State) (path : List String) (last : String)
    (f : String → Origin → Entries → Except TomlError Entries) : Except TomlError State := do
  let root ← Entries.change false (f last) path .header s.root
  return ⟨root, path ++ [last]⟩

/-- Adds a value to the current table. -/
def addAt (s : State) (path : List String) (last : String) (v : Value) : Except TomlError State := do
  let root ← Entries.change false (fun origin t => t.addAt path last v origin) s.current .header s.root
  return { s with root }

end State

/-- Lines up to the end of the text. -/
def lines : Nat → State → List Char → Except TomlError State
  | 0, _, _ => .error .unexpected
  | fuel + 1, s, cs => do
    match skipBlank cs with
    | [] => return s
    | '[' :: '[' :: cs =>
      let ((path, last), cs) ← key cs
      let ']' :: ']' :: cs := cs | throw .unexpected
      let s ← s.header path last Entries.openItem
      lines fuel s (← endLine cs)
    | '[' :: cs =>
      let ((path, last), cs) ← key cs
      let ']' :: cs := cs | throw .unexpected
      let s ← s.header path last Entries.openTable
      lines fuel s (← endLine cs)
    | cs =>
      if cs.head? = some '#' ∨ (lineEnd? cs).isSome then lines fuel s (← endLine cs)
      else
        let ((path, last), cs) ← key cs
        let '=' :: cs := cs | throw .unexpected
        let (v, cs) ← value (2 * cs.length + 2) (depthLimit - 1) (skipBlank cs)
        let cs ← endLine cs
        lines fuel (← s.addAt path last v) cs

/-- The root table of a document. A byte order mark may stand before it. -/
def parse (s : String) : Except TomlError (List (String × Value)) := do
  let cs := match s.toList with
    | '\ufeff' :: cs => cs
    | cs => cs
  let state ← lines (cs.length + 1) ⟨[], []⟩ cs
  return finishedEntries state.root

end Toml
end PullDecoration
