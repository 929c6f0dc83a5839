import PullDecoration.Json.Document

/-! JSON values that are written, and their two layouts: on one line without blanks, and with a line
for every item, two blanks deeper at each level. -/
namespace PullDecoration
namespace Json

inductive Value
  | null
  | bool (b : Bool)
  | number (n : Nat)
  | string (s : String)
  | array (items : List Value)
  | object (members : List (String × Value))

/-- Quotes, backslashes and characters below the blank are escaped, all others stand for themselves. -/
def escapeChar (c : Char) : List Char :=
  if c = '"' then ['\\', '"']
  else if c = '\\' then ['\\', '\\']
  else if c = '\x08' then ['\\', 'b']
  else if c = '\x0c' then ['\\', 'f']
  else if c = '\n' then ['\\', 'n']
  else if c = '\r' then ['\\', 'r']
  else if c = '\t' then ['\\', 't']
  else if c < ' ' then
    ['\\', 'u', '0', '0', Text.lowerHexDigit (c.toNat / 16), Text.lowerHexDigit c.toNat]
  else [c]

def quote (s : String) : List Char := '"' :: (s.toList.flatMap escapeChar ++ ['"'])

namespace Value

mutual

def compact : Value → List Char
  | .null => ['n', 'u', 'l', 'l']
  | .bool true => ['t', 'r', 'u', 'e']
  | .bool false => ['f', 'a', 'l', 's', 'e']
  | .number n => Text.decimal n
  | .string s => quote s
  | .array [] => ['[', ']']
  | .array (v :: vs) => '[' :: (compact v ++ compactItems vs)
  | .object [] => ['{', '}']
  | .object ((k, v) :: ms) => '{' :: (quote k ++ ':' :: (compact v ++ compactMembers ms))

def compactItems : List Value → List Char
  | [] => [']']
  | v :: vs => ',' :: (compact v ++ compactItems vs)

def compactMembers : List (String × Value) → List Char
  | [] => ['}']
  | (k, v) :: ms => ',' :: (quote k ++ ':' :: (compact v ++ compactMembers ms))

end

def newline (depth : Nat) : List Char := '\n' :: List.replicate (2 * depth) ' '

mutual

/-- The value with a line for every item, its own items at `depth + 1`. -/
def pretty (depth : Nat) : Value → List Char
  | .array [] => ['[', ']']
  | .array (v :: vs) => '[' :: (newline (depth + 1) ++ pretty (depth + 1) v ++ prettyItems depth vs)
  | .object [] => ['{', '}']
  | .object ((k, v) :: ms) =>
    '{' :: (newline (depth + 1) ++ quote k ++ ':' :: ' ' :: (pretty (depth + 1) v ++
      prettyMembers depth ms))
  | .null => compact .null
  | .bool b => compact (.bool b)
  | .number n => compact (.number n)
  | .string s => compact (.string s)

def prettyItems (depth : Nat) : List Value → List Char
  | [] => newline depth ++ [']']
  | v :: vs => ',' :: (newline (depth + 1) ++ pretty (depth + 1) v ++ prettyItems depth vs)

def prettyMembers (depth : Nat) : List (String × Value) → List Char
  | [] => newline depth ++ ['}']
  | (k, v) :: ms =>
    ',' :: (newline (depth + 1) ++ quote k ++ ':' :: ' ' :: (pretty (depth + 1) v ++
      prettyMembers depth ms))

end

def text (v : Value) : String := String.ofList v.compact

def prettyText (v : Value) : String := String.ofList (v.pretty 0)

mutual

/-- The tree that reading the written value yields inside `level` arrays and objects. -/
def document (level : Nat) : Value → Document
  | .null => .null
  | .bool b => .bool b
  | .number n => .number (.ofNat n)
  | .string s => .string (.ofString s)
  | .array vs => .array (level + 1) (documentItems (level + 1) vs)
  | .object ms => .object (level + 1) (documentMembers (level + 1) ms)

def documentItems (level : Nat) : List Value → Items
  | [] => .close
  | v :: vs => .item (document level v) (documentItems level vs)

def documentMembers (level : Nat) : List (String × Value) → Members
  | [] => .close
  | (k, v) :: ms => .member (.ofString k) (document level v) (documentMembers level ms)

end

end Value
end Json
end PullDecoration
