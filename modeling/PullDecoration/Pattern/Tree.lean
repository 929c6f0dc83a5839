/-! Patterns as written, flags and all. -/
namespace PullDecoration
namespace Pattern

inductive Flag
  | caseless | multiline | dotAll | swapGreed | unicode | crlf | spaced
  deriving DecidableEq

/-- Flags to set and flags to clear. -/
abbrev FlagChange := List (Flag × Bool)

def FlagChange.get? (change : FlagChange) (f : Flag) : Option Bool :=
  (change.find? (·.1 = f)).map (·.2)

inductive SetOp
  | intersection | difference | symmetricDifference
  deriving DecidableEq

inductive Shorthand
  | digit | space | word
  deriving DecidableEq

/-- How a Unicode class is asked for: by a letter, a name, or a property and its value. -/
inductive PropertyQuery
  | letter (c : Char)
  | name (s : String)
  | value (property value : String)
  deriving DecidableEq

/-- A character that is written out; `octet` if by two hexadecimal digits. -/
structure Sign where
  char : Char
  octet : Bool
  deriving DecidableEq

inductive ClassTree
  | none
  | sign (s : Sign)
  | range (low high : Sign)
  | posix (name : String) (negated : Bool)
  | shorthand (kind : Shorthand) (negated : Bool)
  | property (query : PropertyQuery) (negated : Bool)
  | bracket (negated : Bool) (inside : ClassTree)
  | union (items : List ClassTree)
  | op (op : SetOp) (left right : ClassTree)

inductive Anchor
  | lineStart | lineEnd | textStart | textEnd
  | wordEdge | noWordEdge | wordStart | wordEnd | wordStartHalf | wordEndHalf
  deriving DecidableEq

inductive Tree
  | empty
  | flags (change : FlagChange)
  | sign (s : Sign)
  | dot
  | anchor (a : Anchor)
  | cls (c : ClassTree)
  | repeated (body : Tree) (least : Nat) (most : Option Nat)
  | group (change : FlagChange) (body : Tree)
  | concat (items : List Tree)
  | alternation (items : List Tree)

/-- How deep brackets, unions and operations are nested. -/
def ClassTree.depth : ClassTree → Nat
  | .none | .sign _ | .range .. | .posix .. | .shorthand .. | .property .. => 0
  | .bracket _ inside => inside.depth + 1
  | .union items => depths items + 1
  | .op _ left right => max left.depth right.depth + 1
where
  /-- The greatest depth of the items. -/
  depths : List ClassTree → Nat
    | [] => 0
    | c :: cs => max c.depth (depths cs)

def Tree.depth : Tree → Nat
  | .empty | .flags _ | .sign _ | .dot | .anchor _ => 0
  | .cls c => c.depth
  | .repeated body _ _ | .group _ body => body.depth + 1
  | .concat items | .alternation items => depths items + 1
where
  /-- The greatest depth of the items. -/
  depths : List Tree → Nat
    | [] => 0
    | t :: ts => max t.depth (depths ts)

def ClassTree.ofUnion : List ClassTree → ClassTree
  | [] => .none
  | [c] => c
  | cs => .union cs

def Tree.ofConcat : List Tree → Tree
  | [] => .empty
  | [t] => t
  | ts => .concat ts

def Tree.ofAlternatives : List Tree → Tree
  | [] => .empty
  | [t] => t
  | ts => .alternation ts

end Pattern
end PullDecoration
