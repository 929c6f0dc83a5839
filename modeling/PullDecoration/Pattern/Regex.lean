import PullDecoration.Pattern.CharSet

/-! Regular expressions with conditions on the place between two characters. A search goes through the
text once and keeps what may still follow of every match begun so far. -/
namespace PullDecoration
namespace Pattern

/-- A condition on a place, given the characters before and after it, if there are any. For words only
ASCII characters count where `unicode` is false. -/
inductive Look
  | textStart | textEnd
  | lineStart | lineEnd
  | crlfStart | crlfEnd
  | wordEdge (unicode : Bool) | noWordEdge (unicode : Bool)
  | wordStart (unicode : Bool) | wordEnd (unicode : Bool)
  | wordStartHalf (unicode : Bool) | wordEndHalf (unicode : Bool)
  deriving DecidableEq

def isWord (unicode : Bool) : Option Char → Bool
  | none => false
  | some c => if unicode then CharSet.word.mem c else CharSet.asciiWord.mem c

def Look.holds (before after : Option Char) : Look → Bool
  | .textStart => before.isNone
  | .textEnd => after.isNone
  | .lineStart => before.isNone || before = some '\n'
  | .lineEnd => after.isNone || after = some '\n'
  | .crlfStart => before.isNone || before = some '\n' || (before = some '\r' && after ≠ some '\n')
  | .crlfEnd => after.isNone || after = some '\r' || (after = some '\n' && before ≠ some '\r')
  | .wordEdge u => isWord u before != isWord u after
  | .noWordEdge u => isWord u before == isWord u after
  | .wordStart u => !isWord u before && isWord u after
  | .wordEnd u => isWord u before && !isWord u after
  | .wordStartHalf u => !isWord u before
  | .wordEndHalf u => !isWord u after

inductive Regex
  | empty
  | set (s : CharSet)
  | look (l : Look)
  | seq (a b : Regex)
  | alt (a b : Regex)
  | rep (a : Regex) (least : Nat) (most : Option Nat)
  deriving DecidableEq

namespace Regex

/-- Whether the expression matches the empty text at a place. -/
def nullable (before after : Option Char) : Regex → Bool
  | .empty => true
  | .set _ => false
  | .look l => l.holds before after
  | .seq a b => nullable before after a && nullable before after b
  | .alt a b => nullable before after a || nullable before after b
  | .rep a least _ => least = 0 || nullable before after a

def andThen (a b : Regex) : Regex := if a = .empty then b else .seq a b

/-- A repetition after one round. If the body may be empty, no more rounds are needed. -/
def fewer (a : Regex) (optional : Bool) (least : Nat) (most : Option Nat) : Regex :=
  .rep a (if optional then 0 else least - 1) (most.map (· - 1))

/-- What may follow a character at a place, so that the whole matches. -/
def after (before : Option Char) (c : Char) : Regex → List Regex
  | .empty | .look _ => []
  | .set s => if s.mem c then [.empty] else []
  | .seq a b =>
    (after before c a).map (andThen · b) ++
      if nullable before (some c) a then after before c b else []
  | .alt a b => after before c a ++ after before c b
  | .rep a least most =>
    if most = some 0 then []
    else (after before c a).map (andThen · (fewer a (nullable before (some c) a) least most))

/-- Whether a match ends here or further on, one that goes on as `active` says or a new one. -/
def search (r : Regex) (active : List Regex) (before : Option Char) : List Char → Bool
  | [] => (r :: active).any (nullable before none)
  | c :: cs =>
    (r :: active).any (nullable before (some c)) ||
      search r ((r :: active).flatMap (after before c)).eraseDups (some c) cs

/-- Whether the expression matches somewhere in the text. -/
def occursIn (r : Regex) (s : List Char) : Bool := search r [] none s

/-- The octets that an automaton for the expression needs, under the same assumption as for sets.
All that is proved of patterns takes this number only as what is held against the limit. -/
def weight : Regex → Nat
  | .empty => 0
  | .set s => s.weight
  | .look _ => 32
  | .seq a b => a.weight + b.weight
  | .alt a b => a.weight + b.weight + 48
  | .rep a least none => max least 1 * a.weight + 48
  | .rep a least (some most) => most * a.weight + (most - least) * 48

end Regex
end Pattern
end PullDecoration
