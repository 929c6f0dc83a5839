import PullDecoration.Text.Blank
import PullDecoration.Unicode.Fold
import PullDecoration.Unicode.Property

/-! Sets of characters as patterns describe them. -/
namespace PullDecoration
namespace Pattern

inductive CharSet
  | none
  | range (low high : Char)
  | categories (cs : List Unicode.Category)
  | script (code : String)
  | runs (ends : Array Nat)
  | blank
  | word
  | not (s : CharSet)
  | union (s t : CharSet)
  | inter (s t : CharSet)
  | caseless (s : CharSet)
  | asciiCaseless (s : CharSet)
  deriving DecidableEq

namespace CharSet

def asciiVariants (c : Char) : List Char := [c, c.toLower, c.toUpper]

def mem (c : Char) : CharSet → Bool
  | .none => false
  | .range low high => low ≤ c && c ≤ high
  | .categories cs => Unicode.category c ∈ cs
  | .script code => Unicode.script c = code
  | .runs ends => Unicode.insideRuns ends c.toNat
  | .blank => Text.isBlankChar c
  | .word => Unicode.isWordChar c
  | .not s => !mem c s
  | .union s t => mem c s || mem c t
  | .inter s t => mem c s && mem c t
  | .caseless s => (c :: Unicode.caseVariants c).any fun d => mem d s
  | .asciiCaseless s => (asciiVariants c).any fun d => mem d s

def single (c : Char) : CharSet := .range c c

def all : CharSet := .not .none

def allBut (c : Char) : CharSet := .not (single c)

def unions (ss : List CharSet) : CharSet := ss.foldr .union .none

def diff (s t : CharSet) : CharSet := .inter s (.not t)

def symmDiff (s t : CharSet) : CharSet := .union (diff s t) (diff t s)

def digit : CharSet := .range '0' '9'

def lower : CharSet := .range 'a' 'z'

def upper : CharSet := .range 'A' 'Z'

def alpha : CharSet := .union lower upper

def alnum : CharSet := .union digit alpha

def asciiWord : CharSet := .union alnum (single '_')

def asciiBlank : CharSet := .union (.range '\t' '\r') (single ' ')

def punct : CharSet :=
  unions [.range '!' '/', .range ':' '@', .range '[' (Char.ofNat 0x60), .range (Char.ofNat 0x7b) '~']

/-- The named sets of ASCII characters. -/
def posix? : String → Option CharSet
  | "alnum" => some alnum
  | "alpha" => some alpha
  | "ascii" => some (.range '\x00' '\x7f')
  | "blank" => some (.union (single '\t') (single ' '))
  | "cntrl" => some (.union (.range '\x00' '\x1f') (single '\x7f'))
  | "digit" => some digit
  | "graph" => some (.range '!' '~')
  | "lower" => some lower
  | "print" => some (.range ' ' '~')
  | "punct" => some punct
  | "space" => some asciiBlank
  | "upper" => some upper
  | "word" => some asciiWord
  | "xdigit" => some (unions [digit, .range 'a' 'f', .range 'A' 'F'])
  | _ => none

/-- The octets that an automaton needs for the set. This is an assumption: engines count the
automaton that they build, so a pattern close to the limit may be judged otherwise by one of them. -/
def weight : CharSet → Nat
  | .none => 32
  | .range _ high => if high ≤ '\x7f' then 32 else 256
  | .categories _ | .script _ => 4096
  | .runs ends => 24 * ends.size
  | .blank => 512
  | .word => 16384
  | .not s => s.weight + 256
  | .union s t | .inter s t => s.weight + t.weight
  | .caseless s | .asciiCaseless s => 2 * s.weight

@[simp] theorem mem_single (c d : Char) : (single d).mem c = decide (c = d) := by
  simp only [single, mem]
  by_cases h : c = d
  · simp [h]
  · have : ¬ (d ≤ c ∧ c ≤ d) := fun ⟨h1, h2⟩ => h (Char.le_antisymm h2 h1)
    simp_all

@[simp] theorem mem_allBut (c d : Char) : (allBut d).mem c = !decide (c = d) := by
  simp [allBut, mem]

end CharSet
end Pattern
end PullDecoration
