import Std.Data.HashMap
import PullDecoration.Unicode.Runs
import PullDecoration.Unicode.FoldTable

/-! Characters that are the same but for their case. -/
namespace PullDecoration
namespace Unicode

/-- The pairs of an entry `a+d*n` or `a+d*n/2`. -/
def entryPairs (entry : List Char) : List (List Nat) :=
  match Text.cut? '+' entry with
  | none => []
  | some (first, rest) => match Text.cut? '*' rest with
    | none => []
    | some (distance, rest) =>
      let (count, step) := match Text.cut? '/' rest with
        | some (count, _) => (count, 2)
        | none => (rest, 1)
      (List.range (hexOrZero count)).map fun k =>
        let a := hexOrZero first + step * k
        [a, a + hexOrZero distance]

def foldClasses : List (List Nat) :=
  (entries casePairs).flatMap entryPairs ++
    (entries caseClasses).map fun w => (Text.parts '~' w).map hexOrZero

def foldTable : Std.HashMap Nat (List Nat) :=
  foldClasses.foldl (fun m cs => cs.foldl (fun m c => m.insert c cs) m) ∅

/-- The characters that `c` equals when case is ignored, `c` among them. -/
def caseVariants (c : Char) : List Char :=
  match foldTable[c.toNat]? with
  | some cs => cs.map Char.ofNat
  | none => [c]

end Unicode
end PullDecoration
