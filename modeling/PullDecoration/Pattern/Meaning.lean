import PullDecoration.Pattern.Error
import PullDecoration.Pattern.Regex
import PullDecoration.Pattern.Tree

/-! The regular expression that a pattern means under its flags. Without the Unicode flag classes hold
ASCII characters only, and what could match parts of a character is refused. -/
namespace PullDecoration
namespace Pattern

structure Flags where
  caseless : Bool
  multiline : Bool
  dotAll : Bool
  unicode : Bool
  crlf : Bool
  deriving DecidableEq

def Flags.initial : Flags := ⟨false, false, false, true, false⟩

def Flags.change (f : Flags) (c : FlagChange) : Flags where
  caseless := (c.get? .caseless).getD f.caseless
  multiline := (c.get? .multiline).getD f.multiline
  dotAll := (c.get? .dotAll).getD f.dotAll
  unicode := (c.get? .unicode).getD f.unicode
  crlf := (c.get? .crlf).getD f.crlf

/-- Lower case without blanks, hyphens and underscores, and without `is` at the start. -/
def looseName (s : String) : String :=
  let cs := s.toList
  let (cs, is) := match cs with
    | a :: b :: rest =>
      if a.toLower = 'i' ∧ b.toLower = 's' then (rest, true) else (cs, false)
    | _ => (cs, false)
  let kept := cs.filter fun c => c.toNat < 128 && c ≠ ' ' && c ≠ '_' && c ≠ '-'
  let name := kept.map Char.toLower
  if is ∧ name = ['c'] then "isc" else String.ofList name

def categorySet? (name : String) : Option CharSet :=
  match name with
  | "any" => some .all
  | "assigned" => some (.not (.categories [.unassigned]))
  | "ascii" => some (.range '\x00' '\x7f')
  | _ => (Unicode.categoriesNamed? name).map .categories

def scriptSet? (name : String) : Option CharSet := (Unicode.scriptNamed? name).map .script

/-- Names that are those of categories although properties have them too. -/
def categoryFirst : List String := ["cf", "sc", "lc"]

def namedSet (s : String) : Except PatternError CharSet :=
  let name := looseName s
  let property := if name ∈ categoryFirst then none else (Unicode.propertyNamed? name).map .runs
  match (property.or (categorySet? name)).or (scriptSet? name) with
  | some set => .ok set
  | none => .error .propertyUnknown

/-- A query with a value is one for a general category or a script. What Unicode says of age, script
extensions and breaks (`Age`, `scx`, `gcb`, `wb`, `sb`) is left out, so that a pattern which asks
for it is refused here although engines with those tables take it. -/
def propertySet : PropertyQuery → Except PatternError CharSet
  | .letter c => namedSet (String.singleton c)
  | .name s => namedSet s
  | .value property value =>
    let found := match looseName property with
      | "gc" | "generalcategory" => some (categorySet? (looseName value))
      | "sc" | "script" => some (scriptSet? (looseName value))
      | _ => none
    match found with
    | some (some set) => .ok set
    | some none => .error .propertyValueUnknown
    | none => .error .propertyUnknown

namespace Flags

def fold (f : Flags) (s : CharSet) : CharSet :=
  if !f.caseless then s else if f.unicode then .caseless s else .asciiCaseless s

/-- Case is ignored before the class is negated. -/
def foldAndNegate (f : Flags) (negated : Bool) (s : CharSet) : Except PatternError CharSet :=
  if !negated then .ok (f.fold s)
  else if f.unicode then .ok (.not (f.fold s))
  else .error .invalidUtf8

def shorthandSet (f : Flags) (kind : Shorthand) (negated : Bool) : Except PatternError CharSet :=
  let set := match kind, f.unicode with
    | .digit, true => .categories [.decimalNumber]
    | .space, true => .blank
    | .word, true => .word
    | .digit, false => .digit
    | .space, false => .asciiBlank
    | .word, false => .asciiWord
  if !negated then .ok set else if f.unicode then .ok (.not set) else .error .invalidUtf8

def classSign (f : Flags) (s : Sign) : Except PatternError Char :=
  if f.unicode ∨ s.char ≤ '\x7f' then .ok s.char
  else if s.octet then .error .invalidUtf8
  else .error .unicodeNotAllowed

def posixSet (f : Flags) (name : String) (negated : Bool) : Except PatternError CharSet :=
  f.foldAndNegate negated ((CharSet.posix? name).getD .none)

def classSet (f : Flags) : ClassTree → Except PatternError CharSet
  | .none => .ok .none
  | .sign s => do return .single (← f.classSign s)
  | .range low high => do return .range (← f.classSign low) (← f.classSign high)
  | .posix name negated => f.posixSet name negated
  | .shorthand kind negated => f.shorthandSet kind negated
  | .property query negated =>
    if f.unicode then do f.foldAndNegate negated (← propertySet query)
    else .error .unicodeNotAllowed
  | .bracket negated inside => do f.foldAndNegate negated (← classSet f inside)
  | .union items => classSets f items
  | .op op left right => do
    let l := f.fold (← classSet f left)
    let r := f.fold (← classSet f right)
    return match op with
      | .intersection => .inter l r
      | .difference => .diff l r
      | .symmetricDifference => .symmDiff l r
where
  /-- The items together. -/
  classSets (f : Flags) : List ClassTree → Except PatternError CharSet
    | [] => .ok .none
    | c :: cs => do return .union (← classSet f c) (← classSets f cs)

def signRegex (f : Flags) (s : Sign) : Except PatternError Regex :=
  if !f.unicode ∧ s.octet ∧ '\x7f' < s.char then .error .invalidUtf8
  else .ok (.set (f.fold (.single s.char)))

def dotRegex (f : Flags) : Except PatternError Regex :=
  if !f.unicode then .error .invalidUtf8
  else if f.dotAll then .ok (.set .all)
  else if f.crlf then .ok (.set (.not (.union (.single '\n') (.single '\r'))))
  else .ok (.set (.allBut '\n'))

def look (f : Flags) : Anchor → Look
  | .lineStart => if !f.multiline then .textStart else if f.crlf then .crlfStart else .lineStart
  | .lineEnd => if !f.multiline then .textEnd else if f.crlf then .crlfEnd else .lineEnd
  | .textStart => .textStart
  | .textEnd => .textEnd
  | .wordEdge => .wordEdge f.unicode
  | .noWordEdge => .noWordEdge f.unicode
  | .wordStart => .wordStart f.unicode
  | .wordEnd => .wordEnd f.unicode
  | .wordStartHalf => .wordStartHalf f.unicode
  | .wordEndHalf => .wordEndHalf f.unicode

end Flags

/-- The expression of a tree, and the flags behind it. A change of flags lasts until its group ends. -/
def Tree.regex (f : Flags) : Tree → Except PatternError (Regex × Flags)
  | .empty => .ok (.empty, f)
  | .flags change => .ok (.empty, f.change change)
  | .sign s => do return (← f.signRegex s, f)
  | .dot => do return (← f.dotRegex, f)
  | .anchor a => .ok (.look (f.look a), f)
  | .cls c => do return (.set (← f.classSet c), f)
  | .repeated body least most => do
    let (r, f) ← body.regex f
    return (.rep r least most, f)
  | .group change body => do
    let (r, _) ← body.regex (f.change change)
    return (r, f)
  | .concat items => sequence f items
  | .alternation items => choice f items
where
  /-- The items one behind the other. -/
  sequence (f : Flags) : List Tree → Except PatternError (Regex × Flags)
    | [] => .ok (.empty, f)
    | t :: ts => do
      let (r, f) ← t.regex f
      let (rs, f) ← sequence f ts
      return (if rs = .empty then r else .seq r rs, f)
  /-- Any of the items. -/
  choice (f : Flags) : List Tree → Except PatternError (Regex × Flags)
    | [] => .ok (.set .none, f)
    | [t] => t.regex f
    | t :: ts => do
      let (r, f) ← t.regex f
      let (rs, f) ← choice f ts
      return (.alt r rs, f)

end Pattern
end PullDecoration
