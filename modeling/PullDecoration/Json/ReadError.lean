import PullDecoration.Json.Number
import PullDecoration.Text.Quoted

/-! Why a JSON text is not the document it should be, and how that is worded. -/
namespace PullDecoration
namespace Json

/-- What was found where something else was expected. -/
inductive Found
  | null
  | bool (b : Bool)
  | natural (n : Nat)
  | negative (n : Nat)
  | real (x : Double)
  | string (s : String)
  | sequence
  | map
  | unitVariant
  deriving DecidableEq, Repr

inductive ReadError
  | malformed (e : SyntaxError)
  | invalidType (found : Found) (expected : String)
  | invalidValue (found : Found) (expected : String)
  | invalidLength (length : Nat) (expected : String)
  | missingField (name : String)
  | duplicateField (name : String)
  | unknownField (name : String) (known : List String)
  | unknownVariant (name : String) (known : List String)
  | refused (reason : String)
  deriving DecidableEq, Repr

def Number.found : Number → Found
  | .natural n => .natural n
  | .negative n => .negative n
  | .real x => .real x

/-- A count with its noun. -/
def counted (n : Nat) (noun : String) : String :=
  String.ofList (Text.decimal n) ++ " " ++ noun ++ if n = 1 then "" else "s"

/-- Known names as the alternatives of a sentence. -/
def oneOf : List String → String
  | [] => "there are no fields"
  | [a] => "expected `" ++ a ++ "`"
  | [a, b] => "expected `" ++ a ++ "` or `" ++ b ++ "`"
  | names => "expected one of " ++ ", ".intercalate (names.map fun n => "`" ++ n ++ "`")

def Found.text : Found → String
  | .null => "null"
  | .bool b => "boolean `" ++ (if b then "true" else "false") ++ "`"
  | .natural n => "integer `" ++ String.ofList (Text.decimal n) ++ "`"
  | .negative n => "integer `-" ++ String.ofList (Text.decimal n) ++ "`"
  | .real x => "floating point `" ++ x.text ++ "`"
  | .string s => "string " ++ Text.quoted s
  | .sequence => "sequence"
  | .map => "map"
  | .unitVariant => "unit variant"

def ReadError.message : ReadError → String
  | .malformed e => e.message
  | .invalidType found expected => "invalid type: " ++ found.text ++ ", expected " ++ expected
  | .invalidValue found expected => "invalid value: " ++ found.text ++ ", expected " ++ expected
  | .invalidLength n expected =>
    "invalid length " ++ String.ofList (Text.decimal n) ++ ", expected " ++ expected
  | .missingField name => "missing field `" ++ name ++ "`"
  | .duplicateField name => "duplicate field `" ++ name ++ "`"
  | .unknownField name known => "unknown field `" ++ name ++ "`, " ++ oneOf known
  | .unknownVariant name known => "unknown variant `" ++ name ++ "`, " ++ oneOf known
  | .refused reason => reason

end Json
end PullDecoration
