import PullDecoration.Url.Host

/-! URLs by the URL standard: reading a text without a base, writing a URL in its normal form, and the
origin of a URL. Paths are kept as segments, from which `.` and `..` have been resolved. -/
namespace PullDecoration

inductive Url.Path
  | segments (ss : List (List Char))
  | opaque_ (cs : List Char)
  deriving DecidableEq

structure Url where
  scheme : List Char
  username : List Char
  password : List Char
  host : Option Url.Host
  port : Option Nat
  path : Url.Path
  query : Option (List Char)
  fragment : Option (List Char)
  deriving DecidableEq

namespace Url

def http : List Char := ['h', 't', 't', 'p']
def https : List Char := ['h', 't', 't', 'p', 's']
def ws : List Char := ['w', 's']
def wss : List Char := ['w', 's', 's']
def ftp : List Char := ['f', 't', 'p']
def file : List Char := ['f', 'i', 'l', 'e']
def blob : List Char := ['b', 'l', 'o', 'b']

def defaultPort? (scheme : List Char) : Option Nat :=
  if scheme = http ∨ scheme = ws then some 80
  else if scheme = https ∨ scheme = wss then some 443
  else if scheme = ftp then some 21
  else none

/-- Schemes whose URLs always have a host, and files. -/
def isSpecial (scheme : List Char) : Bool := (defaultPort? scheme).isSome || scheme = file

def isSlash (special : Bool) (c : Char) : Bool := c = '/' || (special && c = '\\')

def endsAuthority (special : Bool) (c : Char) : Bool := isSlash special c || c = '?' || c = '#'

/-- The text without controls and blanks at its ends and without tabulators and line ends inside. -/
def clean (cs : List Char) : List Char :=
  let outside (c : Char) : Bool := c ≤ ' '
  let cs := ((cs.dropWhile outside).reverse.dropWhile outside).reverse
  cs.filter fun c => c ≠ '\t' && c ≠ '\n' && c ≠ '\r'

def isSchemeChar (c : Char) : Bool := c.isAlphanum || c = '+' || c = '-' || c = '.'

/-- The scheme in small letters, and what follows its colon. -/
def cutScheme (cs : List Char) : Option (List Char × List Char) :=
  match cs with
  | c :: _ =>
    let name := cs.takeWhile isSchemeChar
    match cs.drop name.length with
    | ':' :: rest => if c.isAlpha then some (name.map Char.toLower, rest) else none
    | _ => none
  | [] => none

/-- The text up to the last at sign before `stop`, and the text behind it. -/
def cutUserinfo (special : Bool) (cs : List Char) : Option (List Char × List Char) :=
  let authority := cs.takeWhile fun c => !endsAuthority special c
  if '@' ∈ authority then
    let behind := (authority.reverse.takeWhile (· ≠ '@')).length
    let before := authority.length - behind
    some (cs.take (before - 1), cs.drop before)
  else none

/-- The host's text, up to a colon outside brackets or the end of the authority. -/
def hostText (special : Bool) : Bool → List Char → List Char
  | _, [] => []
  | inside, c :: cs =>
    if endsAuthority special c ∨ (c = ':' ∧ !inside) then []
    else c :: hostText special (c = '[' || (inside && c ≠ ']')) cs

/-- The port behind a host, left out if it is the scheme's own, and the text behind it. -/
def parsePort (scheme cs : List Char) : Except UrlError (Option Nat × List Char) :=
  match cs with
  | ':' :: cs =>
    let ds := cs.takeWhile Char.isDigit
    let rest := cs.drop ds.length
    let port := Text.digitsValue ds
    if 65535 < port then .error .invalidPort
    else if rest.head?.any fun c => !(isSlash true c || c = '?' || c = '#') then .error .invalidPort
    else .ok (if ds.isEmpty ∨ defaultPort? scheme = some port then none else some port, rest)
  | _ => .ok (none, cs)

/-- The text of a segment in which `%2e` stands for a point. -/
def dots (s : List Char) : List Char :=
  match s with
  | '%' :: '2' :: e :: rest => if e = 'e' ∨ e = 'E' then '.' :: dots rest else s
  | '.' :: rest => '.' :: dots rest
  | _ => s

def isSingleDot (s : List Char) : Bool := dots s = ['.']

def isDoubleDot (s : List Char) : Bool := dots s = ['.', '.']

/-- Splits a path behind its first slash. -/
def splitPath (special : Bool) : List Char → List (List Char)
  | [] => [[]]
  | c :: cs =>
    if isSlash special c then [] :: splitPath special cs
    else match splitPath special cs with
      | [] => [[c]]
      | s :: ss => (c :: s) :: ss

/-- Segments without dots; `acc` holds those before in reverse. -/
def resolveDots (acc : List (List Char)) : List (List Char) → List (List Char)
  | [] => acc.reverse
  | s :: ss =>
    if isDoubleDot s then
      if ss.isEmpty then ([] :: acc.drop 1).reverse else resolveDots (acc.drop 1) ss
    else if isSingleDot s then
      if ss.isEmpty then ([] :: acc).reverse else resolveDots acc ss
    else resolveDots (s :: acc) ss

/-- The segments of a path's text. -/
def pathSegments (special : Bool) (cs : List Char) : List (List Char) :=
  let inside := match cs with
    | c :: rest => if isSlash special c then rest else cs
    | [] => []
  resolveDots [] ((splitPath special inside).map (percentEncode inPath))

/-- Query and fragment. -/
def parseTail (special : Bool) (cs : List Char) : Option (List Char) × Option (List Char) :=
  let (query, rest) := match cs with
    | '?' :: rest =>
      let q := rest.takeWhile (· ≠ '#')
      (some (percentEncode (if special then inSpecialQuery else inQuery) q), rest.drop q.length)
    | _ => (none, cs)
  let fragment := match rest with
    | '#' :: f => some (percentEncode inFragment f)
    | _ => none
  (query, fragment)

/-- Path, query and fragment of a URL that is otherwise complete. -/
def withRest (u : Url) (special : Bool) (cs : List Char) : Url :=
  let text := cs.takeWhile fun c => c ≠ '?' && c ≠ '#'
  let (query, fragment) := parseTail special (cs.drop text.length)
  let path := if !special ∧ text.isEmpty then [] else pathSegments special text
  { u with path := .segments path, query, fragment }

/-- User name and password of a text such as `user:secret`. -/
def userinfo (cs : List Char) : List Char × List Char :=
  match Text.cut? ':' cs with
  | some (user, secret) => (percentEncode inUserinfo user, percentEncode inUserinfo secret)
  | none => (percentEncode inUserinfo cs, [])

/-- A URL behind the two slashes of its authority. -/
def parseAuthority (scheme cs : List Char) : Except UrlError Url := do
  let special := isSpecial scheme
  let (user, rest) := (cutUserinfo special cs).getD ([], cs)
  let marked := (cutUserinfo special cs).isSome
  let (username, password) := userinfo user
  let text := hostText special false rest
  let rest := rest.drop text.length
  if text.isEmpty ∧ (special ∨ rest.head? = some ':' ∨ (marked ∧ user.isEmpty ∧ !rest.isEmpty) ∨
      !username.isEmpty ∨ !password.isEmpty) then throw .emptyHost
  let host ← if special then Host.parse text else Host.parseOpaque text
  let (port, rest) ← parsePort scheme rest
  let u : Url := ⟨scheme, username, password, some host, port, .segments [], none, none⟩
  return u.withRest special rest

/-- A file's URL behind its colon; `localhost` counts as no host. -/
def parseFile (cs : List Char) : Except UrlError Url := do
  let slashes := (cs.takeWhile (isSlash true)).length
  let u : Url := ⟨file, [], [], none, none, .segments [], none, none⟩
  if slashes = 2 then
    let rest := cs.drop 2
    let text := rest.takeWhile fun c => !endsAuthority true c
    let host ← if text.isEmpty then pure (.name []) else Host.parse text
    let host := if host = .name "localhost".toList then .name [] else host
    return { u with host := some host }.withRest true (rest.drop text.length)
  else
    let rest := if 2 < slashes then cs.drop 2 else cs
    return { u with host := some (.name []) }.withRest true rest

/-- A URL of a scheme of its own, behind the colon. -/
def parseOther (scheme cs : List Char) : Except UrlError Url :=
  let u : Url := ⟨scheme, [], [], none, none, .segments [], none, none⟩
  match cs with
  | '/' :: '/' :: rest => parseAuthority scheme rest
  | '/' :: _ => .ok (u.withRest false cs)
  | _ =>
    let text := cs.takeWhile fun c => c ≠ '?' && c ≠ '#'
    let (query, fragment) := parseTail false (cs.drop text.length)
    .ok { u with path := .opaque_ (percentEncode isControl text), query, fragment }

def parse (s : String) : Except UrlError Url :=
  match cutScheme (clean s.toList) with
  | none => .error .relative
  | some (scheme, rest) =>
    if scheme = file then parseFile rest
    else if isSpecial scheme then parseAuthority scheme (rest.dropWhile (isSlash true))
    else parseOther scheme rest

def Path.chars : Path → List Char
  | .segments ss => ss.flatMap fun s => '/' :: s
  | .opaque_ cs => cs

/-- User name and password as they stand before the host. -/
def userinfoChars (u : Url) : List Char :=
  if u.username.isEmpty ∧ u.password.isEmpty then []
  else u.username ++ (if u.password.isEmpty then [] else ':' :: u.password) ++ ['@']

def portChars (u : Url) : List Char :=
  match u.port with
  | some n => ':' :: Text.decimal n
  | none => []

def authorityChars (u : Url) : List Char :=
  match u.host with
  | some host => ['/', '/'] ++ u.userinfoChars ++ host.chars ++ u.portChars
  | none => match u.path with
    | .segments ([] :: _ :: _) => ['/', '.']
    | _ => []

def markedChars (mark : Char) : Option (List Char) → List Char
  | some cs => mark :: cs
  | none => []

def chars (u : Url) : List Char :=
  u.scheme ++ ':' :: (u.authorityChars ++ u.path.chars ++ markedChars '?' u.query ++
    markedChars '#' u.fragment)

def text (u : Url) : String := String.ofList u.chars

/-- Scheme, host and port; only URLs of some schemes have an origin that others can share. -/
structure Origin where
  scheme : List Char
  host : Option Host
  port : Option Nat
  deriving DecidableEq

def tupleOrigin? (u : Url) : Option Origin :=
  match defaultPort? u.scheme with
  | some port => some ⟨u.scheme, u.host, some (u.port.getD port)⟩
  | none => none

/-- The origin; that of a blob is the origin of the URL inside it. -/
def origin? (u : Url) : Option Origin :=
  if u.scheme = blob then
    match parse (String.ofList u.path.chars) with
    | .ok inner => inner.tupleOrigin?
    | .error _ => none
  else u.tupleOrigin?

def sameOrigin (u v : Url) : Bool :=
  match u.origin?, v.origin? with
  | some a, some b => a = b
  | _, _ => false

/-- Adds a parameter to the query. -/
def addParameter (u : Url) (name value : String) : Url :=
  let pair := formEncode name.toList ++ '=' :: formEncode value.toList
  { u with query := some (match u.query with
      | some (c :: q) => c :: q ++ '&' :: pair
      | _ => pair) }

end Url
end PullDecoration
