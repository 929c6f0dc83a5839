import PullDecoration.Dialogue
import PullDecoration.Json.Record
import PullDecoration.Text.Blank

/-! Listings in pages. A page may name the page behind it; a walk follows these links until a page has
none, or a blank one, or one that was already followed. The first page that cannot be had ends the walk
without a result. -/
namespace PullDecoration
namespace Cloud

/-- The first page, or one that another page named. -/
inductive Link
  | first
  | next (text : String)
  deriving DecidableEq

structure Page (α : Type) where
  values : List α
  next : Option String
  deriving DecidableEq

namespace Page

variable {α ε : Type}

open Json in
def codec (c : Codec α) : Codec (Page α) :=
  .record "struct Page" .skip
    (.cons (.defaulted "values" c.list []) (.cons (.optional "next" .string) .nil))
    (fun p => (p.values, p.next, ())) fun (values, next, ()) => .ok { values, next }

/-- The link to follow, if it is not blank and not among those already followed. -/
def onward? (p : Page α) (followed : List String) : Option String :=
  p.next.filter fun link => !Text.isBlank link && link ∉ followed

/-- The values of all pages from `link` on. There is no result after `limit` pages. -/
def walk (limit : Nat) (followed : List String) (link : Link) :
    Dialogue (fun _ : Link => Except ε (Page α)) (Option (Except ε (List α))) :=
  match limit with
  | 0 => .done none
  | limit + 1 => .ask link fun
    | .error e => .done (some (.error e))
    | .ok page => match page.onward? followed with
      | none => .done (some (.ok page.values))
      | some next => (walk limit (next :: followed) (.next next)).bind fun rest =>
        .done (rest.map fun r => r.map (page.values ++ ·))

/-- A walk from the first page. -/
def collect (limit : Nat) :
    Dialogue (fun _ : Link => Except ε (Page α)) (Option (Except ε (List α))) :=
  walk limit [] .first

end Page
end Cloud
end PullDecoration
