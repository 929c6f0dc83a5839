import PullDecoration.Text.Slice

/-! The mark by which this system knows its own comments: an empty link, which shows as nothing, at the
start of the body. A body that holds the link's token anywhere counts as marked. -/
namespace PullDecoration
namespace Marker

def token : String := "[PR-DECORATION]"

def link : String := "[](https://" ++ token ++ ")"

/-- The text behind the mark. -/
def put (text : String) : String := link ++ "\n" ++ text

def isIn (body : String) : Bool := Text.contains token body

end Marker
end PullDecoration
