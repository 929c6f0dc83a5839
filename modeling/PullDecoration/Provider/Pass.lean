import PullDecoration.Dialogue
import PullDecoration.Identifier
import PullDecoration.Provider.Error

/-! Work done through a provider. A pass makes calls and goes on as the replies say; a provider is a
partner that answers calls. -/
namespace PullDecoration

inductive Call
  | list
  | create (text : String) (path : Option SourcePath) (line : Option UInt32)
  | delete (id : CommentId)
  deriving DecidableEq

def Call.Answer : Call → Type
  | .list => List CommentId
  | .create .. | .delete _ => Unit

/-- What a provider says to a call. -/
abbrev Reply (call : Call) : Type := Except ProviderError call.Answer

abbrev Pass (α : Type) : Type := Dialogue Reply α

abbrev Provider (σ : Type) : Type := Partner Reply σ

/-- The provider with failures put before it: a call that has one changes nothing. -/
def Provider.interrupted {σ : Type} (p : Provider σ) (failure : Call → σ → Option ProviderError) :
    Provider σ where
  answer call s :=
    match failure call s with
    | some e => (.error e, s)
    | none => p.answer call s

end PullDecoration
