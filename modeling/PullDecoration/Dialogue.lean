/-! Dialogues: questions are put one after the other, and each answer decides how the dialogue goes on. A
partner answers them from a state that every question may change. -/
namespace PullDecoration

inductive Dialogue {Question : Type} (Answer : Question → Type) (α : Type) : Type
  | done (a : α)
  | ask (q : Question) (next : Answer q → Dialogue Answer α)

namespace Dialogue

variable {Question Question' : Type} {Answer : Question → Type} {Answer' : Question' → Type}
variable {α β γ : Type}

def bind : Dialogue Answer α → (α → Dialogue Answer β) → Dialogue Answer β
  | .done a, f => f a
  | .ask q next, f => .ask q fun a => (next a).bind f

instance : Monad (Dialogue Answer) where
  pure := .done
  bind := bind

/-- Every question is passed on as a dialogue with another partner. -/
def through (f : (q : Question) → Dialogue Answer' (Answer q)) :
    Dialogue Answer α → Dialogue Answer' α
  | .done a => .done a
  | .ask q next => (f q).bind fun a => (next a).through f

@[simp] theorem done_bind (a : α) (f : α → Dialogue Answer β) : (done a).bind f = f a := rfl

@[simp] theorem ask_bind (q : Question) (next : Answer q → Dialogue Answer α)
    (f : α → Dialogue Answer β) : (ask q next).bind f = .ask q fun a => (next a).bind f := rfl

@[simp] theorem bind_done (d : Dialogue Answer α) : d.bind .done = d := by
  induction d with
  | done a => rfl
  | ask q next ih => simp [ih]

theorem bind_assoc (d : Dialogue Answer α) (f : α → Dialogue Answer β) (g : β → Dialogue Answer γ) :
    (d.bind f).bind g = d.bind fun a => (f a).bind g := by
  induction d with
  | done a => rfl
  | ask q next ih => simp [ih]

theorem through_bind (f : (q : Question) → Dialogue Answer' (Answer q)) (d : Dialogue Answer α)
    (g : α → Dialogue Answer β) :
    (d.bind g).through f = (d.through f).bind fun a => (g a).through f := by
  induction d with
  | done a => rfl
  | ask q next ih => simp [through, bind_assoc, ih]

end Dialogue

structure Partner {Question : Type} (Answer : Question → Type) (σ : Type) where
  answer : (q : Question) → σ → Answer q × σ

namespace Partner

variable {Question : Type} {Answer : Question → Type} {σ α β : Type}

/-- The result of a dialogue and the state that it leaves. -/
def run (p : Partner Answer σ) : Dialogue Answer α → σ → α × σ
  | .done a, s => (a, s)
  | .ask q next, s => p.run (next (p.answer q s).1) (p.answer q s).2

/-- The partner that also keeps the questions put to it, the first one first. -/
def recording (p : Partner Answer σ) : Partner Answer (σ × List Question) where
  answer q s :=
    let (a, s') := p.answer q s.1
    (a, s', s.2 ++ [q])

@[simp] theorem run_done (p : Partner Answer σ) (a : α) (s : σ) : p.run (.done a) s = (a, s) := rfl

theorem run_bind (p : Partner Answer σ) (d : Dialogue Answer α) (f : α → Dialogue Answer β) (s : σ) :
    p.run (d.bind f) s = p.run (f (p.run d s).1) (p.run d s).2 := by
  induction d generalizing s with
  | done a => rfl
  | ask q next ih => simp [run, ih]

end Partner
end PullDecoration
