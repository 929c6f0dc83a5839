import PullDecoration.Dialogue

/-! Transcripts of dialogues: every question with the answer to it, in the order in which they were
put. The recording partner keeps the questions of the transcript, and a transcript of parts in turn
is made of the transcripts of the parts. Where every question that a dialogue can come to is of a
kind, so are those of each transcript, and what such questions keep is kept by the whole. -/
namespace PullDecoration

abbrev Turn {Question : Type} (Answer : Question → Type) : Type := (q : Question) × Answer q

namespace Dialogue

variable {Question Question' : Type} {Answer : Question → Type} {Answer' : Question' → Type}
variable {α β : Type} {P : Question → Prop}

/-- Every question is of this kind, whatever the answers to those before it are. -/
inductive Puts (P : Question → Prop) : Dialogue Answer α → Prop
  | done (a : α) : Puts P (.done a)
  | ask {q : Question} {next : Answer q → Dialogue Answer α} (hq : P q)
      (hnext : ∀ a, Puts P (next a)) : Puts P (.ask q next)

theorem Puts.bind {d : Dialogue Answer α} {f : α → Dialogue Answer β} (hd : d.Puts P)
    (hf : ∀ a, (f a).Puts P) : (d.bind f).Puts P := by
  induction hd with
  | done a => exact hf a
  | ask hq _ ih => exact .ask hq ih

theorem Puts.mono {P' : Question → Prop} (h : ∀ q, P q → P' q)
    {d : Dialogue Answer α} (hd : d.Puts P) :
    d.Puts P' := by
  induction hd with
  | done a => exact .done a
  | ask hq _ ih => exact .ask (h _ hq) ih

theorem puts_true (d : Dialogue Answer α) : d.Puts fun _ => True := by
  induction d with
  | done a => exact .done a
  | ask q next ih => exact .ask trivial ih

theorem puts_through {f : (q : Question) → Dialogue Answer' (Answer q)} {P : Question' → Prop}
    (hf : ∀ q, (f q).Puts P) (d : Dialogue Answer α) : (d.through f).Puts P := by
  induction d with
  | done a => exact .done a
  | ask q next ih => exact (hf q).bind ih

end Dialogue

namespace Partner

variable {Question : Type} {Answer : Question → Type} {σ α β : Type}

def transcript (p : Partner Answer σ) : Dialogue Answer α → σ → List (Turn Answer)
  | .done _, _ => []
  | .ask q next, s =>
    ⟨q, (p.answer q s).1⟩ :: p.transcript (next (p.answer q s).1) (p.answer q s).2

@[simp] theorem transcript_done (p : Partner Answer σ) (a : α) (s : σ) :
    p.transcript (.done a) s = [] := rfl

@[simp] theorem transcript_ask (p : Partner Answer σ) (q : Question)
    (next : Answer q → Dialogue Answer α) (s : σ) :
    p.transcript (.ask q next) s =
      ⟨q, (p.answer q s).1⟩ :: p.transcript (next (p.answer q s).1) (p.answer q s).2 := rfl

@[simp] theorem run_ask (p : Partner Answer σ) (q : Question) (next : Answer q → Dialogue Answer α)
    (s : σ) : p.run (.ask q next) s = p.run (next (p.answer q s).1) (p.answer q s).2 := rfl

theorem transcript_bind (p : Partner Answer σ) (d : Dialogue Answer α) (f : α → Dialogue Answer β)
    (s : σ) :
    p.transcript (d.bind f) s =
      p.transcript d s ++ p.transcript (f (p.run d s).1) (p.run d s).2 := by
  induction d generalizing s with
  | done a => rfl
  | ask q next ih => simp [ih]

theorem run_recording (p : Partner Answer σ) (d : Dialogue Answer α) (s : σ) (log : List Question) :
    p.recording.run d (s, log) =
      ((p.run d s).1, (p.run d s).2, log ++ (p.transcript d s).map (·.1)) := by
  induction d generalizing s log with
  | done a => simp
  | ask q next ih =>
    have hstep : p.recording.answer q (s, log) =
        ((p.answer q s).1, (p.answer q s).2, log ++ [q]) := rfl
    simp [hstep, ih]

theorem transcript_puts (p : Partner Answer σ) {P : Question → Prop} {d : Dialogue Answer α}
    (h : d.Puts P) (s : σ) : ∀ t ∈ p.transcript d s, P t.1 := by
  induction h generalizing s with
  | done a => exact List.forall_mem_nil _
  | @ask q next hq _ ih => exact List.forall_mem_cons.mpr ⟨hq, ih (p.answer q s).1 (p.answer q s).2⟩

theorem transcript_answers (p : Partner Answer σ) (d : Dialogue Answer α) (s : σ) :
    ∀ t ∈ p.transcript d s, ∃ s', t.2 = (p.answer t.1 s').1 := by
  induction d generalizing s with
  | done a => exact List.forall_mem_nil _
  | ask q next ih => exact List.forall_mem_cons.mpr ⟨⟨s, rfl⟩, ih _ _⟩

/-- What holds of the state and is kept by every question of the transcript holds in the end. -/
theorem run_keeps (p : Partner Answer σ) {P : Question → Prop} {K : σ → Prop}
    (hkeep : ∀ q s, P q → K s → K (p.answer q s).2) (d : Dialogue Answer α) {s : σ}
    (hd : ∀ t ∈ p.transcript d s, P t.1) (hs : K s) : K (p.run d s).2 := by
  induction d generalizing s with
  | done a => exact hs
  | ask q next ih =>
    obtain ⟨hq, hrest⟩ := List.forall_mem_cons.mp hd
    exact ih _ hrest (hkeep q s hq hs)

end Partner
end PullDecoration
