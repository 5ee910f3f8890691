import ChecksAndBalances.Lib.Transaction

/-!
# Simulation by answers

Two stores answer the same calls.  A relation between them that every call keeps, answering alike,
makes the answers of every sequence of calls the same.
-/

namespace ChecksAndBalances.Lib

open Tx

variable {σ τ ε Call : Type} {Answer : Call → Type}

/-- The answers of a sequence of calls; a failed call leaves the store alone. -/
def answers (exec : (call : Call) → Tx σ ε (Answer call)) :
    σ → List Call → List ((call : Call) × Except ε (Answer call))
  | _, [] => []
  | s, call :: rest =>
    match exec call s with
    | .ok (answer, s') => ⟨call, .ok answer⟩ :: answers exec s' rest
    | .error e => ⟨call, .error e⟩ :: answers exec s rest

/-- The relation may speak of the calls that are still to come. -/
theorem answers_eq {f : (call : Call) → Tx σ ε (Answer call)}
    {g : (call : Call) → Tx τ ε (Answer call)} {R : σ → τ → List Call → Prop}
    (hstep : ∀ s t call rest, R s t (call :: rest) →
      ∃ answer s' t', Commits (f call) s answer s' ∧ Commits (g call) t answer t' ∧ R s' t' rest)
    {s : σ} {t : τ} {calls : List Call} (h : R s t calls) :
    answers f s calls = answers g t calls := by
  induction calls generalizing s t with
  | nil => rfl
  | cons call rest ih =>
    obtain ⟨answer, s', t', hf, hg, hrest⟩ := hstep s t call rest h
    rw [Commits] at hf hg
    rw [answers, answers, hf, hg]
    exact congrArg _ (ih hrest)

end ChecksAndBalances.Lib
