import Mathlib.Data.List.Basic

/-!
# Walks

Every entry of a list leads from its source to its target; the list is a walk when each entry starts
where the one before it ended.  A log of state changes is a walk between states, and a hash chain is
a walk between hashes.
-/

namespace ChecksAndBalances.Lib

variable {α β : Type} {source target : α → β}

/-- The entries lead from the first place to the last, one after the other. -/
def Walk (source target : α → β) : β → List α → β → Prop
  | b, [], b' => b = b'
  | b, a :: rest, b' => source a = b ∧ Walk source target (target a) rest b'

theorem walk_append {b b' : β} {first rest : List α} :
    Walk source target b (first ++ rest) b' ↔
      ∃ m, Walk source target b first m ∧ Walk source target m rest b' := by
  induction first generalizing b with
  | nil => simp [Walk]
  | cons a first ih => simp [Walk, ih, and_assoc]

theorem walk_concat {b b' : β} {entries : List α} {a : α} :
    Walk source target b (entries ++ [a]) b' ↔
      Walk source target b entries (source a) ∧ target a = b' := by
  rw [walk_append]
  constructor
  · rintro ⟨m, hentries, rfl, hend⟩
    exact ⟨hentries, hend⟩
  · rintro ⟨hentries, hend⟩
    exact ⟨source a, hentries, rfl, hend⟩

/-- A walk ends in one place. -/
theorem Walk.end_unique {b b' b'' : β} {entries : List α}
    (h : Walk source target b entries b') (h' : Walk source target b entries b'') : b' = b'' := by
  induction entries generalizing b with
  | nil => exact h.symm.trans h'
  | cons a rest ih => exact ih h.2 h'.2

end ChecksAndBalances.Lib
