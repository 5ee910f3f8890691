import ChecksAndBalances.Lib.Transaction
import Mathlib.Order.Defs.Unbundled

/-!
# What transactions do to a store

A preorder on stores bounds a transaction when every commit leads from a store to one that is above
it.  A bound of the statements of a transaction bounds the transaction, and what is kept along the
preorder is an invariant of every run of bounded transactions.
-/

namespace ChecksAndBalances.Lib.Tx

variable {σ τ ε δ α β : Type}

/-- Every commit of the transaction leads to a store above the one it started in. -/
def Within (R : σ → σ → Prop) (t : Tx σ ε α) : Prop := ∀ s a s', Commits t s a s' → R s s'

theorem commits_map {f : α → β} {t : Tx σ ε α} {s s' : σ} {b : β} :
    Commits (f <$> t) s b s' ↔ ∃ a, Commits t s a s' ∧ b = f a := by
  rw [map_eq_pure_bind, commits_bind]
  simp only [commits_pure]
  constructor
  · rintro ⟨a, _, h, rfl, rfl⟩
    exact ⟨a, h, rfl⟩
  · rintro ⟨a, h, rfl⟩
    exact ⟨a, s', h, rfl, rfl⟩

section Rules

variable {R : σ → σ → Prop}

/-- A transaction is bounded when it only changes what the bound does not see. -/
theorem Keeps.within {f : σ → τ} {t : Tx σ ε α} (h : Keeps f t)
    (hR : ∀ s s', f s' = f s → R s s') : Within R t :=
  fun s a s' hcommits => hR s s' (h s a s' hcommits)

theorem within_throw {e : ε} : Within R (throw e : Tx σ ε α) := by
  intro s a s' h
  exact absurd h commits_throw

theorem within_modify {g : σ → σ} (hg : ∀ s, R s (g s)) : Within R (modify g : Tx σ ε Unit) := by
  intro s a s' h
  rw [commits_modify.1 h]
  exact hg s

variable [IsPreorder σ R]

theorem within_pure {a : α} : Within R (pure a : Tx σ ε α) := by
  intro s b s' h
  rw [(commits_pure.1 h).2]
  exact refl s

theorem within_get : Within R (get : Tx σ ε σ) := by
  intro s a s' h
  rw [(commits_get.1 h).2]
  exact refl s

theorem within_require {p : Prop} [Decidable p] {e : ε} :
    Within R (require p e : Tx σ ε Unit) := by
  intro s a s' h
  rw [(commits_require.1 h).2]
  exact refl s

theorem within_found {row : Option α} {e : ε} : Within R (found row e : Tx σ ε α) := by
  intro s a s' h
  rw [(commits_found.1 h).2]
  exact refl s

theorem within_lift {g : δ → ε} {x : Except δ α} : Within R (lift g x : Tx σ ε α) := by
  intro s a s' h
  rw [(commits_lift.1 h).2]
  exact refl s

theorem Within.bind {t : Tx σ ε α} {k : α → Tx σ ε β} (ht : Within R t)
    (hk : ∀ a, Within R (k a)) : Within R (t >>= k) := by
  intro s b s' h
  obtain ⟨a, s₁, h₁, h₂⟩ := commits_bind.1 h
  exact IsTrans.trans _ _ _ (ht s a s₁ h₁) (hk a s₁ b s' h₂)

/-- A rollback goes nowhere. -/
theorem Within.commit {t : Tx σ ε α} (h : Within R t) (s : σ) : R s (commit t s) := by
  rcases commit_cases t s with ⟨a, hc⟩ | ⟨-, hc⟩
  · exact h s a _ hc
  · rw [hc]
    exact refl s

end Rules

end ChecksAndBalances.Lib.Tx
