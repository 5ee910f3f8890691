import Mathlib.Logic.Basic
import Mathlib.Logic.Unique
import Mathlib.Order.Nat
import Mathlib.Tactic.SplitIfs

/-!
# Transactions

A transaction over a store `σ` either returns a value with the store it leaves or fails with an
error of `ε`, in which case nothing of it is kept.  `Commits t s a s'` says that `t`, started in
`s`, commits with the value `a` and the store `s'`; `Keeps f t` is the frame condition that no
commit of `t` changes what `f` reads.
-/

namespace ChecksAndBalances.Lib

variable {σ τ ε δ α β : Type}

/-- A transaction over the store `σ`. -/
abbrev Tx (σ ε : Type) := StateT σ (Except ε)

namespace Tx

/-- Raise `e` unless `p` holds. -/
def require (p : Prop) [Decidable p] (e : ε) : Tx σ ε Unit :=
  if p then pure () else throw e

/-- The row found, or the error `e`. -/
def found (row : Option α) (e : ε) : Tx σ ε α :=
  match row with
  | some a => pure a
  | none => throw e

/-- A pure computation inside a transaction, its errors renamed. -/
def lift (f : δ → ε) (x : Except δ α) : Tx σ ε α :=
  match x with
  | .ok a => pure a
  | .error e => throw (f e)

/-- The store after the transaction: the committed one, or the old one after a rollback. -/
def commit (t : Tx σ ε α) (s : σ) : σ :=
  match t s with
  | .ok (_, s') => s'
  | .error _ => s

/-- The transaction commits with the value `a` and the store `s'`. -/
def Commits (t : Tx σ ε α) (s : σ) (a : α) (s' : σ) : Prop := t s = .ok (a, s')

/-- The transaction commits. -/
def Accepted (t : Tx σ ε α) (s : σ) : Prop := ∃ a s', Commits t s a s'

/-- No commit of the transaction changes what `f` reads. -/
def Keeps (f : σ → τ) (t : Tx σ ε α) : Prop := ∀ s a s', Commits t s a s' → f s' = f s

/-! ## What each operation commits -/

section Commits

variable {s s' : σ}

theorem commits_pure {a b : α} : Commits (pure a : Tx σ ε α) s b s' ↔ b = a ∧ s' = s := by
  change Except.ok (a, s) = .ok (b, s') ↔ _
  simp [eq_comm]

theorem commits_throw {e : ε} {a : α} : ¬ Commits (throw e : Tx σ ε α) s a s' := by
  intro h
  cases h

theorem commits_bind {t : Tx σ ε α} {k : α → Tx σ ε β} {b : β} :
    Commits (t >>= k) s b s' ↔ ∃ a s₁, Commits t s a s₁ ∧ Commits (k a) s₁ b s' := by
  simp only [Commits, bind, StateT.bind]
  cases ht : t s with
  | error e => simp [Except.bind]
  | ok p =>
    obtain ⟨a, s₁⟩ := p
    simp only [Except.bind, Except.ok.injEq, Prod.mk.injEq]
    constructor
    · intro h
      exact ⟨a, s₁, ⟨rfl, rfl⟩, h⟩
    · rintro ⟨_, _, ⟨rfl, rfl⟩, h⟩
      exact h

theorem commits_get {a : σ} : Commits (get : Tx σ ε σ) s a s' ↔ a = s ∧ s' = s := by
  simp [Commits, get, getThe, MonadStateOf.get, StateT.get, pure, Except.pure, eq_comm]

theorem commits_modify {f : σ → σ} {u : Unit} :
    Commits (modify f : Tx σ ε Unit) s u s' ↔ s' = f s := by
  simp [Commits, modify, modifyGet, MonadStateOf.modifyGet, StateT.modifyGet, pure, Except.pure,
    eq_comm]

theorem commits_require {p : Prop} [Decidable p] {e : ε} {u : Unit} :
    Commits (require p e : Tx σ ε Unit) s u s' ↔ p ∧ s' = s := by
  unfold require
  split_ifs with h
  · simp [commits_pure, h]
  · simp [commits_throw, h]

theorem commits_found {row : Option α} {e : ε} {a : α} :
    Commits (found row e : Tx σ ε α) s a s' ↔ row = some a ∧ s' = s := by
  cases row with
  | none => simp [found, commits_throw]
  | some b => simp [found, commits_pure, eq_comm]

theorem commits_lift {f : δ → ε} {x : Except δ α} {a : α} :
    Commits (lift f x : Tx σ ε α) s a s' ↔ x = .ok a ∧ s' = s := by
  cases x with
  | error e => simp [lift, commits_throw]
  | ok b => simp [lift, commits_pure, eq_comm]

/-! A first operation that only reads, checks or writes disappears from a sequence. -/

variable {b : β}

theorem commits_get_bind {k : σ → Tx σ ε β} :
    Commits (get >>= k) s b s' ↔ Commits (k s) s b s' := by
  simp [commits_bind, commits_get, and_assoc]

theorem commits_modify_bind {f : σ → σ} {k : Unit → Tx σ ε β} :
    Commits (modify f >>= k) s b s' ↔ Commits (k ()) (f s) b s' := by
  simp [commits_bind, commits_modify, Unique.exists_iff]

theorem commits_require_bind {p : Prop} [Decidable p] {e : ε} {k : Unit → Tx σ ε β} :
    Commits (require p e >>= k) s b s' ↔ p ∧ Commits (k ()) s b s' := by
  simp [commits_bind, commits_require, and_assoc, Unique.exists_iff]

theorem commits_found_bind {row : Option α} {e : ε} {k : α → Tx σ ε β} :
    Commits (found row e >>= k) s b s' ↔ ∃ a, row = some a ∧ Commits (k a) s b s' := by
  simp [commits_bind, commits_found, and_assoc]

theorem commits_lift_bind {f : δ → ε} {x : Except δ α} {k : α → Tx σ ε β} :
    Commits (lift f x >>= k) s b s' ↔ ∃ a, x = .ok a ∧ Commits (k a) s b s' := by
  simp [commits_bind, commits_lift, and_assoc]

end Commits

/-! ## The store after a transaction -/

theorem commit_of_commits {t : Tx σ ε α} {s s' : σ} {a : α} (h : Commits t s a s') :
    commit t s = s' := by
  unfold commit
  rw [show t s = .ok (a, s') from h]

/-- A transaction leaves what it commits, or what was there before. -/
theorem commit_cases (t : Tx σ ε α) (s : σ) :
    (∃ a, Commits t s a (commit t s)) ∨ (¬ Accepted t s ∧ commit t s = s) := by
  cases h : t s with
  | ok p =>
    obtain ⟨a, s'⟩ := p
    left
    exact ⟨a, by rw [commit_of_commits h]; exact h⟩
  | error e =>
    right
    refine ⟨?_, by simp [commit, h]⟩
    rintro ⟨a, s', hc⟩
    rw [Commits, h] at hc
    cases hc

/-! ## Acceptance -/

theorem accepted_pure {a : α} {s : σ} : Accepted (pure a : Tx σ ε α) s :=
  ⟨a, s, commits_pure.2 ⟨rfl, rfl⟩⟩

theorem Commits.accepted {t : Tx σ ε α} {s s' : σ} {a : α} (h : Commits t s a s') :
    Accepted t s :=
  ⟨a, s', h⟩

theorem accepted_of_isOk {t : Tx σ ε α} {s : σ} (h : (t s).isOk = true) : Accepted t s := by
  cases ht : t s with
  | ok p => exact ⟨p.1, p.2, ht⟩
  | error e =>
    rw [ht] at h
    cases h

/-- After a committed first part, what is left to accept is the rest. -/
theorem Commits.bind_accepted {t : Tx σ ε α} {k : α → Tx σ ε β} {s s₁ : σ} {a : α}
    (h : Commits t s a s₁) (hk : Accepted (k a) s₁) : Accepted (t >>= k) s := by
  obtain ⟨b, s', hb⟩ := hk
  exact ⟨b, s', commits_bind.2 ⟨a, s₁, h, hb⟩⟩

theorem get_commits (s : σ) : Commits (get : Tx σ ε σ) s s s := commits_get.2 ⟨rfl, rfl⟩

theorem modify_commits (f : σ → σ) (s : σ) : Commits (modify f : Tx σ ε Unit) s () (f s) :=
  commits_modify.2 rfl

theorem require_commits {p : Prop} [Decidable p] (hp : p) (e : ε) (s : σ) :
    Commits (require p e : Tx σ ε Unit) s () s :=
  commits_require.2 ⟨hp, rfl⟩

theorem found_commits {row : Option α} {a : α} (h : row = some a) (e : ε) (s : σ) :
    Commits (found row e : Tx σ ε α) s a s :=
  commits_found.2 ⟨h, rfl⟩

theorem lift_commits {f : δ → ε} {x : Except δ α} {a : α} (h : x = .ok a) (s : σ) :
    Commits (lift f x : Tx σ ε α) s a s :=
  commits_lift.2 ⟨h, rfl⟩

/-! ## Rejection -/

/-- The transaction fails with the error. -/
def Rejects (t : Tx σ ε α) (s : σ) (e : ε) : Prop := t s = .error e

section Rejects

variable {s : σ} {e : ε}

theorem Accepted.not_rejects {t : Tx σ ε α} (h : Accepted t s) : ¬ Rejects t s e := by
  rintro herror
  obtain ⟨a, s', hc⟩ := h
  rw [Commits, herror] at hc
  cases hc

theorem rejects_bind {t : Tx σ ε α} {k : α → Tx σ ε β} :
    Rejects (t >>= k) s e ↔ Rejects t s e ∨ ∃ a s₁, Commits t s a s₁ ∧ Rejects (k a) s₁ e := by
  simp only [Rejects, Commits, bind, StateT.bind]
  cases ht : t s with
  | error e' => simp [Except.bind]
  | ok p =>
    obtain ⟨a, s₁⟩ := p
    simp only [Except.bind, Except.ok.injEq, Prod.mk.injEq, reduceCtorEq, false_or]
    constructor
    · intro h
      exact ⟨a, s₁, ⟨rfl, rfl⟩, h⟩
    · rintro ⟨_, _, ⟨rfl, rfl⟩, h⟩
      exact h

theorem rejects_get_bind {k : σ → Tx σ ε β} : Rejects (get >>= k) s e ↔ Rejects (k s) s e := by
  rfl

theorem rejects_require {p : Prop} [Decidable p] {e' : ε} :
    Rejects (require p e' : Tx σ ε Unit) s e ↔ ¬ p ∧ e = e' := by
  unfold require
  split_ifs with h
  · simp only [h, not_true, false_and, iff_false]
    rintro ⟨⟩
  · simp [Rejects, throw, throwThe, MonadExceptOf.throw, StateT.lift, bind, Except.bind, h,
      eq_comm]

theorem rejects_require_bind {p : Prop} [Decidable p] {e' : ε} {k : Unit → Tx σ ε β} :
    Rejects (require p e' >>= k) s e ↔ (¬ p ∧ e = e') ∨ (p ∧ Rejects (k ()) s e) := by
  simp [rejects_bind, rejects_require, commits_require, and_assoc, Unique.exists_iff]

theorem rejects_found {row : Option α} {e' : ε} :
    Rejects (found row e' : Tx σ ε α) s e ↔ row = none ∧ e = e' := by
  cases row with
  | none =>
    simp [found, Rejects, throw, throwThe, MonadExceptOf.throw, StateT.lift, bind, Except.bind,
      eq_comm]
  | some b =>
    simp only [reduceCtorEq, false_and, iff_false]
    rintro ⟨⟩

theorem rejects_found_bind {row : Option α} {e' : ε} {k : α → Tx σ ε β} :
    Rejects (found row e' >>= k) s e ↔
      (row = none ∧ e = e') ∨ ∃ a, row = some a ∧ Rejects (k a) s e := by
  simp [rejects_bind, rejects_found, commits_found, and_assoc]

theorem rejects_lift {f : δ → ε} {x : Except δ α} :
    Rejects (lift f x : Tx σ ε α) s e ↔ ∃ d, x = .error d ∧ e = f d := by
  cases x with
  | error d =>
    simp [lift, Rejects, throw, throwThe, MonadExceptOf.throw, StateT.lift, bind, Except.bind,
      eq_comm]
  | ok b =>
    simp only [reduceCtorEq, false_and, exists_false, iff_false]
    rintro ⟨⟩

end Rejects

/-! ## Frames -/

theorem keeps_pure {f : σ → τ} {a : α} : Keeps f (pure a : Tx σ ε α) := by
  intro s b s' h
  rw [(commits_pure.1 h).2]

theorem keeps_throw {f : σ → τ} {e : ε} : Keeps f (throw e : Tx σ ε α) := by
  intro s a s' h
  exact absurd h commits_throw

theorem keeps_get {f : σ → τ} : Keeps f (get : Tx σ ε σ) := by
  intro s a s' h
  rw [(commits_get.1 h).2]

theorem keeps_modify {f : σ → τ} {g : σ → σ} (hg : ∀ s, f (g s) = f s) :
    Keeps f (modify g : Tx σ ε Unit) := by
  intro s a s' h
  rw [commits_modify.1 h, hg]

theorem keeps_require {f : σ → τ} {p : Prop} [Decidable p] {e : ε} :
    Keeps f (require p e : Tx σ ε Unit) := by
  intro s a s' h
  rw [(commits_require.1 h).2]

theorem keeps_found {f : σ → τ} {row : Option α} {e : ε} :
    Keeps f (found row e : Tx σ ε α) := by
  intro s a s' h
  rw [(commits_found.1 h).2]

theorem keeps_lift {f : σ → τ} {g : δ → ε} {x : Except δ α} :
    Keeps f (lift g x : Tx σ ε α) := by
  intro s a s' h
  rw [(commits_lift.1 h).2]

theorem Keeps.bind {f : σ → τ} {t : Tx σ ε α} {k : α → Tx σ ε β} (ht : Keeps f t)
    (hk : ∀ a, Keeps f (k a)) : Keeps f (t >>= k) := by
  intro s b s' h
  obtain ⟨a, s₁, h₁, h₂⟩ := commits_bind.1 h
  rw [hk a s₁ b s' h₂, ht s a s₁ h₁]

/-- A rollback keeps everything. -/
theorem Keeps.commit {f : σ → τ} {t : Tx σ ε α} (h : Keeps f t) (s : σ) : f (commit t s) = f s := by
  rcases commit_cases t s with ⟨a, hc⟩ | ⟨-, hc⟩
  · exact h s a _ hc
  · rw [hc]

/-! ## Failures -/

/-- Every error that the transaction fails with is one of these. -/
def Fails (P : ε → Prop) (t : Tx σ ε α) : Prop := ∀ s e, Rejects t s e → P e

section Fails

variable {P : ε → Prop}

theorem fails_pure {a : α} : Fails P (pure a : Tx σ ε α) :=
  fun _ _ h => absurd h accepted_pure.not_rejects

theorem fails_get : Fails P (get : Tx σ ε σ) :=
  fun s _ h => absurd h (get_commits s).accepted.not_rejects

theorem fails_require {p : Prop} [Decidable p] {e : ε} (he : P e) :
    Fails P (require p e : Tx σ ε Unit) := by
  intro s e' h
  rw [(rejects_require.1 h).2]
  exact he

theorem fails_found {row : Option α} {e : ε} (he : P e) : Fails P (found row e : Tx σ ε α) := by
  intro s e' h
  rw [(rejects_found.1 h).2]
  exact he

theorem fails_lift {f : δ → ε} {x : Except δ α} (hx : ∀ d, x = .error d → P (f d)) :
    Fails P (lift f x : Tx σ ε α) := by
  intro s e h
  obtain ⟨d, hd, rfl⟩ := rejects_lift.1 h
  exact hx d hd

theorem Fails.bind {t : Tx σ ε α} {k : α → Tx σ ε β} (ht : Fails P t) (hk : ∀ a, Fails P (k a)) :
    Fails P (t >>= k) := by
  intro s e h
  rcases rejects_bind.1 h with h | ⟨a, s₁, -, h⟩
  · exact ht s e h
  · exact hk a s₁ e h

end Fails

/-! ## Counters -/

/-- No commit of the transaction decreases what `f` reads. -/
def Grows (f : σ → ℕ) (t : Tx σ ε α) : Prop := ∀ s a s', Commits t s a s' → f s ≤ f s'

theorem Keeps.grows {f : σ → ℕ} {t : Tx σ ε α} (h : Keeps f t) : Grows f t :=
  fun s a s' hc => (h s a s' hc).ge

theorem grows_modify {f : σ → ℕ} {g : σ → σ} (hg : ∀ s, f s ≤ f (g s)) :
    Grows f (modify g : Tx σ ε Unit) := by
  intro s a s' h
  rw [commits_modify.1 h]
  exact hg s

theorem Grows.bind {f : σ → ℕ} {t : Tx σ ε α} {k : α → Tx σ ε β} (ht : Grows f t)
    (hk : ∀ a, Grows f (k a)) : Grows f (t >>= k) := by
  intro s b s' h
  obtain ⟨a, s₁, h₁, h₂⟩ := commits_bind.1 h
  exact (ht s a s₁ h₁).trans (hk a s₁ b s' h₂)

end Tx

end ChecksAndBalances.Lib
