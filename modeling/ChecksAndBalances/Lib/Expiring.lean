import Mathlib.Data.Int.Notation
import Mathlib.Data.Option.Basic
import Mathlib.Order.Basic
import Mathlib.Logic.Function.Basic
import Mathlib.Data.Int.Order.Basic

/-!
# Maps whose entries expire

An entry of an expiring map has a deadline and is present strictly before it.  `At now m` is what a
reader finds at a time; it is all that later readers can find, so two maps that show the same at one
time show the same from then on.
-/

namespace ChecksAndBalances.Lib

variable {κ α : Type}

/-- A map whose entries have deadlines. -/
abbrev Expiring (κ α : Type) := κ → Option (α × ℤ)

namespace Expiring

variable {now now' : ℤ} {m m' : Expiring κ α} {k k' : κ} {v : Option (α × ℤ)}

/-- The entries that are present at a time. -/
def At (now : ℤ) (m : Expiring κ α) : Expiring κ α := fun k => (m k).filter fun e => now < e.2

/-- The value found at a time. -/
def get (now : ℤ) (m : Expiring κ α) (k : κ) : Option α := (m.At now k).map Prod.fst

/-- A later reader finds what is left of what an earlier one finds. -/
theorem at_at (h : now ≤ now') : (m.At now).At now' = m.At now' := by
  funext k
  simp only [At, Option.filter_filter]
  congr 1
  funext e
  by_cases he : now' < e.2
  · simp [he, h.trans_lt he]
  · simp [he]

/-- Maps that show the same at one time show the same from then on. -/
theorem at_mono (h : now ≤ now') (hm : m.At now = m'.At now) : m.At now' = m'.At now' := by
  rw [← at_at h, hm, at_at h]

theorem get_eq_of_at (h : m.At now = m'.At now) (k : κ) : m.get now k = m'.get now k := by
  rw [get, get, h]

variable [DecidableEq κ]

/-- What a reader finds after a write. -/
theorem at_update : Expiring.At now (Function.update m k v) =
    Function.update (m.At now) k (v.filter fun e => now < e.2) := by
  funext k'
  by_cases hk : k' = k
  · subst hk
    simp [At]
  · simp [At, hk]

/-- The same write on maps that show the same. -/
theorem at_update_congr (h : m.At now = m'.At now) :
    Expiring.At now (Function.update m k v) = Expiring.At now (Function.update m' k v) := by
  rw [at_update, at_update, h]

theorem get_update_self {a : α} {deadline : ℤ} (h : now < deadline) :
    get now (Function.update m k (some (a, deadline))) k = some a := by
  simp [get, At, h]

theorem get_update_none : get now (Function.update m k none) k = none := by
  simp [get, At]

theorem get_update_of_ne (h : k' ≠ k) : get now (Function.update m k v) k' = m.get now k' := by
  simp [get, At, h]

end Expiring

end ChecksAndBalances.Lib
