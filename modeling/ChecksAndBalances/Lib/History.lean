import Mathlib.Logic.Basic

/-!
# Histories

A history lists what happened, latest first.  `Along P history` says that every entry meets `P` with
the entries before it.
-/

namespace ChecksAndBalances.Lib

variable {α : Type} {P Q : List α → α → Prop}

/-- Every entry meets `P` with the entries before it. -/
def Along (P : List α → α → Prop) : List α → Prop
  | [] => True
  | a :: earlier => P earlier a ∧ Along P earlier

theorem Along.mono (hPQ : ∀ earlier a, P earlier a → Q earlier a) {history : List α}
    (h : Along P history) : Along Q history := by
  induction history with
  | nil => trivial
  | cons a earlier ih => exact ⟨hPQ earlier a h.1, ih h.2⟩

/-- Two properties that agree at every entry hold along the same histories. -/
theorem Along.congr {history : List α}
    (h : Along (fun earlier a => P earlier a ↔ Q earlier a) history) :
    Along P history ↔ Along Q history := by
  induction history with
  | nil => rfl
  | cons a earlier ih => exact and_congr h.1 (ih h.2)

/-- What holds along a history holds at each of its entries. -/
theorem Along.at {later earlier : List α} {a : α} (h : Along P (later ++ a :: earlier)) :
    P earlier a := by
  induction later with
  | nil => exact h.1
  | cons b later ih => exact ih h.2

/-- What holds at every entry holds along the history. -/
theorem along_of_suffix {history : List α}
    (h : ∀ earlier a, (a :: earlier) <:+ history → P earlier a) : Along P history := by
  induction history with
  | nil => trivial
  | cons a earlier ih =>
    refine ⟨h earlier a List.suffix_rfl, ih fun earlier' b hsuffix => ?_⟩
    exact h earlier' b (hsuffix.trans (List.suffix_cons a earlier))

end ChecksAndBalances.Lib
