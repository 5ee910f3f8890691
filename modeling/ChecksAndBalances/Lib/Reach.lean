import Mathlib.Logic.Relation

/-!
# Runs of a labelled system

A system is a partial step function `step : σ → α → Option σ`; the labels carry every choice of the
environment.  `Reach step C s s'` says that some run leads from `s` to `s'` all of whose steps meet
the condition `C`; an invariant of such steps holds of every state reached.
-/

namespace ChecksAndBalances.Lib

variable {σ α : Type*}

/-- One step under a label that meets the condition `C`. -/
def Steps (step : σ → α → Option σ) (C : σ → α → Prop) (s s' : σ) : Prop :=
  ∃ a, C s a ∧ step s a = some s'

/-- A run whose steps all meet the condition `C`. -/
def Reach (step : σ → α → Option σ) (C : σ → α → Prop) : σ → σ → Prop :=
  Relation.ReflTransGen (Steps step C)

/-- Execute a list of labels. -/
def run (step : σ → α → Option σ) : σ → List α → Option σ
  | s, [] => some s
  | s, a :: as => (step s a).bind fun s' => run step s' as

/-- Every label of the list meets the condition `C` where the run executes it. -/
def AllSteps (step : σ → α → Option σ) (C : σ → α → Prop) : σ → List α → Prop
  | _, [] => True
  | s, a :: as => C s a ∧ ∀ s', step s a = some s' → AllSteps step C s' as

/-- A test of every label where the run executes it. -/
def checkSteps (step : σ → α → Option σ) (p : σ → α → Bool) : σ → List α → Bool
  | _, [] => true
  | s, a :: as => p s a && match step s a with
    | some s' => checkSteps step p s' as
    | none => true

/-- Execute a list of labels as long as each passes the test. -/
def checkedRun (step : σ → α → Option σ) (p : σ → α → Bool) : σ → List α → Option σ
  | s, [] => some s
  | s, a :: as => if p s a then (step s a).bind fun s' => checkedRun step p s' as else none

variable {step : σ → α → Option σ} {C D : σ → α → Prop}

theorem Reach.refl (s : σ) : Reach step C s s := Relation.ReflTransGen.refl

theorem Reach.trans {s s' s'' : σ} (h : Reach step C s s') (h' : Reach step C s' s'') :
    Reach step C s s'' :=
  Relation.ReflTransGen.trans h h'

theorem Reach.tail {s s' s'' : σ} {a : α} (h : Reach step C s s') (hc : C s' a)
    (hs : step s' a = some s'') : Reach step C s s'' :=
  Relation.ReflTransGen.tail h ⟨a, hc, hs⟩

theorem Reach.mono (hCD : ∀ s a, C s a → D s a) {s s' : σ} (h : Reach step C s s') :
    Reach step D s s' := by
  refine Relation.ReflTransGen.mono ?_ _ _ h
  rintro s₁ s₂ ⟨a, hc, hs⟩
  exact ⟨a, hCD s₁ a hc, hs⟩

/-- What holds at the start and is kept by every step that meets `C` holds of every state reached. -/
theorem Reach.invariant {I : σ → Prop} {s s' : σ} (h : Reach step C s s') (h₀ : I s)
    (hstep : ∀ s a s', I s → C s a → step s a = some s' → I s') : I s' := by
  induction h with
  | refl => exact h₀
  | tail _ hs ih =>
    obtain ⟨a, hc, hs⟩ := hs
    exact hstep _ a _ ih hc hs

/-- A test of the state that a list of labels leads to. -/
theorem exists_run_of_any (step : σ → α → Option σ) (s : σ) (as : List α) {p : σ → Bool}
    (h : (run step s as).any p = true) : ∃ s', run step s as = some s' ∧ p s' = true := by
  cases hrun : run step s as with
  | none =>
    rw [hrun] at h
    cases h
  | some s' =>
    rw [hrun] at h
    exact ⟨s', rfl, h⟩

/-- The states after two parts of a run. -/
theorem exists_runs (step : σ → α → Option σ) (s : σ) (as bs : List α) {p q : σ → Bool}
    (h : ((run step s as).any fun s' => p s' && (run step s' bs).any q) = true) :
    ∃ s' s'', run step s as = some s' ∧ run step s' bs = some s'' ∧ p s' = true ∧ q s'' = true := by
  obtain ⟨s', hrun, hp⟩ := exists_run_of_any step s as h
  rw [Bool.and_eq_true] at hp
  obtain ⟨s'', hrun', hq⟩ := exists_run_of_any step s' bs hp.2
  exact ⟨s', s'', hrun, hrun', hp.1, hq⟩

/-- A list of labels that executes is a run. -/
theorem reach_of_run {s s' : σ} {as : List α} (h : run step s as = some s')
    (hC : AllSteps step C s as) : Reach step C s s' := by
  induction as generalizing s with
  | nil =>
    obtain rfl : s = s' := by simpa [run] using h
    exact Reach.refl _
  | cons a as ih =>
    simp only [run, Option.bind_eq_some_iff] at h
    obtain ⟨s₁, hs, hrest⟩ := h
    exact Reach.trans (Reach.tail (Reach.refl _) hC.1 hs) (ih hrest (hC.2 s₁ hs))

/-- A list of labels that pass a test of the condition is a run. -/
theorem reach_of_checkedRun {p : σ → α → Bool} {s s' : σ} {as : List α}
    (hp : ∀ s a, p s a = true → C s a) (h : checkedRun step p s as = some s') :
    Reach step C s s' := by
  induction as generalizing s with
  | nil =>
    obtain rfl : s = s' := by simpa [checkedRun] using h
    exact Reach.refl _
  | cons a as ih =>
    unfold checkedRun at h
    split at h
    · next htest =>
      obtain ⟨s₁, hs, hrest⟩ := Option.bind_eq_some_iff.1 h
      exact Reach.trans (Reach.tail (Reach.refl _) (hp s a htest) hs) (ih hrest)
    · cases h

/-- A tested run executes the whole list. -/
theorem run_of_checkedRun {p : σ → α → Bool} {s s' : σ} {as : List α}
    (h : checkedRun step p s as = some s') : run step s as = some s' := by
  induction as generalizing s with
  | nil => exact h
  | cons a as ih =>
    unfold checkedRun at h
    split at h
    · obtain ⟨s₁, hs, hrest⟩ := Option.bind_eq_some_iff.1 h
      exact Option.bind_eq_some_iff.2 ⟨s₁, hs, ih hrest⟩
    · cases h

/-- A test of the state that a tested list of labels leads to. -/
theorem exists_reach_of_any (step : σ → α → Option σ) {p : σ → α → Bool} (s : σ) (as : List α)
    (hp : ∀ s a, p s a = true → C s a) {q : σ → Bool}
    (h : (checkedRun step p s as).any q = true) : ∃ s', Reach step C s s' ∧ q s' = true := by
  obtain ⟨s', hrun, hq⟩ := (Option.any_eq_true _ _).1 h
  exact ⟨s', reach_of_checkedRun hp hrun, hq⟩

theorem allSteps_of_mem {as : List α} (hC : ∀ a ∈ as, ∀ s, C s a) (s : σ) :
    AllSteps step C s as := by
  induction as generalizing s with
  | nil => trivial
  | cons a as ih =>
    exact ⟨hC a List.mem_cons_self s, fun s' _ =>
      ih (fun b hb => hC b (List.mem_cons_of_mem _ hb)) s'⟩

theorem allSteps_of_check {p : σ → α → Bool} {s : σ} {as : List α}
    (hp : ∀ s a, p s a = true → C s a) (h : checkSteps step p s as = true) :
    AllSteps step C s as := by
  induction as generalizing s with
  | nil => trivial
  | cons a as ih =>
    simp only [checkSteps, Bool.and_eq_true] at h
    refine ⟨hp s a h.1, fun s' hs => ih ?_⟩
    rw [hs] at h
    exact h.2

end ChecksAndBalances.Lib
