import Mathlib.Data.List.Basic
import Mathlib.Data.List.Forall2
import Mathlib.Data.List.Nodup
import Mathlib.Data.Set.Function

/-!
# Row tables

A table is a list of rows.  `set` is `UPDATE … SET f WHERE p`, `update` is the same statement under
a row trigger that may raise, and `Unique key rows` says that the key tells the rows apart, which is
what a unique index keeps.
-/

namespace ChecksAndBalances.Lib.Table

variable {ρ κ ε : Type}

/-- `UPDATE … SET f WHERE p`. -/
def set (p : ρ → Bool) (f : ρ → ρ) (rows : List ρ) : List ρ :=
  rows.map fun r => if p r then f r else r

/-- `UPDATE … SET f WHERE p` under a row trigger: `guard old new` may reject the new row. -/
def update (p : ρ → Bool) (f : ρ → ρ) (guard : ρ → ρ → Except ε Unit) :
    List ρ → Except ε (List ρ)
  | [] => .ok []
  | r :: rows => do
      let new ← if p r then (guard r (f r)).map fun _ => f r else pure r
      return new :: (← update p f guard rows)

/-- The key tells the rows apart. -/
def Unique (key : ρ → κ) (rows : List ρ) : Prop :=
  ∀ a ∈ rows, ∀ b ∈ rows, key a = key b → a = b

/-! ## Updates -/

theorem mem_set {p : ρ → Bool} {f : ρ → ρ} {rows : List ρ} {r : ρ} :
    r ∈ set p f rows ↔ (∃ r₀ ∈ rows, p r₀ = true ∧ r = f r₀) ∨ (r ∈ rows ∧ p r = false) := by
  simp only [set, List.mem_map]
  constructor
  · rintro ⟨r₀, hr₀, rfl⟩
    cases hp : p r₀ with
    | true => exact Or.inl ⟨r₀, hr₀, hp, by simp⟩
    | false => exact Or.inr ⟨by simpa using hr₀, by simpa using hp⟩
  · rintro (⟨r₀, hr₀, hp, rfl⟩ | ⟨hr, hp⟩)
    · exact ⟨r₀, hr₀, by simp [hp]⟩
    · exact ⟨r, hr, by simp [hp]⟩

theorem mem_set_of_mem {p : ρ → Bool} {f : ρ → ρ} {rows : List ρ} {r : ρ} (hr : r ∈ rows) :
    (if p r then f r else r) ∈ set p f rows :=
  List.mem_map.2 ⟨r, hr, rfl⟩

theorem exists_of_mem_set {p : ρ → Bool} {f : ρ → ρ} {rows : List ρ} {r : ρ}
    (hr : r ∈ set p f rows) : ∃ r₀ ∈ rows, r = if p r₀ then f r₀ else r₀ := by
  obtain ⟨r₀, hr₀, rfl⟩ := List.mem_map.1 hr
  exact ⟨r₀, hr₀, rfl⟩

theorem set_congr {p q : ρ → Bool} {f : ρ → ρ} {rows : List ρ} (h : ∀ r ∈ rows, p r = q r) :
    set p f rows = set q f rows :=
  List.map_congr_left fun r hr => by rw [h r hr]

/-- Updates of the rows of two different keys commute, when neither writes the key. -/
theorem set_comm [DecidableEq κ] (key : ρ → κ) {i j : κ} (hij : i ≠ j) {f g : ρ → ρ}
    (hf : ∀ r, key (f r) = key r) (hg : ∀ r, key (g r) = key r) (rows : List ρ) :
    set (fun r => key r = i) f (set (fun r => key r = j) g rows) =
      set (fun r => key r = j) g (set (fun r => key r = i) f rows) := by
  simp only [set, List.map_map]
  refine List.map_congr_left fun r _ => ?_
  simp only [Function.comp_apply, decide_eq_true_eq]
  by_cases hi : key r = i
  · simp [hi, hf, hij]
  · by_cases hj : key r = j <;> simp [hi, hj, hg, hij.symm]

/-- A column that the update does not write keeps its list of values. -/
theorem map_set {p : ρ → Bool} {f : ρ → ρ} (key : ρ → κ)
    (hf : ∀ r, key (f r) = key r) (rows : List ρ) : (set p f rows).map key = rows.map key := by
  simp only [set, List.map_map]
  refine List.map_congr_left fun r _ => ?_
  simp only [Function.comp_apply]
  split_ifs
  · exact hf r
  · rfl

/-- An update that leaves the columns of `q` alone commutes with the selection by `q`. -/
theorem filter_set {p q : ρ → Bool} {f : ρ → ρ} (hf : ∀ r, q (f r) = q r) (rows : List ρ) :
    (set p f rows).filter q = set p f (rows.filter q) := by
  simp only [set, List.filter_map]
  congr 1
  refine List.filter_congr fun r _ => ?_
  simp only [Function.comp_apply]
  split_ifs
  · exact hf r
  · rfl

/-- An update after which no updated row is selected. -/
theorem filter_set_of_false {p q : ρ → Bool} {f : ρ → ρ} (hf : ∀ r, q (f r) = false)
    (rows : List ρ) : (set p f rows).filter q = (rows.filter q).filter fun r => !p r := by
  induction rows with
  | nil => rfl
  | cons r rest ih =>
    rw [set, List.map_cons, ← set]
    by_cases hp : p r <;> by_cases hq : q r <;> simp [hp, hq, hf, ih]

/-- A lookup by what an update leaves alone. -/
theorem find?_set {p q : ρ → Bool} {f : ρ → ρ} (hf : ∀ r, q (f r) = q r) (rows : List ρ) :
    (set p f rows).find? q = (rows.find? q).map fun r => if p r then f r else r := by
  induction rows with
  | nil => rfl
  | cons r rows ih =>
    have hq : q (if p r then f r else r) = q r := by
      split_ifs
      · exact hf r
      · rfl
    rw [set, List.map_cons, List.find?_cons, List.find?_cons, hq]
    cases q r with
    | true => rfl
    | false => exact ih

theorem update_eq_ok_iff {p : ρ → Bool} {f : ρ → ρ} {guard : ρ → ρ → Except ε Unit}
    {rows rows' : List ρ} :
    update p f guard rows = .ok rows' ↔
      (∀ r ∈ rows, p r = true → guard r (f r) = .ok ()) ∧ rows' = set p f rows := by
  induction rows generalizing rows' with
  | nil => simp [update, set]
  | cons r rows ih =>
    have hstep : update p f guard (r :: rows) = .ok rows' ↔
        (p r = true → guard r (f r) = .ok ()) ∧
          ∃ rest, update p f guard rows = .ok rest ∧
            rows' = (if p r then f r else r) :: rest := by
      simp only [update]
      cases hp : p r <;> cases hg : guard r (f r) <;> cases hu : update p f guard rows <;>
        simp [bind, Except.bind, pure, Except.pure, Except.map, eq_comm]
    rw [hstep, List.forall_mem_cons]
    constructor
    · rintro ⟨hr, rest, hrest, rfl⟩
      obtain ⟨hall, rfl⟩ := ih.1 hrest
      exact ⟨⟨hr, hall⟩, rfl⟩
    · rintro ⟨⟨hr, hall⟩, rfl⟩
      exact ⟨hr, set p f rows, ih.2 ⟨hall, rfl⟩, rfl⟩

/-! ## Keys -/

theorem Unique.append {key : ρ → κ} {rows : List ρ} {r : ρ} (h : Unique key rows)
    (hr : ∀ a ∈ rows, key a ≠ key r) : Unique key (rows ++ [r]) := by
  intro a ha b hb hab
  rw [List.mem_append, List.mem_singleton] at ha hb
  rcases ha with ha | rfl <;> rcases hb with hb | rfl
  · exact h a ha b hb hab
  · exact absurd hab (hr a ha)
  · exact absurd hab.symm (hr b hb)
  · rfl

theorem Unique.set {key : ρ → κ} {rows : List ρ} (h : Unique key rows) {p : ρ → Bool} {f : ρ → ρ}
    (hf : ∀ r, key (f r) = key r) : Unique key (set p f rows) := by
  intro a ha b hb hab
  obtain ⟨a₀, ha₀, rfl⟩ := exists_of_mem_set ha
  obtain ⟨b₀, hb₀, rfl⟩ := exists_of_mem_set hb
  have key_eq : ∀ r, key (if p r then f r else r) = key r := fun r => by
    split_ifs
    · exact hf r
    · rfl
  rw [key_eq, key_eq] at hab
  rw [h a₀ ha₀ b₀ hb₀ hab]

theorem unique_nil {key : ρ → κ} : Unique key ([] : List ρ) := fun _ ha => absurd ha (by simp)

/-- Looking a row up by a unique key finds it. -/
theorem Unique.find?_eq [DecidableEq κ] {key : ρ → κ} {rows : List ρ} (h : Unique key rows)
    {r : ρ} (hr : r ∈ rows) : rows.find? (fun a => key a = key r) = some r := by
  cases hf : rows.find? (fun a => key a = key r) with
  | none =>
    have := List.find?_eq_none.1 hf r hr
    simp at this
  | some a =>
    have ha := List.mem_of_find?_eq_some hf
    have hk := List.find?_some hf
    rw [h a ha r hr (by simpa using hk)]

/-- An update by a unique key changes the row that has it and no other. -/
theorem Unique.mem_set_iff [DecidableEq κ] {key : ρ → κ} {rows : List ρ} (h : Unique key rows)
    {o : ρ} (ho : o ∈ rows) {f : ρ → ρ} {r : ρ} :
    r ∈ Table.set (fun r => key r = key o) f rows ↔ r = f o ∨ (r ∈ rows ∧ key r ≠ key o) := by
  simp only [mem_set, decide_eq_true_eq, decide_eq_false_iff_not]
  constructor
  · rintro (⟨r₀, hr₀, hkey, rfl⟩ | hr)
    · rw [h r₀ hr₀ o ho hkey]
      exact Or.inl rfl
    · exact Or.inr hr
  · rintro (rfl | hr)
    · exact Or.inl ⟨o, ho, rfl, rfl⟩
    · exact Or.inr hr

/-- An update by a unique key, row by row: the row of the key and every other row. -/
theorem Unique.forall₂_set [DecidableEq κ] {key : ρ → κ} {rows : List ρ} (h : Unique key rows)
    {o : ρ} (ho : o ∈ rows) {f : ρ → ρ} {R : ρ → ρ → Prop} (hf : R o (f o)) (hsame : ∀ r, R r r) :
    List.Forall₂ R rows (Table.set (fun r => key r = key o) f rows) := by
  unfold Table.set
  rw [List.forall₂_map_right_iff, List.forall₂_same]
  intro r hr
  by_cases hkey : key r = key o
  · rw [h r hr o ho hkey]
    simpa using hf
  · simpa [hkey] using hsame r

theorem exists_of_forall₂ {R : ρ → ρ → Prop} {rows rows' : List ρ} (h : List.Forall₂ R rows rows')
    {r : ρ} (hr : r ∈ rows) : ∃ r' ∈ rows', R r r' := by
  induction h with
  | nil => exact absurd hr List.not_mem_nil
  | cons hR hrest ih =>
    rcases List.mem_cons.1 hr with rfl | hr
    · exact ⟨_, List.mem_cons_self, hR⟩
    · obtain ⟨r', hr', hR'⟩ := ih hr
      exact ⟨r', List.mem_cons_of_mem _ hr', hR'⟩

/-- Keys without repetition tell the rows apart. -/
theorem unique_of_nodup {key : ρ → κ} {rows : List ρ} (h : (rows.map key).Nodup) :
    Unique key rows :=
  fun _ ha _ hb hab => List.inj_on_of_nodup_map h ha hb hab

/-- A row under an unused key keeps the keys without repetition. -/
theorem nodup_append {key : ρ → κ} {rows : List ρ} {r : ρ} (h : (rows.map key).Nodup)
    (hr : ∀ a ∈ rows, key a ≠ key r) : ((rows ++ [r]).map key).Nodup := by
  rw [List.map_append, List.nodup_append]
  refine ⟨h, List.nodup_singleton _, fun k hk k' hk' heq => ?_⟩
  obtain ⟨a, ha, rfl⟩ := List.mem_map.1 hk
  exact hr a ha (heq.trans (List.mem_singleton.1 hk'))

/-- An update that leaves the key alone keeps the keys without repetition. -/
theorem nodup_set {key : ρ → κ} {rows : List ρ} (h : (rows.map key).Nodup) {p : ρ → Bool}
    {f : ρ → ρ} (hf : ∀ r, key (f r) = key r) : ((set p f rows).map key).Nodup := by
  rw [map_set key hf]
  exact h

/-- The keys of the selected rows are those of the rows that the test selects. -/
theorem Unique.mem_map_filter_iff {key : ρ → κ} {rows : List ρ} (h : Unique key rows)
    {p : ρ → Bool} {r : ρ} (hr : r ∈ rows) : key r ∈ (rows.filter p).map key ↔ p r = true := by
  rw [List.mem_map]
  constructor
  · rintro ⟨a, ha, hkey⟩
    obtain ⟨ha, hp⟩ := List.mem_filter.1 ha
    rwa [h a ha r hr hkey] at hp
  · intro hp
    exact ⟨r, List.mem_filter.2 ⟨hr, hp⟩, rfl⟩

/-- A key without repetition selects one row. -/
theorem countP_key [DecidableEq κ] {key : ρ → κ} {rows : List ρ} (h : (rows.map key).Nodup)
    {r : ρ} (hr : r ∈ rows) : rows.countP (fun a => key a = key r) = 1 := by
  have hcount := List.count_eq_one_of_mem h (List.mem_map_of_mem hr)
  rw [← hcount, List.count, List.countP_map]
  congr 1

theorem mem_of_find? {q : ρ → Bool} {rows : List ρ} {r : ρ} (h : rows.find? q = some r) :
    r ∈ rows ∧ q r = true :=
  ⟨List.mem_of_find?_eq_some h, List.find?_some h⟩

theorem exists_find? {q : ρ → Bool} {rows : List ρ} (h : ∃ r ∈ rows, q r = true) :
    ∃ r, rows.find? q = some r :=
  Option.isSome_iff_exists.1 (List.find?_isSome.2 h)

end ChecksAndBalances.Lib.Table
