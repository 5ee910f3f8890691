import ChecksAndBalances.Lib.Threads
import Mathlib.Data.List.Perm.Subperm

/-!
# Calls of one kind

`p.Only kind` says that the program makes only calls of the kind, whatever comes back.  Where a
contract allows calls of the kind, such a program follows it, and the past of its thread grows by
calls of the kind only.
-/

namespace ChecksAndBalances.Lib

variable {Call : Type} {Answer : Call → Type} {Request α β ε : Type} {kind : Call → Prop}

namespace Program

/-- Every call of the program is of the kind. -/
def Only (kind : Call → Prop) : Program Call Answer α → Prop
  | done _ => True
  | call c k => kind c ∧ ∀ answer, (k answer).Only kind

namespace Only

theorem pure {a : α} : (Pure.pure a : Program Call Answer α).Only kind := trivial

theorem request {c : Call} (h : kind c) : (Program.request c : Program Call Answer _).Only kind := by
  refine ⟨h, fun _ => ?_⟩
  trivial

theorem bind {p : Program Call Answer α} {f : α → Program Call Answer β} (hp : p.Only kind)
    (hf : ∀ a, (f a).Only kind) : (p >>= f).Only kind := by
  induction p with
  | done a => exact hf a
  | call c k ih => exact ⟨hp.1, fun answer => ih answer (hp.2 answer)⟩

theorem except_bind {p : ExceptT ε (Program Call Answer) α}
    {f : α → ExceptT ε (Program Call Answer) β} (hp : p.run.Only kind)
    (hf : ∀ a, (f a).run.Only kind) : (p >>= f).run.Only kind := by
  apply bind hp
  rintro (e | a)
  · exact pure
  · exact hf a

theorem lift_bind {p : Program Call Answer α} {f : α → ExceptT ε (Program Call Answer) β}
    (hp : p.Only kind) (hf : ∀ a, (f a).run.Only kind) :
    (ExceptT.lift p >>= f).run.Only kind := by
  apply except_bind
  · exact bind hp fun _ => pure
  · exact hf

theorem ofExcept {x : Except ε α} :
    (Program.ofExcept x : ExceptT ε (Program Call Answer) α).run.Only kind := trivial

theorem throwIf {p : Prop} [Decidable p] {e : ε} :
    (Program.throwIf p e : ExceptT ε (Program Call Answer) Unit).run.Only kind := by
  unfold Program.throwIf
  split_ifs
  · trivial
  · trivial

end Only

end Program

namespace Threads

variable {Result : Request → Type} {K : Contract Result Answer} {request : Request}
  {past past' : List (Sigma Answer)}

/-- The past has grown by calls of the kind. -/
def Grown (kind : Call → Prop) (past past' : List (Sigma Answer)) : Prop :=
  ∃ items, past' = items ++ past ∧ ∀ item ∈ items, kind item.1

theorem Grown.refl (past : List (Sigma Answer)) : Grown kind past past := ⟨[], rfl, by simp⟩

theorem Grown.head {item : Sigma Answer} (hitem : kind item.1) (h : Grown kind (item :: past) past') :
    Grown kind past past' := by
  obtain ⟨items, rfl, hitems⟩ := h
  refine ⟨items ++ [item], by simp, fun i hi => ?_⟩
  rcases List.mem_append.1 hi with hi | hi
  · exact hitems i hi
  · rw [List.mem_singleton.1 hi]
    exact hitem

theorem Grown.subset (h : Grown kind past past') : past ⊆ past' := by
  obtain ⟨items, rfl, -⟩ := h
  exact List.subset_append_right items past

/-- What holds of the past and of the calls of the kind holds of the grown past. -/
theorem Grown.forall_mem (h : Grown kind past past') {p : Sigma Answer → Prop}
    (hpast : ∀ item ∈ past, p item) (hkind : ∀ item : Sigma Answer, kind item.1 → p item) :
    ∀ item ∈ past', p item := by
  obtain ⟨items, rfl, hitems⟩ := h
  intro item hitem
  rcases List.mem_append.1 hitem with hitem | hitem
  · exact hkind item (hitems item hitem)
  · exact hpast item hitem

/-- A program of allowed calls follows the contract. -/
theorem follows_of_only {p : Program Call Answer α} (hp : p.Only kind)
    (hallow : ∀ past', Grown kind past past' → ∀ c, kind c → K.allows request past' c) :
    Follows (K.protocol request) past p fun past' _ => Grown kind past past' := by
  induction p generalizing past with
  | done a => exact Grown.refl past
  | call c k ih =>
    refine ⟨hallow past (Grown.refl past) c hp.1, fun answer _ => ?_⟩
    refine (ih answer (hp.2 answer) fun past' hgrown => ?_).mono fun past' _ hgrown => ?_
    · exact hallow past' (Grown.head hp.1 hgrown)
    · exact Grown.head hp.1 hgrown

/-! ## Threads in a log -/

variable {σ τ W ε' : Type} [DecidableEq W] {exec : (call : Call) → Option (Tx σ ε' (Answer call))}
  {view : σ → τ} {start s : σ} {log : List (Entry σ W Request Answer)}

/-- What holds of a valid entry and every one before it holds of any two entries of a log. -/
theorem Chronicle.pairwise {R : Entry σ W Request Answer → Entry σ W Request Answer → Prop}
    (h : Chronicle exec K view start log s)
    (hentry : ∀ earlier e, e.Valid exec K earlier → Chronicle exec K view start earlier e.before →
      ∀ e' ∈ earlier, R e e') : log.Pairwise R := by
  induction log generalizing s with
  | nil => exact List.Pairwise.nil
  | cons e earlier ih => exact List.Pairwise.cons (hentry earlier e h.2.1 h.2.2) (ih h.2.2)

end Threads

end ChecksAndBalances.Lib
