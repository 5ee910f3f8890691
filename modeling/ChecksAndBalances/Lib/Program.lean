import Mathlib.Logic.Basic

/-!
# Programs that make calls

A program either returns or makes a call of `Call` and continues with its answer.  A protocol says
which calls are allowed in a phase, which answers can come back and where an answer leads;
`Follows P phase p Q` says that `p`, started in `phase`, makes only allowed calls as long as the
answers are admitted, and that what it returns meets `Q` in the phase reached.
-/

namespace ChecksAndBalances.Lib

variable {Call : Type} {Answer : Call → Type} {Phase α β ε : Type}

/-- A program over the calls of `Call`. -/
inductive Program (Call : Type) (Answer : Call → Type) (α : Type) where
  | done (value : α)
  | call (request : Call) (next : Answer request → Program Call Answer α)

namespace Program

/-- Sequencing. -/
def bind : Program Call Answer α → (α → Program Call Answer β) → Program Call Answer β
  | done a, f => f a
  | call c k, f => call c fun answer => (k answer).bind f

instance : Monad (Program Call Answer) where
  pure := done
  bind := bind

/-- A single call. -/
def request (c : Call) : Program Call Answer (Answer c) := call c done

/-- A computation without calls that may throw. -/
def ofExcept (x : Except ε α) : ExceptT ε (Program Call Answer) α := ExceptT.mk (pure x)

/-- Throw `e` if `p` holds. -/
def throwIf (p : Prop) [Decidable p] (e : ε) : ExceptT ε (Program Call Answer) Unit :=
  if p then throw e else pure ()

/-- A program over some of the calls, as one over all of them. -/
def embed {Call₀ : Type} (f : Call₀ → Call) :
    Program Call₀ (fun c => Answer (f c)) α → Program Call Answer α
  | done a => done a
  | call c k => call (f c) fun answer => (k answer).embed f

/-- The program returns `a` when its calls are answered as the trace says. -/
def Runs : Program Call Answer α → List (Sigma Answer) → α → Prop
  | done b, trace, a => trace = [] ∧ b = a
  | call c k, trace, a => ∃ answer rest, trace = ⟨c, answer⟩ :: rest ∧ (k answer).Runs rest a

/-! ## Traces -/

theorem runs_bind {p : Program Call Answer α} {f : α → Program Call Answer β}
    {trace : List (Sigma Answer)} {b : β} :
    (p >>= f).Runs trace b ↔
      ∃ first rest a, trace = first ++ rest ∧ p.Runs first a ∧ (f a).Runs rest b := by
  induction p generalizing trace with
  | done a =>
    constructor
    · intro h
      exact ⟨[], trace, a, rfl, ⟨rfl, rfl⟩, h⟩
    · rintro ⟨first, rest, a, rfl, ⟨rfl, rfl⟩, h⟩
      exact h
  | call c k ih =>
    constructor
    · rintro ⟨answer, tail, rfl, h⟩
      obtain ⟨first, rest, a, rfl, hfirst, hrest⟩ := (ih answer).1 h
      exact ⟨⟨c, answer⟩ :: first, rest, a, rfl, ⟨answer, first, rfl, hfirst⟩, hrest⟩
    · rintro ⟨_, rest, a, rfl, ⟨answer, first, rfl, hfirst⟩, hrest⟩
      exact ⟨answer, first ++ rest, rfl, (ih answer).2 ⟨first, rest, a, rfl, hfirst, hrest⟩⟩

/-- A sequence that returns: its first part did not throw. -/
theorem runs_except_bind {p : ExceptT ε (Program Call Answer) α}
    {f : α → ExceptT ε (Program Call Answer) β} {trace : List (Sigma Answer)} {b : β}
    (h : (p >>= f).run.Runs trace (.ok b)) :
    ∃ first rest a, trace = first ++ rest ∧ p.run.Runs first (.ok a) ∧
      (f a).run.Runs rest (.ok b) := by
  obtain ⟨first, rest, r, htrace, hfirst, hrest⟩ := runs_bind.1 h
  cases r with
  | error e =>
    obtain ⟨-, hthrown⟩ := hrest
    cases hthrown
  | ok a => exact ⟨first, rest, a, htrace, hfirst, hrest⟩

/-- A sequence returns when both parts do. -/
theorem Runs.except_bind {p : ExceptT ε (Program Call Answer) α}
    {f : α → ExceptT ε (Program Call Answer) β} {first rest : List (Sigma Answer)} {a : α} {b : β}
    (hp : p.run.Runs first (.ok a)) (hf : (f a).run.Runs rest (.ok b)) :
    (p >>= f).run.Runs (first ++ rest) (.ok b) :=
  runs_bind.2 ⟨first, rest, .ok a, rfl, hp, hf⟩

/-- A call at the beginning of a sequence. -/
theorem Runs.lift_request_bind {c : Call} {f : Answer c → ExceptT ε (Program Call Answer) β}
    {answer : Answer c} {rest : List (Sigma Answer)} {b : β}
    (hf : (f answer).run.Runs rest (.ok b)) :
    (ExceptT.lift (request c) >>= f).run.Runs (⟨c, answer⟩ :: rest) (.ok b) := by
  have hcall : (ExceptT.lift (request c) : ExceptT ε (Program Call Answer) (Answer c)).run.Runs
      [⟨c, answer⟩] (.ok answer) := ⟨answer, [], rfl, rfl, rfl⟩
  exact hcall.except_bind hf

/-- A check that passes. -/
theorem Runs.throwIf_bind {p : Prop} [Decidable p] {e : ε}
    {f : Unit → ExceptT ε (Program Call Answer) β} {rest : List (Sigma Answer)} {b : β} (hp : ¬ p)
    (hf : (f ()).run.Runs rest (.ok b)) : (throwIf p e >>= f).run.Runs rest (.ok b) := by
  rw [throwIf, if_neg hp]
  exact hf

/-- A computation that returns. -/
theorem Runs.ofExcept_bind {x : Except ε α} {f : α → ExceptT ε (Program Call Answer) β}
    {rest : List (Sigma Answer)} {a : α} {b : β} (hx : x = .ok a)
    (hf : (f a).run.Runs rest (.ok b)) : (ofExcept x >>= f).run.Runs rest (.ok b) := by
  subst hx
  exact hf

/-- A program over some of the calls runs with the same answers. -/
theorem Runs.embed {Call₀ : Type} {f : Call₀ → Call} {p : Program Call₀ (fun c => Answer (f c)) α}
    {trace : List (Sigma fun c => Answer (f c))} {a : α} (h : p.Runs trace a) :
    (p.embed f : Program Call Answer α).Runs (trace.map fun item => ⟨f item.1, item.2⟩) a := by
  induction p generalizing trace with
  | done b =>
    obtain ⟨rfl, rfl⟩ := h
    exact ⟨rfl, rfl⟩
  | call c k ih =>
    obtain ⟨answer, rest, rfl, hrest⟩ := h
    exact ⟨answer, _, rfl, ih answer hrest⟩

theorem runs_ofExcept {x : Except ε α} {trace : List (Sigma Answer)} {a : α}
    (h : (ofExcept x : ExceptT ε (Program Call Answer) α).run.Runs trace (.ok a)) :
    trace = [] ∧ x = .ok a :=
  h

end Program

/-- The calls of each phase. -/
structure Protocol (Phase : Type) (Call : Type) (Answer : Call → Type) where
  /-- The call may be made in the phase. -/
  allows : Phase → Call → Prop
  /-- The answer can come back. -/
  admits : Phase → (c : Call) → Answer c → Prop
  /-- The phase after the answer. -/
  next : Phase → (c : Call) → Answer c → Phase

namespace Protocol

/-- The phase after a trace. -/
def after (P : Protocol Phase Call Answer) : Phase → List (Sigma Answer) → Phase
  | phase, [] => phase
  | phase, ⟨c, answer⟩ :: rest => P.after (P.next phase c answer) rest

/-- The protocol on some of the calls. -/
def comap {Call₀ : Type} (P : Protocol Phase Call Answer) (f : Call₀ → Call) :
    Protocol Phase Call₀ (fun c => Answer (f c)) where
  allows phase c := P.allows phase (f c)
  admits phase c answer := P.admits phase (f c) answer
  next phase c answer := P.next phase (f c) answer

end Protocol

variable {P : Protocol Phase Call Answer} {phase : Phase}

/-- The program follows the protocol and returns values that meet `Q`. -/
def Follows (P : Protocol Phase Call Answer) (phase : Phase) :
    Program Call Answer α → (Phase → α → Prop) → Prop
  | .done a, Q => Q phase a
  | .call c k, Q => P.allows phase c ∧ ∀ answer, P.admits phase c answer →
      Follows P (P.next phase c answer) (k answer) Q

namespace Follows

theorem mono {p : Program Call Answer α} {Q R : Phase → α → Prop} (h : Follows P phase p Q)
    (hQR : ∀ phase a, Q phase a → R phase a) : Follows P phase p R := by
  induction p generalizing phase with
  | done a => exact hQR phase a h
  | call c k ih => exact ⟨h.1, fun answer ha => ih answer (h.2 answer ha)⟩

theorem pure {a : α} {Q : Phase → α → Prop} (h : Q phase a) :
    Follows P phase (Pure.pure a : Program Call Answer α) Q :=
  h

theorem bind {p : Program Call Answer α} {f : α → Program Call Answer β} {Q : Phase → β → Prop}
    (h : Follows P phase p fun phase a => Follows P phase (f a) Q) :
    Follows P phase (p >>= f) Q := by
  induction p generalizing phase with
  | done a => exact h
  | call c k ih => exact ⟨h.1, fun answer ha => ih answer (h.2 answer ha)⟩

theorem request {c : Call} {Q : Phase → Answer c → Prop} (hallow : P.allows phase c)
    (h : ∀ answer, P.admits phase c answer → Q (P.next phase c answer) answer) :
    Follows P phase (Program.request c) Q :=
  ⟨hallow, h⟩

/-- A first call in a sequence. -/
theorem request_bind {c : Call} {f : Answer c → Program Call Answer β} {Q : Phase → β → Prop}
    (hallow : P.allows phase c)
    (h : ∀ answer, P.admits phase c answer → Follows P (P.next phase c answer) (f answer) Q) :
    Follows P phase (Program.request c >>= f) Q :=
  bind (request hallow h)

/-- A program that follows the protocol ends where its trace leads. -/
theorem runs {p : Program Call Answer α} {Q : Phase → α → Prop} (h : Follows P phase p Q) :
    Follows P phase p fun phase' a =>
      Q phase' a ∧ ∃ trace, p.Runs trace a ∧ phase' = P.after phase trace := by
  induction p generalizing phase with
  | done a => exact ⟨h, [], ⟨rfl, rfl⟩, rfl⟩
  | call c k ih =>
    refine ⟨h.1, fun answer ha => (ih answer (h.2 answer ha)).mono ?_⟩
    rintro phase' a ⟨hQ, trace, hruns, hphase⟩
    exact ⟨hQ, ⟨c, answer⟩ :: trace, ⟨answer, trace, rfl, hruns⟩, hphase⟩

theorem embed {Call₀ : Type} {f : Call₀ → Call} {p : Program Call₀ (fun c => Answer (f c)) α}
    {Q : Phase → α → Prop} (h : Follows (P.comap f) phase p Q) :
    Follows P phase (p.embed f) Q := by
  induction p generalizing phase with
  | done a => exact h
  | call c k ih => exact ⟨h.1, fun answer ha => ih answer (h.2 answer ha)⟩

/-- A first part that may throw: what it throws ends the sequence. -/
theorem except_bind {p : ExceptT ε (Program Call Answer) α}
    {f : α → ExceptT ε (Program Call Answer) β} {Q : Phase → Except ε β → Prop}
    (h : Follows P phase p.run fun phase r =>
      match r with
      | .ok a => Follows P phase (f a).run Q
      | .error e => Q phase (.error e)) :
    Follows P phase (p >>= f).run Q := by
  refine bind (h.mono ?_)
  rintro phase' (e | a) hr
  · exact hr
  · exact hr

theorem ofExcept_bind {x : Except ε α} {f : α → ExceptT ε (Program Call Answer) β}
    {Q : Phase → Except ε β → Prop} (hok : ∀ a, x = .ok a → Follows P phase (f a).run Q)
    (herror : ∀ e, x = .error e → Q phase (.error e)) :
    Follows P phase (Program.ofExcept x >>= f).run Q := by
  refine except_bind ?_
  cases x with
  | ok a => exact hok a rfl
  | error e => exact herror e rfl

theorem throwIf_bind {p : Prop} [Decidable p] {e : ε}
    {f : Unit → ExceptT ε (Program Call Answer) β} {Q : Phase → Except ε β → Prop}
    (herror : p → Q phase (.error e)) (hok : ¬ p → Follows P phase (f ()).run Q) :
    Follows P phase (Program.throwIf p e >>= f).run Q := by
  refine except_bind ?_
  unfold Program.throwIf
  by_cases hp : p
  · rw [if_pos hp]
    exact herror hp
  · rw [if_neg hp]
    exact hok hp

/-- A first part that never throws. -/
theorem lift_bind {p : Program Call Answer α} {f : α → ExceptT ε (Program Call Answer) β}
    {Q : Phase → Except ε β → Prop}
    (h : Follows P phase p fun phase a => Follows P phase (f a).run Q) :
    Follows P phase (ExceptT.lift p >>= f).run Q :=
  except_bind (bind (h.mono fun _ _ hf => hf))

end Follows

end ChecksAndBalances.Lib
