import ChecksAndBalances.Attestation.Chain

/-!
# The effective status over a run

`cbc_attestation_status_at` shadows a superseded attestation only while its direct successor is
stored as active.  When the successor leaves that state (it expires, is revoked or is superseded in
turn), the older attestation becomes effective again inside its own validity window.  The runs in
which at most one attestation is effective at a time, and those in which a supersession lasts, are
the runs that never let this happen inside an open window.
-/

namespace ChecksAndBalances

open Lib

/-- The instant lies in the validity window. -/
def Attestation.Covers (a : Attestation) (t : ℤ) : Prop := a.validFrom ≤ t ∧ t < a.expiresAt

namespace DomainTables

variable {d d' : DomainTables} {a b c x : Attestation} {t : ℤ}

/-! ## When the status is active -/

/-- What makes `cbc_attestation_status_at` answer `active`. -/
structure Effective (d : DomainTables) (a : Attestation) (t : ℤ) : Prop where
  complete : a.state ≠ .issued
  covers : a.Covers t
  notRevoked : ∀ r ∈ d.revocations, r.attestationId = a.id → t < r.effectiveAt
  notShadowed : ∀ s ∈ d.attestations, s.supersedesId = some a.id → s.state = .active →
    t < s.validFrom

/-- At most one row meets the condition of the left join. -/
theorem find?_any_iff {ρ : Type} {rows : List ρ} {p q : ρ → Bool}
    (h : ∀ r ∈ rows, ∀ r' ∈ rows, p r = true → p r' = true → r = r') :
    (rows.find? p).any q = true ↔ ∃ r ∈ rows, p r = true ∧ q r = true := by
  cases hf : rows.find? p with
  | none =>
    rw [List.find?_eq_none] at hf
    simp only [Option.any_none, Bool.false_eq_true, false_iff, not_exists, not_and]
    exact fun r hr hp => absurd hp (hf r hr)
  | some r =>
    obtain ⟨hr, hp⟩ := Table.mem_of_find? hf
    simp only [Option.any_some]
    constructor
    · exact fun hq => ⟨r, hr, hp, hq⟩
    · rintro ⟨r', hr', hp', hq'⟩
      rw [h r hr r' hr' hp hp']
      exact hq'

theorem Sound.statusAt_eq_active_iff (h : d.Sound) (ha : a ∈ d.attestations) :
    d.statusAt a.id t = some .active ↔ d.Effective a t := by
  have hfind := h.attestationIds.find?_eq ha
  have hrevocation : (d.revocations.find? fun r => r.attestationId = a.id).any
      (fun r => r.effectiveAt ≤ t) = true ↔
      ∃ r ∈ d.revocations, r.attestationId = a.id ∧ r.effectiveAt ≤ t := by
    rw [find?_any_iff]
    · simp only [decide_eq_true_eq]
    · intro r hr r' hr' hp hp'
      rw [decide_eq_true_eq] at hp hp'
      exact h.revocationIds r hr r' hr' (hp.trans hp'.symm)
  have hsuccessor : (d.attestations.find? fun s =>
      s.supersedesId = some a.id && s.issuanceComplete && s.state = .active).any
      (fun s => s.validFrom ≤ t) = true ↔
      ∃ s ∈ d.attestations, s.supersedesId = some a.id ∧ s.state = .active ∧ s.validFrom ≤ t := by
    rw [find?_any_iff]
    · constructor
      · rintro ⟨s, hs, hp, hq⟩
        simp only [Bool.and_eq_true, decide_eq_true_eq] at hp hq
        exact ⟨s, hs, hp.1.1, hp.2, hq⟩
      · rintro ⟨s, hs, hsup, hactive, hq⟩
        have hcomplete := (h.complete s hs).2 (by rw [hactive]; decide)
        exact ⟨s, hs, by simp [hsup, hactive, hcomplete], by simpa using hq⟩
    · intro s hs s' hs' hp hp'
      simp only [Bool.and_eq_true, decide_eq_true_eq] at hp hp'
      obtain ⟨b, hb, hid, hc, hp₁, hv⟩ := h.predecessor s hs a.id hp.1.1
      obtain ⟨b', hb', hid', hc', hp₂, hv'⟩ := h.predecessor s' hs' a.id hp'.1.1
      obtain rfl := h.attestationIds b hb b' hb' (hid.trans hid'.symm)
      exact h.version_unique hs hs' (hc.symm.trans hc') (hp₁.symm.trans hp₂) (hv.trans hv'.symm)
  simp only [statusAt, hfind, Option.map_some, Option.some.injEq]
  have hcomplete := h.complete a ha
  split_ifs with h₁ h₂ h₃ h₄
  · simp only [false_iff]
    intro he
    simp only [Bool.or_eq_true, Bool.not_eq_true', decide_eq_true_eq] at h₁
    rcases h₁ with h₁ | h₁
    · rw [hcomplete.2 he.complete] at h₁
      cases h₁
    · exact absurd he.covers.1 (not_le.2 h₁)
  · simp only [false_iff]
    intro he
    obtain ⟨r, hr, hid, hle⟩ := hrevocation.1 h₂
    exact absurd (he.notRevoked r hr hid) (not_lt.2 hle)
  · simp only [false_iff]
    intro he
    obtain ⟨s, hs, hsup, hactive, hle⟩ := hsuccessor.1 h₃
    exact absurd (he.notShadowed s hs hsup hactive) (not_lt.2 hle)
  · simp only [false_iff]
    exact fun he => absurd he.covers.2 (not_lt.2 h₄)
  · simp only [true_iff]
    simp only [Bool.or_eq_true, Bool.not_eq_true', decide_eq_true_eq, not_or, not_lt] at h₁
    refine ⟨hcomplete.1 (by simpa using h₁.1), ⟨h₁.2, not_le.1 h₄⟩, ?_, ?_⟩
    · intro r hr hid
      exact not_le.1 fun hle => h₂ (hrevocation.2 ⟨r, hr, hid, hle⟩)
    · intro s hs hsup hactive
      exact not_le.1 fun hle => h₃ (hsuccessor.2 ⟨s, hs, hsup, hactive, hle⟩)

/-! ## At most one effective attestation -/

/-- At every time at most one attestation of a participant in a committee is effective. -/
def OneEffective (d : DomainTables) : Prop :=
  ∀ c p t, ∀ a ∈ d.attestationsOf c p, ∀ b ∈ d.attestationsOf c p,
    d.statusAt a.id t = some .active → d.statusAt b.id t = some .active → a = b

theorem Sound.oneEffective_iff (h : d.Sound) :
    d.OneEffective ↔ ∀ t, ∀ x ∈ d.attestations, ∀ y ∈ d.attestations,
      x.committeeId = y.committeeId → x.participantId = y.participantId →
      d.Effective x t → d.Effective y t → x = y := by
  constructor
  · intro hone t x hx y hy hc hp hex hey
    exact hone y.committeeId y.participantId t x (mem_attestationsOf.2 ⟨hx, hc, hp⟩) y
      (mem_attestationsOf.2 ⟨hy, rfl, rfl⟩) ((h.statusAt_eq_active_iff hx).2 hex)
      ((h.statusAt_eq_active_iff hy).2 hey)
  · intro hone c p t x hx y hy hex hey
    obtain ⟨hx, hxc, hxp⟩ := mem_attestationsOf.1 hx
    obtain ⟨hy, hyc, hyp⟩ := mem_attestationsOf.1 hy
    exact hone t x hx y hy (hxc.trans hyc.symm) (hxp.trans hyp.symm)
      ((h.statusAt_eq_active_iff hx).1 hex) ((h.statusAt_eq_active_iff hy).1 hey)

/-- When `b` leaves the active state, its predecessor `a` is no longer shadowed from `b.validFrom`
on.  At such a time, inside the window of `a`, neither `b` (as long as it `stays` effective) nor an
attestation older than `a` is valid. -/
def RegainsAlone (d : DomainTables) (b : Attestation) (stays : ℤ → Prop) : Prop :=
  ∀ a ∈ d.attestations, b.supersedesId = some a.id → ∀ t, b.validFrom ≤ t → a.Covers t →
    ¬ (b.Covers t ∧ stays t) ∧
      ∀ x ∈ d.attestations, x.committeeId = a.committeeId → x.participantId = a.participantId →
        x.version < a.version → ¬ x.Covers t

/-- The condition on a command that lets an attestation leave the active state: what it uncovers
overlaps nothing that is valid at that time. -/
def KeepsOneEffective (d : DomainTables) : Command → Prop
  | .expire input => ∀ b ∈ d.attestations, b.externalReference = input.attestationReference →
      b.state = .active → d.RegainsAlone b fun _ => True
  | .revoke input => ∀ b ∈ d.attestations, b.externalReference = input.attestationReference →
      b.state = .active → d.RegainsAlone b fun t => t < input.observedAt
  | .activate input => ∀ c ∈ d.attestations, c.externalReference = input.attestationReference →
      c.state = .issued → ∀ b ∈ d.attestations, c.supersedesId = some b.id →
        (d.RegainsAlone b fun t => t < c.validFrom) ∧
          ∀ x ∈ d.attestations, x.committeeId = c.committeeId →
            x.participantId = c.participantId → x.version < b.version →
            ∀ t, ¬ (x.Covers t ∧ c.Covers t)
  | _ => True

/-- The completed attestations next to an active one are older. -/
theorem Sound.version_lt_of_active (h : d.Sound) (hb : b ∈ d.attestations)
    (hactive : b.state = .active) (hx : x ∈ d.attestations) (hc : x.committeeId = b.committeeId)
    (hp : x.participantId = b.participantId) (hcomplete : x.state ≠ .issued) (hne : x.id ≠ b.id) :
    x.version < b.version := by
  by_contra hlt
  have hversion : x.version ≠ b.version := fun heq =>
    hne (congrArg Attestation.id (h.version_unique hx hb hc hp heq))
  have hrange := (h.version_range hx).2
  rw [hc, hp] at hrange
  -- the successor of `b` is still issued, so it is the last one and equals `x`
  obtain ⟨z, hz, hzc, hzp, hzv, hzs⟩ := h.exists_successor hb (by omega)
  have hzi := h.successor_issued hb hz hactive hzs
  have hlast := h.version_of_issued hz hzi
  rw [hzc, hzp] at hlast
  have hxz : x = z := h.version_unique hx hz (hc.trans hzc.symm) (hp.trans hzp.symm) (by omega)
  rw [hxz] at hcomplete
  exact hcomplete hzi

/-- An active attestation is effective in its whole window. -/
theorem Sound.effective_of_active (h : d.Sound) (hb : b ∈ d.attestations)
    (hactive : b.state = .active) (ht : b.Covers t) : d.Effective b t where
  complete := by
    rw [hactive]
    decide
  covers := ht
  notRevoked := by
    intro r hr hid
    have := (h.revocation b hb).2 ⟨r, hr, hid⟩
    rw [hactive] at this
    exact absurd this (by decide)
  notShadowed := by
    intro s hs hsup hs'
    have := h.successor_issued hb hs hactive hsup
    rw [this] at hs'
    exact absurd hs' (by decide)

/-- A row that stays as it is was effective before, unless it was shadowed by `b`. -/
theorem Effective.of_stays (he : d'.Effective x t)
    (hrevocations : ∀ r ∈ d.revocations, r ∈ d'.revocations)
    (hactive : ∀ s ∈ d.attestations, s.state = .active → s = b ∨ s ∈ d'.attestations)
    (hb : b.supersedesId = some x.id → t < b.validFrom) : d.Effective x t where
  complete := he.complete
  covers := he.covers
  notRevoked := fun r hr => he.notRevoked r (hrevocations r hr)
  notShadowed := by
    intro s hs hsup hs'
    rcases hactive s hs hs' with rfl | hmem
    · exact hb hsup
    · exact he.notShadowed s hmem hsup hs'

/-- A row other than `b` that is effective once `b` has left the active state: it was effective
before, or it is the predecessor of `b`, now unshadowed. -/
structure Uncovered (d : DomainTables) (b x : Attestation) (t : ℤ) : Prop where
  mem : x ∈ d.attestations
  ne : x.id ≠ b.id
  complete : x.state ≠ .issued
  covers : x.Covers t
  cases : d.Effective x t ∨ (b.supersedesId = some x.id ∧ b.validFrom ≤ t)

theorem Effective.uncovered (he : d'.Effective x t) (hx : x ∈ d.attestations) (hne : x.id ≠ b.id)
    (hrevocations : ∀ r ∈ d.revocations, r ∈ d'.revocations)
    (hactive : ∀ s ∈ d.attestations, s.state = .active → s = b ∨ s ∈ d'.attestations) :
    d.Uncovered b x t := by
  refine ⟨hx, hne, he.complete, he.covers, ?_⟩
  by_cases hsup : b.supersedesId = some x.id ∧ b.validFrom ≤ t
  · exact Or.inr hsup
  · left
    exact he.of_stays hrevocations hactive fun hx => not_le.1 fun hle => hsup ⟨hx, hle⟩

/-- What can be effective once `b` has left the active state: `b` itself as long as it `stays`, or an
uncovered row. -/
def Leaves (d : DomainTables) (b : Attestation) (stays : ℤ → Prop) (x : Attestation) (t : ℤ) :
    Prop :=
  (x.id = b.id ∧ x.committeeId = b.committeeId ∧ x.participantId = b.participantId ∧
    b.Covers t ∧ stays t) ∨ d.Uncovered b x t

section Leave

variable {y : Attestation} {stays : ℤ → Prop} (h : d.Sound) (hone : d.OneEffective)
  (hb : b ∈ d.attestations) (hactive : b.state = .active) (halone : d.RegainsAlone b stays)
include h hone hb hactive halone

theorem Uncovered.eq (hx : d.Uncovered b x t) (hy : d.Uncovered b y t)
    (hc : x.committeeId = y.committeeId) (hp : x.participantId = y.participantId) : x = y := by
  -- an effective row next to the uncovered predecessor is older than it
  have regained : ∀ {x y : Attestation}, d.Uncovered b x t → d.Uncovered b y t →
      x.committeeId = y.committeeId → x.participantId = y.participantId →
      b.supersedesId = some y.id → b.validFrom ≤ t → x = y := by
    intro x y hx hy hc hp hsup hle
    obtain ⟨y', hy', hid, hyc, hyp, hv⟩ := h.predecessor b hb y.id hsup
    obtain rfl := h.attestationIds y' hy' y hy.mem hid
    have hlt := h.version_lt_of_active hb hactive hx.mem (hc.trans hyc) (hp.trans hyp)
      hx.complete hx.ne
    by_contra hne
    have hversion : x.version ≠ y'.version := fun heq =>
      hne (h.version_unique hx.mem hy' hc hp heq)
    exact (halone y' hy' hsup t hle hy.covers).2 x hx.mem hc hp (by omega) hx.covers
  rcases hx.cases with hex | ⟨hsx, hlx⟩
  · rcases hy.cases with hey | ⟨hsy, hly⟩
    · exact h.oneEffective_iff.1 hone t x hx.mem y hy.mem hc hp hex hey
    · exact regained hx hy hc hp hsy hly
  · exact (regained hy hx hc.symm hp.symm hsx hlx).symm

theorem Uncovered.not_covers (hx : d.Uncovered b x t) (hxc : x.committeeId = b.committeeId)
    (hxp : x.participantId = b.participantId) : ¬ (b.Covers t ∧ stays t) := by
  rintro ⟨hcovers, hstays⟩
  rcases hx.cases with hex | ⟨hsup, hle⟩
  · have heb := h.effective_of_active hb hactive hcovers
    have heq := h.oneEffective_iff.1 hone t x hx.mem b hb hxc hxp hex heb
    exact hx.ne (congrArg Attestation.id heq)
  · exact (halone x hx.mem hsup t hle hx.covers).1 ⟨hcovers, hstays⟩

/-- Two rows that are effective afterwards, each `b` while it stays or uncovered, are one. -/
theorem Leaves.eq (hx : d.Leaves b stays x t) (hy : d.Leaves b stays y t)
    (hc : x.committeeId = y.committeeId) (hp : x.participantId = y.participantId)
    (hid : x.id = y.id → x = y) : x = y := by
  rcases hx with ⟨hxb, hxc, hxp, hstays⟩ | hux
  · rcases hy with ⟨hyb, -⟩ | huy
    · exact hid (hxb.trans hyb.symm)
    · exact absurd hstays (huy.not_covers h hone hb hactive halone (hc.symm.trans hxc)
        (hp.symm.trans hxp))
  · rcases hy with ⟨-, hyc, hyp, hstays⟩ | huy
    · exact absurd hstays (hux.not_covers h hone hb hactive halone (hc.trans hyc) (hp.trans hyp))
    · exact hux.eq h hone hb hactive halone huy hc hp

theorem OneEffective.leave (h' : d'.Sound)
    (hcases : ∀ x ∈ d'.attestations, ∀ t, d'.Effective x t → d.Leaves b stays x t) :
    d'.OneEffective := by
  rw [h'.oneEffective_iff]
  intro t x hx y hy hc hp hex hey
  exact (hcases x hx t hex).eq h hone hb hactive halone (hcases y hy t hey) hc hp
    (h'.attestationIds x hx y hy)

end Leave

/-! ## Every command -/

/-- The first attestation of a participant is alone when it is activated. -/
theorem OneEffective.activated (h : d.Sound) (hone : d.OneEffective) (ha : a ∈ d.attestations)
    (hissued : a.state = .issued) (hfirst : a.supersedesId = none) {observedAt : ℤ}
    (h' : (d.setState a .active observedAt true).Sound) :
    (d.setState a .active observedAt true).OneEffective := by
  have hlength : (d.attestationsOf a.committeeId a.participantId).length = 1 := by
    rw [← h.version_of_issued ha hissued]
    exact (h.first a ha).1 hfirst
  have halone : ∀ x ∈ d.attestations, x.committeeId = a.committeeId →
      x.participantId = a.participantId → x.id = a.id := by
    intro x hx hc hp
    have hrange := h.version_range hx
    rw [hc, hp, hlength] at hrange
    have hversion := (h.first a ha).1 hfirst
    exact congrArg Attestation.id (h.version_unique hx ha hc hp (by omega))
  have hbefore : ∀ x t, (d.setState a .active observedAt true).Effective x t → x.id ≠ a.id →
      d.Effective x t := by
    intro x t he hne
    refine he.of_stays (b := a) (fun _ hr => hr) (fun s hs hs' => Or.inr ?_) fun hsup => ?_
    · refine (h.mem_setState ha).2 (Or.inr ⟨hs, fun heq => ?_⟩)
      rw [h.attestationIds s hs a ha heq, hissued] at hs'
      cases hs'
    · rw [hfirst] at hsup
      cases hsup
  rw [h'.oneEffective_iff]
  intro t x hx y hy hc hp hex hey
  rcases (h.mem_setState ha).1 hx with rfl | ⟨hx₀, hxne⟩
  · rcases (h.mem_setState ha).1 hy with rfl | ⟨hy₀, hyne⟩
    · rfl
    · exact absurd (halone y hy₀ hc.symm hp.symm) hyne
  · rcases (h.mem_setState ha).1 hy with rfl | ⟨hy₀, hyne⟩
    · exact absurd (halone x hx₀ hc hp) hxne
    · exact h.oneEffective_iff.1 hone t x hx₀ y hy₀ hc hp (hbefore x t hex hxne)
        (hbefore y t hey hyne)

/-- A renewal `a` takes the place of `b`. -/
theorem OneEffective.renewed (h : d.Sound) (hone : d.OneEffective) (ha : a ∈ d.attestations)
    (hissued : a.state = .issued) (hb : b ∈ d.attestations) (hactive : b.state = .active)
    (hprior : a.supersedesId = some b.id) {observedAt : ℤ}
    (halone : d.RegainsAlone b fun t => t < a.validFrom)
    (hnew : ∀ x ∈ d.attestations, x.committeeId = a.committeeId →
      x.participantId = a.participantId → x.version < b.version → ∀ t, ¬ (x.Covers t ∧ a.Covers t))
    (h' : ((d.setState a .active observedAt true).setState b .superseded observedAt false).Sound) :
    ((d.setState a .active observedAt true).setState b .superseded observedAt
      false).OneEffective := by
  obtain ⟨hid, hrequest⟩ := h.ne_predecessor ha hb hprior
  obtain ⟨b', hb', hbid, hbc, hbp, -⟩ := h.predecessor a ha b.id hprior
  obtain rfl := h.attestationIds b' hb' b hb hbid
  set d₁ := d.setState a .active observedAt true with hd₁
  have hb₁ : b' ∈ d₁.attestations := (h.mem_setState ha).2 (Or.inr ⟨hb, hid⟩)
  have h₁ : d₁.Consistent := h.toConsistent.setState ha (by decide) (Or.inl rfl)
  -- the rows effective afterwards: the renewal, `b` before it, and what was there before
  have hcases : ∀ x ∈ (d₁.setState b' .superseded observedAt false).attestations, ∀ t,
      (d₁.setState b' .superseded observedAt false).Effective x t →
      (x = movedAttestation .active true a ∧ a.Covers t) ∨
        d.Leaves b' (fun t => t < a.validFrom) x t := by
    intro x hx t he
    have ha₂ : movedAttestation .active true a ∈
        (d₁.setState b' .superseded observedAt false).attestations :=
      (h₁.mem_setState hb₁).2 (Or.inr ⟨(h.mem_setState ha).2 (Or.inl rfl), hid.symm⟩)
    rcases (h₁.mem_setState hb₁).1 hx with rfl | ⟨hx, hxb⟩
    · exact Or.inr (Or.inl ⟨rfl, rfl, rfl, he.covers,
        he.notShadowed (movedAttestation .active true a) ha₂ hprior rfl⟩)
    · rcases (h.mem_setState ha).1 hx with rfl | ⟨hx, hxa⟩
      · exact Or.inl ⟨rfl, he.covers⟩
      · refine Or.inr (Or.inr (he.uncovered hx hxb (fun _ hr => hr) fun s hs hs' => ?_))
        by_cases hsb : s.id = b'.id
        · exact Or.inl (h.attestationIds s hs b' hb hsb)
        · refine Or.inr ((h₁.mem_setState hb₁).2
            (Or.inr ⟨(h.mem_setState ha).2 (Or.inr ⟨hs, fun heq => ?_⟩), hsb⟩))
          rw [h.attestationIds s hs a ha heq, hissued] at hs'
          cases hs'
  -- next to the renewal nothing else is effective
  have hpair : ∀ x t, x.committeeId = a.committeeId → x.participantId = a.participantId →
      d.Leaves b' (fun t => t < a.validFrom) x t → ¬ a.Covers t := by
    intro x t hc hp hx hcovers
    rcases hx with ⟨-, -, -, -, hlt⟩ | hx
    · exact absurd hcovers.1 (not_le.2 hlt)
    · have hlt := h.version_lt_of_active hb hactive hx.mem (hc.trans hbc.symm) (hp.trans hbp.symm)
        hx.complete hx.ne
      exact hnew x hx.mem hc hp hlt t ⟨hx.covers, hcovers⟩
  rw [h'.oneEffective_iff]
  intro t x hx y hy hc hp hex hey
  rcases hcases x hx t hex with ⟨rfl, hxa⟩ | hx'
  · rcases hcases y hy t hey with ⟨rfl, -⟩ | hy'
    · rfl
    · exact absurd hxa (hpair y t hc.symm hp.symm hy')
  · rcases hcases y hy t hey with ⟨rfl, hya⟩ | hy'
    · exact absurd hya (hpair x t hc hp hx')
    · exact hx'.eq h hone hb hactive halone hy' hc hp (h'.attestationIds x hx y hy)

theorem OneEffective.of_effect (h : d.Sound) (hone : d.OneEffective) {command : Command}
    (hcommand : d.KeepsOneEffective command) (e : Effect d command d') : d'.OneEffective := by
  have h' := h.of_effect e
  cases e with
  | unchanged => exact hone
  | requested => exact hone
  | decided => exact hone
  | moved => exact hone
  | issued input new issuable =>
    rw [h'.oneEffective_iff]
    have hold : ∀ x ∈ (d.issueNew new).attestations, ∀ t, (d.issueNew new).Effective x t →
        x ∈ d.attestations ∧ d.Effective x t := by
      intro x hx t he
      rcases List.mem_append.1 hx with hx | hx
      · refine ⟨hx, he.complete, he.covers, he.notRevoked, fun s hs => ?_⟩
        exact he.notShadowed s (List.mem_append_left _ hs)
      · rw [List.mem_singleton.1 hx] at he
        exact absurd issuable.state he.complete
    intro t x hx y hy hc hp hex hey
    obtain ⟨hx₀, hex₀⟩ := hold x hx t hex
    obtain ⟨hy₀, hey₀⟩ := hold y hy t hey
    exact h.oneEffective_iff.1 hone t x hx₀ y hy₀ hc hp hex₀ hey₀
  | activated input a mem named state window first =>
    exact hone.activated h mem state first h'
  | renewed input a b mem named state window memPrior prior priorState =>
    obtain ⟨halone, hnew⟩ := hcommand a mem named state b memPrior prior
    exact hone.renewed h mem state memPrior priorState prior halone hnew h'
  | expired input a mem named state due =>
    refine hone.leave h mem state (hcommand a mem named state) h' fun x hx t he => ?_
    rcases (h.mem_setState mem).1 hx with rfl | ⟨hx, hne⟩
    · exact Or.inl ⟨rfl, rfl, rfl, he.covers, trivial⟩
    · refine Or.inr (he.uncovered hx hne (fun _ hr => hr) fun s hs _ => ?_)
      by_cases hs' : s.id = a.id
      · exact Or.inl (h.attestationIds s hs a mem hs')
      · exact Or.inr (Table.mem_set.2 (Or.inr ⟨hs, by simpa using hs'⟩))
  | revoked input a r mem named state of effective new =>
    refine hone.leave h mem state (hcommand a mem named state) h' fun x hx t he => ?_
    have hmem : x ∈ (d.setState a .revoked input.observedAt false).attestations := hx
    rcases (h.mem_setState mem).1 hmem with rfl | ⟨hx, hne⟩
    · have hbefore := he.notRevoked r (List.mem_append_right _ (List.mem_singleton.2 rfl)) of
      exact Or.inl ⟨rfl, rfl, rfl, he.covers, effective ▸ hbefore⟩
    · refine Or.inr (he.uncovered hx hne (fun _ hr => List.mem_append_left _ hr) fun s hs _ => ?_)
      by_cases hs' : s.id = a.id
      · exact Or.inl (h.attestationIds s hs a mem hs')
      · exact Or.inr (Table.mem_set.2 (Or.inr ⟨hs, by simpa using hs'⟩))

end DomainTables

/-- In every run whose commands meet the condition, at most one attestation of a participant in a
committee is effective at any time. -/
theorem one_effective_attestation {db : Db}
    (h : db.Reachable fun db command => db.toDomainTables.KeepsOneEffective command) :
    db.toDomainTables.OneEffective := by
  obtain ⟨db₀, hinit, hreach⟩ := h
  have hinv : db.toDomainTables.Sound ∧ db.toDomainTables.OneEffective := by
    refine hreach.invariant (I := fun db => db.toDomainTables.Sound ∧
      db.toDomainTables.OneEffective) ⟨hinit.sound, ?_⟩ ?_
    · intro c p t a ha
      have := (DomainTables.mem_attestationsOf.1 ha).1
      rw [hinit.noAttestations] at this
      cases this
    · rintro s command s' ⟨hs, hone⟩ hcommand hstep
      obtain rfl : s.exec command = s' := Option.some.inj hstep
      have e := effect_of_exec hs command
      exact ⟨hs.of_effect e, hone.of_effect hs hcommand e⟩
  exact hinv.2

/-- The first attestation of the sample meets the condition when it is activated. -/
theorem one_effective_attestation_activation :
    (Sample.offered.exec
      (.activate (Sample.activation "attestation_one" 0))).toDomainTables.OneEffective := by
  have hoffered : Sample.offered.Reachable fun db command =>
      db.toDomainTables.KeepsOneEffective command := by
    refine Sample.offered_reachable (Sample.approved_reachable ?_) trivial
    simp [Sample.issuedRequest, DomainTables.KeepsOneEffective]
  refine one_effective_attestation (hoffered.exec ?_)
  intro c hc _ _ b _ hrenews
  have hmem := List.mem_map_of_mem (f := Attestation.supersedesId) hc
  rw [Sample.evaluation.2.1, List.mem_singleton, hrenews] at hmem
  cases hmem

/-- Once a renewal has expired, its predecessor is effective next to it in the common part of their
windows. -/
theorem two_effective_attestations :
    ¬ ∀ db : Db, (db.Reachable fun _ _ => True) → db.toDomainTables.OneEffective := by
  intro h
  obtain ⟨-, -, -, -, ⟨hrows, hone, htwo⟩, -⟩ := Sample.evaluation
  have heq := h Sample.lapsed Sample.lapsed_reachable 1 2 50
    { Sample.attestationOne with state := .superseded }
    (DomainTables.mem_attestationsOf.2 ⟨by rw [hrows]; simp, rfl, rfl⟩)
    { Sample.attestationTwo with state := .expired, issuanceComplete := true }
    (DomainTables.mem_attestationsOf.2 ⟨by rw [hrows]; simp, rfl, rfl⟩) hone htwo
  exact absurd (congrArg Attestation.id heq) (by decide)

/-! ## Supersession -/

namespace DomainTables

variable {d d' : DomainTables} {a b : Attestation} {t : ℤ}

/-- The command moves the attestation with this identifier out of the active state, if it is in
it. -/
def LeavesActive (d : DomainTables) (id : Uuid) : Command → Prop
  | .expire input => ∃ b ∈ d.attestations, b.id = id ∧
      b.externalReference = input.attestationReference
  | .revoke input => ∃ b ∈ d.attestations, b.id = id ∧
      b.externalReference = input.attestationReference
  | .activate input => ∃ c ∈ d.attestations, c.externalReference = input.attestationReference ∧
      c.supersedesId = some id
  | _ => False

/-- The columns of an attestation that no command changes. -/
def SameIdentity (a a' : Attestation) : Prop :=
  a'.id = a.id ∧ a'.supersedesId = a.supersedesId ∧ a'.validFrom = a.validFrom ∧
    a'.expiresAt = a.expiresAt

theorem Consistent.exists_sameIdentity (h : d.Consistent) (hb : b ∈ d.attestations)
    (ha : a ∈ d.attestations) (state : AttestationState) (effectiveAt : ℤ) (complete : Bool) :
    ∃ a' ∈ (d.setState b state effectiveAt complete).attestations, SameIdentity a a' := by
  by_cases hid : a.id = b.id
  · obtain rfl := h.attestationIds a ha b hb hid
    exact ⟨_, (h.mem_setState ha).2 (Or.inl rfl), rfl, rfl, rfl, rfl⟩
  · exact ⟨a, (h.mem_setState hb).2 (Or.inr ⟨ha, hid⟩), rfl, rfl, rfl, rfl⟩

/-- Every attestation keeps its identity under every command. -/
theorem Sound.exists_of_effect (h : d.Sound) {command : Command} (e : Effect d command d')
    (ha : a ∈ d.attestations) : ∃ a' ∈ d'.attestations, SameIdentity a a' := by
  have hsame : SameIdentity a a := ⟨rfl, rfl, rfl, rfl⟩
  cases e with
  | unchanged => exact ⟨a, ha, hsame⟩
  | requested => exact ⟨a, ha, hsame⟩
  | decided => exact ⟨a, ha, hsame⟩
  | moved => exact ⟨a, ha, hsame⟩
  | issued => exact ⟨a, List.mem_append_left _ ha, hsame⟩
  | activated input b mem => exact h.exists_sameIdentity mem ha _ _ _
  | renewed input c b mem named state window memPrior prior =>
    have h₁ : (d.setState c .active input.observedAt true).Consistent :=
      h.toConsistent.setState mem (by decide) (Or.inl rfl)
    have hb₁ : b ∈ (d.setState c .active input.observedAt true).attestations :=
      (h.mem_setState mem).2 (Or.inr ⟨memPrior, (h.ne_predecessor mem memPrior prior).1⟩)
    obtain ⟨a₁, ha₁, hid, hsup, hfrom, hto⟩ :=
      h.exists_sameIdentity mem ha .active input.observedAt true
    obtain ⟨a₂, ha₂, hid₂, hsup₂, hfrom₂, hto₂⟩ :=
      h₁.exists_sameIdentity hb₁ ha₁ .superseded input.observedAt false
    exact ⟨a₂, ha₂, hid₂.trans hid, hsup₂.trans hsup, hfrom₂.trans hfrom, hto₂.trans hto⟩
  | expired input b mem => exact h.exists_sameIdentity mem ha _ _ _
  | revoked input b r mem =>
    exact Consistent.exists_sameIdentity (d := d) h.toConsistent mem ha .revoked input.observedAt
      false

/-- An active attestation stays as it is under every command that does not move it. -/
theorem Sound.active_of_effect (h : d.Sound) {command : Command} (e : Effect d command d')
    (hb : b ∈ d.attestations) (hactive : b.state = .active)
    (hstays : ¬ d.LeavesActive b.id command) : b ∈ d'.attestations := by
  have hne : ∀ {a : Attestation}, a.state = .issued → a ∈ d.attestations → b.id ≠ a.id := by
    intro a hissued ha hid
    rw [h.attestationIds b hb a ha hid, hissued] at hactive
    cases hactive
  cases e with
  | unchanged => exact hb
  | requested => exact hb
  | decided => exact hb
  | moved => exact hb
  | issued => exact List.mem_append_left _ hb
  | activated input a mem named state =>
    exact (h.mem_setState mem).2 (Or.inr ⟨hb, hne state mem⟩)
  | renewed input a c mem named state window memPrior prior =>
    have hc : b.id ≠ c.id := fun hid => hstays ⟨a, mem, named, by rw [prior, hid]⟩
    rw [setState_comm (h.ne_predecessor mem memPrior prior).1
      (h.ne_predecessor mem memPrior prior).2]
    refine Table.mem_set.2 (Or.inr ⟨(h.mem_setState memPrior).2 (Or.inr ⟨hb, hc⟩), ?_⟩)
    simpa using hne state mem
  | expired input a mem named =>
    refine (h.mem_setState mem).2 (Or.inr ⟨hb, fun hid => hstays ⟨a, mem, hid.symm, named⟩⟩)
  | revoked input a r mem named =>
    refine Table.mem_set.2 (Or.inr ⟨hb, ?_⟩)
    simpa using fun hid => hstays ⟨a, mem, hid.symm, named⟩

/-- From the time `s` on, `a` is shadowed by its active successor `b` or past its window. -/
structure ShadowedFrom (d : DomainTables) (a b : Attestation) (s : ℤ) : Prop where
  predecessor : ∃ a' ∈ d.attestations, SameIdentity a a'
  successor : ∃ b' ∈ d.attestations, SameIdentity b b' ∧ (b'.state = .active ∨ a.expiresAt ≤ s)
  renews : b.supersedesId = some a.id
  started : b.validFrom ≤ s

theorem ShadowedFrom.statusAt_ne_active {s : ℤ} (hs : d.ShadowedFrom a b s) (h : d.Sound)
    (ht : s ≤ t) : d.statusAt a.id t ≠ some .active := by
  intro hactive
  obtain ⟨a', ha', hid, -, -, hto⟩ := hs.predecessor
  obtain ⟨b', hb', ⟨-, hsup, hfrom, -⟩, hstate⟩ := hs.successor
  rw [← hid, h.statusAt_eq_active_iff ha'] at hactive
  have hstarted := hs.started
  rcases hstate with hstate | hclosed
  · have hlt := hactive.notShadowed b' hb' (by rw [hsup, hs.renews, hid]) hstate
    omega
  · have hlt := hactive.covers.2
    omega

theorem ShadowedFrom.of_effect {s : ℤ} (hs : d.ShadowedFrom a b s) (h : d.Sound)
    {command : Command} (hcommand : d.LeavesActive b.id command → a.expiresAt ≤ s)
    (e : Effect d command d') : d'.ShadowedFrom a b s where
  predecessor := by
    obtain ⟨a', ha', hid, hsup, hfrom, hto⟩ := hs.predecessor
    obtain ⟨a₂, ha₂, hid₂, hsup₂, hfrom₂, hto₂⟩ := h.exists_of_effect e ha'
    exact ⟨a₂, ha₂, hid₂.trans hid, hsup₂.trans hsup, hfrom₂.trans hfrom, hto₂.trans hto⟩
  successor := by
    obtain ⟨b', hb', hsame, hstate⟩ := hs.successor
    by_cases hclosed : a.expiresAt ≤ s
    · obtain ⟨hid, hsup, hfrom, hto⟩ := hsame
      obtain ⟨b₂, hb₂, hid₂, hsup₂, hfrom₂, hto₂⟩ := h.exists_of_effect e hb'
      exact ⟨b₂, hb₂, ⟨hid₂.trans hid, hsup₂.trans hsup, hfrom₂.trans hfrom, hto₂.trans hto⟩,
        Or.inr hclosed⟩
    · have hactive := hstate.resolve_right hclosed
      refine ⟨b', h.active_of_effect e hb' hactive ?_, hsame, hstate⟩
      rw [hsame.1]
      exact fun hleaves => hclosed (hcommand hleaves)
  renews := hs.renews
  started := hs.started

end DomainTables

/-- The command activates the renewal `b` of `a`. -/
structure Db.Activates (db : Db) (input : AttestationRepository.MutateAttestationInput)
    (a b : Attestation) : Prop where
  predecessor : a ∈ db.attestations
  successor : b ∈ db.attestations
  renews : b.supersedesId = some a.id
  named : b.externalReference = input.attestationReference
  issued : b.state = .issued
  activated : ∃ b' ∈ (db.exec (.activate input)).attestations, b'.id = b.id ∧ b'.state = .active

/-- Right after the activation the predecessor is shadowed. -/
theorem Db.Activates.shadowedFrom {db : Db} {input : AttestationRepository.MutateAttestationInput}
    {a b : Attestation} (h : db.Activates input a b) (hs : db.toDomainTables.Sound) :
    (db.exec (.activate input)).toDomainTables.ShadowedFrom a b input.observedAt := by
  have e := effect_of_exec hs (.activate input)
  obtain ⟨b', hb', hid, hactive⟩ := h.activated
  have hsound := hs.of_effect e
  obtain ⟨b₁, hb₁, hsame⟩ := hs.exists_of_effect e h.successor
  obtain rfl := hsound.attestationIds b₁ hb₁ b' hb' (hsame.1.trans hid.symm)
  refine ⟨hs.exists_of_effect e h.predecessor, ⟨b₁, hb₁, hsame, Or.inl hactive⟩, h.renews, ?_⟩
  -- the time checked against the window of the activated attestation is the observed one
  generalize hd' : (db.exec (.activate input)).toDomainTables = d' at e
  cases e with
  | unchanged =>
    rw [hd'] at hb₁
    rw [hs.attestationIds b₁ hb₁ b h.successor hid, h.issued] at hactive
    cases hactive
  | activated _ c mem named state window =>
    rw [hs.attestationReferences b h.successor c mem (h.named.trans named.symm)]
    exact window.1
  | renewed _ c _ mem named state window =>
    rw [hs.attestationReferences b h.successor c mem (h.named.trans named.symm)]
    exact window.1

/-- Once the renewal of an attestation has been activated at time `s`, the attestation is not
effective at `s` or later, as long as the renewal leaves the active state only when the window of
the attestation was closed at `s`. -/
theorem superseded_stays_ineffective {db db' : Db} (h : db.Reachable fun _ _ => True)
    {input : AttestationRepository.MutateAttestationInput} {a b : Attestation}
    (hactivates : db.Activates input a b)
    (hrun : Reach Db.step (fun db command =>
      db.toDomainTables.LeavesActive b.id command → a.expiresAt ≤ input.observedAt)
      (db.exec (.activate input)) db') {t : ℤ} (ht : input.observedAt ≤ t) :
    db'.toDomainTables.statusAt a.id t ≠ some .active := by
  have hinv : db'.toDomainTables.Sound ∧ db'.toDomainTables.ShadowedFrom a b input.observedAt := by
    refine hrun.invariant (I := fun db => db.toDomainTables.Sound ∧
      db.toDomainTables.ShadowedFrom a b input.observedAt) ⟨(h.exec trivial).sound,
        hactivates.shadowedFrom h.sound⟩ ?_
    rintro s command s' ⟨hs, hshadowed⟩ hcommand hstep
    obtain rfl : s.exec command = s' := Option.some.inj hstep
    have e := effect_of_exec hs command
    exact ⟨hs.of_effect e, hshadowed.of_effect hs hcommand e⟩
  exact hinv.2.statusAt_ne_active hinv.1 ht

/-- The renewal of the sample is activated at 10. -/
theorem Sample.activates :
    Sample.renewable.Activates (Sample.activation "attestation_two" 10) Sample.attestationOne
      Sample.attestationTwo := by
  obtain ⟨-, -, hrenewable, hrenewed, -⟩ := Sample.evaluation
  have hactivated : ∃ b' ∈ Sample.renewed.attestations, b'.id = Sample.attestationTwo.id ∧
      b'.state = .active := by
    rw [hrenewed]
    decide
  unfold Sample.renewed at hactivated
  exact ⟨by rw [hrenewable]; simp, by rw [hrenewable]; simp, rfl, rfl, rfl, hactivated⟩

theorem superseded_stays_ineffective_renewed :
    (Sample.renewed.exec (.clock 60)).toDomainTables.statusAt Sample.attestationOne.id 60 ≠
      some .active := by
  have hrun : Reach Db.step (fun db command =>
      db.toDomainTables.LeavesActive Sample.attestationTwo.id command →
        Sample.attestationOne.expiresAt ≤ (Sample.activation "attestation_two" 10).observedAt)
      Sample.renewed (Sample.renewed.exec (.clock 60)) :=
    Reach.tail (a := .clock 60) (Reach.refl _) (fun hleaves => hleaves.elim) rfl
  exact superseded_stays_ineffective Sample.renewable_reachable Sample.activates hrun (by decide)

/-- An expired renewal no longer supersedes. -/
theorem superseded_effective_again :
    ¬ ∀ (db db' : Db) (input : AttestationRepository.MutateAttestationInput) (a b : Attestation),
      (db.Reachable fun _ _ => True) → db.Activates input a b →
      Reach Db.step (fun _ _ => True) (db.exec (.activate input)) db' →
      ∀ t, input.observedAt ≤ t → db'.toDomainTables.statusAt a.id t ≠ some .active := by
  intro h
  obtain ⟨-, -, -, -, ⟨-, hone, -⟩, -⟩ := Sample.evaluation
  refine h Sample.renewable Sample.lapsed (Sample.activation "attestation_two" 10) _ _
    Sample.renewable_reachable Sample.activates ?_ 50 (by decide) hone
  exact Reach.tail (Reach.refl _) trivial rfl

end ChecksAndBalances
