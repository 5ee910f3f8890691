import ChecksAndBalances.Attestation.Effects

/-!
# The attestation chain

Every command keeps `DomainTables.Sound`.  From it, the attestations of a participant in a
committee form one chain of renewals in which only the last two can still be open.
-/

namespace ChecksAndBalances

open Lib

namespace DomainTables

variable {d : DomainTables}

/-! ## One state change -/

section SetState

variable {a : Attestation} {state : AttestationState} {effectiveAt : ℤ} {complete : Bool}

/-- A state change moves the row of `a` and no other. -/
theorem Consistent.mem_setState (h : d.Consistent) (ha : a ∈ d.attestations) {x : Attestation} :
    x ∈ (d.setState a state effectiveAt complete).attestations ↔
      x = movedAttestation state complete a ∨ (x ∈ d.attestations ∧ x.id ≠ a.id) :=
  h.attestationIds.mem_set_iff ha

/-- Every stored attestation has a row after the change, with its identity. -/
theorem Consistent.exists_mem_setState (h : d.Consistent) (ha : a ∈ d.attestations)
    {x : Attestation} (hx : x ∈ d.attestations) (state : AttestationState) (effectiveAt : ℤ)
    (complete : Bool) :
    ∃ y ∈ (d.setState a state effectiveAt complete).attestations, y.id = x.id ∧
      y.committeeId = x.committeeId ∧ y.participantId = x.participantId ∧
      y.version = x.version := by
  by_cases hid : x.id = a.id
  · refine ⟨_, (h.mem_setState ha).2 (Or.inl rfl), ?_⟩
    rw [h.attestationIds x hx a ha hid]
    exact ⟨rfl, rfl, rfl, rfl⟩
  · exact ⟨x, (h.mem_setState ha).2 (Or.inr ⟨hx, hid⟩), rfl, rfl, rfl, rfl⟩

/-- The columns of a row after the change are those of the stored row with its identifier. -/
theorem Consistent.of_mem_setState (h : d.Consistent) (ha : a ∈ d.attestations) {x : Attestation}
    (hx : x ∈ (d.setState a state effectiveAt complete).attestations) :
    ∃ x₀ ∈ d.attestations, x.id = x₀.id ∧ x.committeeId = x₀.committeeId ∧
      x.participantId = x₀.participantId ∧ x.version = x₀.version ∧
      x.supersedesId = x₀.supersedesId ∧ x.validFrom = x₀.validFrom ∧
      x.expiresAt = x₀.expiresAt := by
  rcases (h.mem_setState ha).1 hx with rfl | ⟨hx, -⟩
  · exact ⟨a, ha, rfl, rfl, rfl, rfl, rfl, rfl, rfl⟩
  · exact ⟨x, hx, rfl, rfl, rfl, rfl, rfl, rfl, rfl⟩

theorem attestationsOf_setState (d : DomainTables) (c p : Uuid) :
    (d.setState a state effectiveAt complete).attestationsOf c p =
      Table.set (fun b => b.id = a.id) (movedAttestation state complete)
        (d.attestationsOf c p) := by
  unfold attestationsOf setState
  exact Table.filter_set (fun a => by rfl) _

theorem Consistent.setState (h : d.Consistent) (ha : a ∈ d.attestations)
    (hstate : state ≠ .issued) (hcomplete : complete = true ∨ a.state ≠ .issued) :
    (d.setState a state effectiveAt complete).Consistent where
  requestIds := h.requestIds.set fun _ => rfl
  requestReferences := h.requestReferences.set fun _ => rfl
  requestTenant := by
    intro r hr
    obtain ⟨r₀, hr₀, rfl⟩ := Table.exists_of_mem_set hr
    split_ifs <;> exact h.requestTenant r₀ hr₀
  requestOpaque := by
    intro r hr
    obtain ⟨r₀, hr₀, rfl⟩ := Table.exists_of_mem_set hr
    split_ifs <;> exact h.requestOpaque r₀ hr₀
  attestationIds := h.attestationIds.set fun _ => rfl
  attestationReferences := h.attestationReferences.set fun _ => rfl
  attestationRequests := h.attestationRequests.set fun _ => rfl
  request := by
    intro x hx
    rcases (h.mem_setState ha).1 hx with rfl | ⟨hx, hid⟩
    · obtain ⟨r, hr, hrid, hc, hp, -⟩ := h.request a ha
      exact ⟨r.advance state.toVerification,
        Table.mem_set.2 (Or.inl ⟨r, hr, by simpa using hrid, rfl⟩), hrid, hc, hp, rfl⟩
    · obtain ⟨r, hr, hrid, hc, hp, hs⟩ := h.request x hx
      -- another attestation hangs on another request
      have hother : r.id ≠ a.requestId := fun heq =>
        hid (congrArg Attestation.id (h.attestationRequests x hx a ha (hrid.symm.trans heq)))
      exact ⟨r, Table.mem_set.2 (Or.inr ⟨hr, by simpa using hother⟩), hrid, hc, hp, hs⟩
  statusIds := h.statusIds.set fun _ => rfl
  status := by
    intro x hx
    rcases (h.mem_setState ha).1 hx with rfl | ⟨hx, hid⟩
    · obtain ⟨s, hs, hsid, -⟩ := h.status a ha
      exact ⟨_, Table.mem_set.2 (Or.inl ⟨s, hs, by simpa using hsid, rfl⟩), hsid, rfl⟩
    · obtain ⟨s, hs, hsid, hstate⟩ := h.status x hx
      have hother : s.attestationId ≠ a.id := hsid.symm ▸ hid
      exact ⟨s, Table.mem_set.2 (Or.inr ⟨hs, by simpa using hother⟩), hsid, hstate⟩
  statusTenant := by
    intro s hs
    obtain ⟨s₀, hs₀, rfl⟩ := Table.exists_of_mem_set hs
    obtain ⟨x, hx, hxid⟩ := h.statusTenant s₀ hs₀
    obtain ⟨y, hy, hyid, -⟩ := h.exists_mem_setState ha hx state effectiveAt complete
    refine ⟨y, hy, hyid.trans (hxid.trans ?_)⟩
    split_ifs <;> rfl
  complete := by
    intro x hx
    rcases (h.mem_setState ha).1 hx with rfl | ⟨hx, -⟩
    · have hdone : complete = true ∨ a.issuanceComplete = true :=
        hcomplete.imp id (h.complete a ha).2
      simpa [movedAttestation, hstate] using hdone
    · exact h.complete x hx
  window := by
    intro x hx
    obtain ⟨x₀, hx₀, -, -, -, -, -, hfrom, hto⟩ := h.of_mem_setState ha hx
    rw [hfrom, hto]
    exact h.window x₀ hx₀
  versions := by
    intro c p
    rw [attestationsOf_setState, Table.map_set Attestation.version fun a => by rfl]
    simpa [Table.set] using h.versions c p
  predecessor := by
    intro x hx id hid
    obtain ⟨x₀, hx₀, -, hc, hp, hv, hsup, -⟩ := h.of_mem_setState ha hx
    obtain ⟨b, hb, hbid, hbc, hbp, hbv⟩ := h.predecessor x₀ hx₀ id (hsup ▸ hid)
    obtain ⟨y, hy, hyid, hyc, hyp, hyv⟩ := h.exists_mem_setState ha hb state effectiveAt
      complete
    exact ⟨y, hy, hyid.trans hbid, by rw [hyc, hbc, hc], by rw [hyp, hbp, hp], by rw [hv, hbv, hyv]⟩
  first := by
    intro x hx
    obtain ⟨x₀, hx₀, -, -, -, hv, hsup, -⟩ := h.of_mem_setState ha hx
    rw [hv, hsup]
    exact h.first x₀ hx₀
  revocationIds := h.revocationIds
  revocationTenant := by
    intro r hr
    obtain ⟨x, hx, hxid⟩ := h.revocationTenant r hr
    obtain ⟨y, hy, hyid, -⟩ := h.exists_mem_setState ha hx state effectiveAt complete
    exact ⟨y, hy, hyid.trans hxid⟩

/-- The order along the chain survives a state change, when the predecessor of `a` is superseded
and no activated successor of `a` is left behind. -/
theorem Sound.superseded_setState (h : d.Sound) (ha : a ∈ d.attestations)
    (hstate : state ≠ .issued)
    (hup : ∀ b ∈ d.attestations, a.supersedesId = some b.id → b.state = .superseded)
    (hdown : ∀ x ∈ d.attestations, x.supersedesId = some a.id → x.state ≠ .issued →
      state = .superseded) (effectiveAt : ℤ) (complete : Bool) :
    ∀ x ∈ (d.setState a state effectiveAt complete).attestations,
      ∀ y ∈ (d.setState a state effectiveAt complete).attestations, x.supersedesId = some y.id →
        y.state ≠ .issued ∧ (x.state ≠ .issued → y.state = .superseded) := by
  intro x hx y hy hxy
  rcases (h.mem_setState ha).1 hy with rfl | ⟨hy, hyid⟩
  · rcases (h.mem_setState ha).1 hx with rfl | ⟨hx, -⟩
    · -- `a` does not renew itself
      exact absurd rfl (h.ne_predecessor ha ha hxy).1
    · exact ⟨hstate, hdown x hx hxy⟩
  · rcases (h.mem_setState ha).1 hx with rfl | ⟨hx, -⟩
    · have hsup := hup y hy hxy
      exact ⟨by rw [hsup]; decide, fun _ => hsup⟩
    · exact h.superseded x hx y hy hxy

theorem Sound.setState (h : d.Sound) (ha : a ∈ d.attestations) (hstate : state ≠ .issued)
    (hrevoked : state ≠ .revoked ∧ a.state ≠ .revoked)
    (hcomplete : complete = true ∨ a.state ≠ .issued)
    (hup : ∀ b ∈ d.attestations, a.supersedesId = some b.id → b.state = .superseded)
    (hdown : ∀ x ∈ d.attestations, x.supersedesId = some a.id → x.state ≠ .issued →
      state = .superseded) :
    (d.setState a state effectiveAt complete).Sound where
  toConsistent := h.toConsistent.setState ha hstate hcomplete
  superseded := h.superseded_setState ha hstate hup hdown effectiveAt complete
  revocation := by
    intro x hx
    rcases (h.mem_setState ha).1 hx with rfl | ⟨hx, -⟩
    · have hnone := (not_congr (h.revocation a ha)).1 hrevoked.2
      exact iff_of_false hrevoked.1 hnone
    · exact h.revocation x hx

theorem setState_comm {b : Attestation} {state' : AttestationState} {effectiveAt' : ℤ}
    {complete' : Bool} (hid : b.id ≠ a.id) (hrequest : b.requestId ≠ a.requestId) :
    (d.setState a state effectiveAt complete).setState b state' effectiveAt' complete' =
      (d.setState b state' effectiveAt' complete').setState a state effectiveAt complete := by
  unfold setState
  congr 1
  · apply Table.set_comm VerificationRequest.id hrequest <;> intro r <;> rfl
  · apply Table.set_comm Attestation.id hid <;> intro r <;> rfl
  · apply Table.set_comm AttestationStatus.attestationId hid <;> intro r <;> rfl

end SetState

/-! ## Versions along a chain -/

theorem mem_attestationsOf {c p : Uuid} {a : Attestation} :
    a ∈ d.attestationsOf c p ↔ a ∈ d.attestations ∧ a.committeeId = c ∧ a.participantId = p := by
  simp [attestationsOf]

/-- A version of a participant is between one and the length of the chain. -/
theorem Consistent.version_range (h : d.Consistent) {a : Attestation} (ha : a ∈ d.attestations) :
    1 ≤ a.version ∧ a.version ≤ (d.attestationsOf a.committeeId a.participantId).length := by
  have hmem : a.version ∈ (d.attestationsOf a.committeeId a.participantId).map Attestation.version :=
    List.mem_map_of_mem (mem_attestationsOf.2 ⟨ha, rfl, rfl⟩)
  rw [h.versions, List.mem_range'_1] at hmem
  omega

/-- Every version up to the length of the chain is issued. -/
theorem Consistent.exists_version (h : d.Consistent) {c p : Uuid} {v : ℕ} (hv : 1 ≤ v)
    (hle : v ≤ (d.attestationsOf c p).length) :
    ∃ a ∈ d.attestations, a.committeeId = c ∧ a.participantId = p ∧ a.version = v := by
  have hmem : v ∈ (d.attestationsOf c p).map Attestation.version := by
    rw [h.versions, List.mem_range'_1]
    omega
  obtain ⟨a, ha, rfl⟩ := List.mem_map.1 hmem
  obtain ⟨ha, hc, hp⟩ := mem_attestationsOf.1 ha
  exact ⟨a, ha, hc, hp, rfl⟩

theorem Consistent.version_unique (h : d.Consistent) {a b : Attestation} (ha : a ∈ d.attestations)
    (hb : b ∈ d.attestations) (hc : a.committeeId = b.committeeId)
    (hp : a.participantId = b.participantId) (hv : a.version = b.version) : a = b := by
  have hnodup : ((d.attestationsOf a.committeeId a.participantId).map Attestation.version).Nodup := by
    rw [h.versions]
    exact List.nodup_range'
  exact List.inj_on_of_nodup_map hnodup (mem_attestationsOf.2 ⟨ha, rfl, rfl⟩)
    (mem_attestationsOf.2 ⟨hb, hc.symm, hp.symm⟩) hv

/-- The next version renews the one before it. -/
theorem Consistent.renews_of_version (h : d.Consistent) {a b : Attestation}
    (ha : a ∈ d.attestations) (hb : b ∈ d.attestations) (hc : a.committeeId = b.committeeId)
    (hp : a.participantId = b.participantId) (hv : b.version = a.version + 1) :
    b.supersedesId = some a.id := by
  have hpos := (h.version_range ha).1
  cases hid : b.supersedesId with
  | none =>
    have := (h.first b hb).1 hid
    omega
  | some id =>
    obtain ⟨a', ha', hid', hc', hp', hv'⟩ := h.predecessor b hb id hid
    rw [h.version_unique ha ha' (hc.trans hc'.symm) (hp.trans hp'.symm) (by omega), hid']

/-- An attestation before the last one has been renewed. -/
theorem Consistent.exists_successor (h : d.Consistent) {a : Attestation} (ha : a ∈ d.attestations)
    (hlt : a.version < (d.attestationsOf a.committeeId a.participantId).length) :
    ∃ b ∈ d.attestations, b.committeeId = a.committeeId ∧ b.participantId = a.participantId ∧
      b.version = a.version + 1 ∧ b.supersedesId = some a.id := by
  obtain ⟨b, hb, hc, hp, hv⟩ :=
    h.exists_version (c := a.committeeId) (p := a.participantId) (v := a.version + 1)
      (by omega) (by omega)
  exact ⟨b, hb, hc, hp, hv, h.renews_of_version ha hb hc.symm hp.symm hv⟩

/-- Only the last attestation of a chain can be issued and not yet activated. -/
theorem Sound.version_of_issued (h : d.Sound) {a : Attestation} (ha : a ∈ d.attestations)
    (hstate : a.state = .issued) :
    a.version = (d.attestationsOf a.committeeId a.participantId).length := by
  have hrange := h.version_range ha
  by_contra hne
  obtain ⟨b, hb, -, -, -, hsup⟩ := h.exists_successor ha (by omega)
  exact (h.superseded b hb a ha hsup).1 hstate

/-- An active attestation is the last of its chain, or its renewal is still to be activated. -/
theorem Sound.successor_issued (h : d.Sound) {a b : Attestation} (ha : a ∈ d.attestations)
    (hb : b ∈ d.attestations) (hstate : a.state = .active) (hsup : b.supersedesId = some a.id) :
    b.state = .issued := by
  by_contra hne
  have := (h.superseded b hb a ha hsup).2 hne
  rw [hstate] at this
  exact absurd this (by decide)

theorem Sound.active_unique (h : d.Sound) {a b : Attestation} (ha : a ∈ d.attestations)
    (hb : b ∈ d.attestations) (hc : a.committeeId = b.committeeId)
    (hp : a.participantId = b.participantId) (hsa : a.state = .active) (hsb : b.state = .active) :
    a = b := by
  -- the successor of the older one would be issued, hence last, hence the newer one
  have lt_false : ∀ {x y : Attestation}, x ∈ d.attestations → y ∈ d.attestations →
      x.committeeId = y.committeeId → x.participantId = y.participantId → x.state = .active →
      y.state = .active → ¬ x.version < y.version := by
    intro x y hx hy hc hp hsx hsy hlt
    have hrange := h.version_range hy
    rw [← hc, ← hp] at hrange
    obtain ⟨z, hz, hzc, hzp, hzv, hzs⟩ := h.exists_successor hx (by omega)
    have hzi := h.successor_issued hx hz hsx hzs
    have hlast := h.version_of_issued hz hzi
    rw [hzc, hzp] at hlast
    have hzy : z = y :=
      h.version_unique hz hy (hzc.trans hc) (hzp.trans hp) (by omega)
    rw [hzy, hsy] at hzi
    exact absurd hzi (by decide)
  have h₁ := lt_false ha hb hc hp hsa hsb
  have h₂ := lt_false hb ha hc.symm hp.symm hsb hsa
  exact h.version_unique ha hb hc hp (by omega)

theorem Sound.issued_unique (h : d.Sound) {a b : Attestation} (ha : a ∈ d.attestations)
    (hb : b ∈ d.attestations) (hc : a.committeeId = b.committeeId)
    (hp : a.participantId = b.participantId) (hsa : a.state = .issued) (hsb : b.state = .issued) :
    a = b := by
  have hva := h.version_of_issued ha hsa
  have hvb := h.version_of_issued hb hsb
  rw [← hc, ← hp] at hvb
  exact h.version_unique ha hb hc hp (hva.trans hvb.symm)

/-! ## Issuance -/

section Issue

variable {new : Attestation}

/-- The tables after `new` has been issued. -/
def issueNew (d : DomainTables) (new : Attestation) : DomainTables :=
  { d with
    attestations := d.attestations ++ [new]
    statuses := d.statuses ++ [
      { attestationId := new.id, committeeId := new.committeeId, state := .issued
        effectiveAt := new.validFrom, version := 1 }] }

/-- An issuance takes the next version of the chain. -/
theorem Consistent.version_of_issuable (h : d.Consistent) (hnew : d.Issuable new) :
    new.version = (d.attestationsOf new.committeeId new.participantId).length + 1 := by
  set n := (d.attestationsOf new.committeeId new.participantId).length with hn
  -- a version that the chain already has is taken
  have htaken : ∀ v, 1 ≤ v → v ≤ n → v ≠ new.version := by
    intro v hv hle heq
    obtain ⟨a, ha, hc, hp, hav⟩ := h.exists_version hv hle
    exact hnew.newVersion a ha hc hp (hav.trans heq)
  rcases hnew.extend with ⟨hv, -⟩ | ⟨b, hb, hc, hp, -, hv, -⟩
  · have := htaken 1 le_rfl
    omega
  · have hrange := h.version_range hb
    rw [hc, hp, ← hn] at hrange
    have := htaken (b.version + 1)
    omega

/-- A request that is only issued carries no attestation yet. -/
theorem Sound.request_free (h : d.Sound) (hnew : d.Issuable new) :
    ∀ a ∈ d.attestations, a.requestId ≠ new.requestId := by
  intro a ha heq
  obtain ⟨r, hr, hrid, hrc, hrp, hrs⟩ := hnew.request
  have hissued : a.state = .issued := h.state_eq ha hr (hrid.trans heq.symm) hrs
  obtain ⟨r', hr', hrid', hrc', hrp', -⟩ := h.request a ha
  obtain rfl := h.requestIds r hr r' hr' (hrid.trans (heq.symm.trans hrid'.symm))
  have hc : a.committeeId = new.committeeId := hrc'.symm.trans hrc
  have hp : a.participantId = new.participantId := hrp'.symm.trans hrp
  have hlast := h.version_of_issued ha hissued
  have hrange := h.version_range ha
  rw [hc, hp] at hlast hrange
  have hversion := h.version_of_issuable hnew
  rcases hnew.extend with ⟨hv, -⟩ | ⟨b, hb, hbc, hbp, hbs, hv, -⟩
  · omega
  · have hab : a = b :=
      h.version_unique ha hb (hc.trans hbc.symm) (hp.trans hbp.symm) (by omega)
    rw [hab, hbs] at hissued
    exact absurd hissued (by decide)

theorem attestationsOf_issueNew (d : DomainTables) (new : Attestation) (c p : Uuid) :
    (d.issueNew new).attestationsOf c p = d.attestationsOf c p ++
      if new.committeeId = c ∧ new.participantId = p then [new] else [] := by
  simp only [attestationsOf, issueNew, List.filter_append, List.filter_singleton,
    Bool.cond_eq_ite, Bool.and_eq_true, decide_eq_true_eq]

theorem Sound.issueNew (h : d.Sound) (hnew : d.Issuable new) : (d.issueNew new).Sound where
  requestIds := h.requestIds
  requestReferences := h.requestReferences
  requestTenant := h.requestTenant
  requestOpaque := h.requestOpaque
  attestationIds := h.attestationIds.append hnew.newId
  attestationReferences := h.attestationReferences.append hnew.newReference
  attestationRequests := h.attestationRequests.append (h.request_free hnew)
  request := by
    intro a ha
    rcases List.mem_append.1 ha with ha | ha
    · exact h.request a ha
    · obtain rfl := List.mem_singleton.1 ha
      obtain ⟨r, hr, hrid, hrc, hrp, hrs⟩ := hnew.request
      exact ⟨r, hr, hrid, hrc, hrp, by rw [hrs, hnew.state]; rfl⟩
  statusIds := by
    refine h.statusIds.append fun s hs heq => ?_
    obtain ⟨a, ha, haid⟩ := h.statusTenant s hs
    exact hnew.newId a ha (haid.trans heq)
  status := by
    intro a ha
    rcases List.mem_append.1 ha with ha | ha
    · obtain ⟨s, hs, hsid, hss⟩ := h.status a ha
      exact ⟨s, List.mem_append_left _ hs, hsid, hss⟩
    · obtain rfl := List.mem_singleton.1 ha
      exact ⟨_, List.mem_append_right _ (List.mem_singleton.2 rfl), rfl, hnew.state.symm⟩
  statusTenant := by
    intro s hs
    rcases List.mem_append.1 hs with hs | hs
    · obtain ⟨a, ha, haid⟩ := h.statusTenant s hs
      exact ⟨a, List.mem_append_left _ ha, haid⟩
    · obtain rfl := List.mem_singleton.1 hs
      exact ⟨new, List.mem_append_right _ (List.mem_singleton.2 rfl), rfl⟩
  complete := by
    intro a ha
    rcases List.mem_append.1 ha with ha | ha
    · exact h.complete a ha
    · obtain rfl := List.mem_singleton.1 ha
      simp [hnew.state, hnew.incomplete]
  window := by
    intro a ha
    rcases List.mem_append.1 ha with ha | ha
    · exact h.window a ha
    · obtain rfl := List.mem_singleton.1 ha
      exact hnew.window
  versions := by
    intro c p
    rw [attestationsOf_issueNew]
    split_ifs with hown
    · obtain ⟨rfl, rfl⟩ := hown
      have hversion := h.version_of_issuable hnew
      rw [List.map_append, h.versions, List.map_singleton, List.length_append,
        List.length_singleton, List.range'_1_concat, hversion, Nat.add_comm 1]
    · simpa using h.versions c p
  predecessor := by
    intro a ha id hid
    rcases List.mem_append.1 ha with ha | ha
    · obtain ⟨b, hb, hrest⟩ := h.predecessor a ha id hid
      exact ⟨b, List.mem_append_left _ hb, hrest⟩
    · obtain rfl := List.mem_singleton.1 ha
      rcases hnew.extend with ⟨-, hnone⟩ | ⟨b, hb, hc, hp, -, hv, hsome⟩
      · rw [hnone] at hid
        cases hid
      · rw [hsome] at hid
        exact ⟨b, List.mem_append_left _ hb, Option.some.inj hid, hc, hp, hv⟩
  first := by
    intro a ha
    rcases List.mem_append.1 ha with ha | ha
    · exact h.first a ha
    · obtain rfl := List.mem_singleton.1 ha
      rcases hnew.extend with ⟨hv, hnone⟩ | ⟨b, hb, -, -, -, hv, hsome⟩
      · simp [hv, hnone]
      · have := (h.version_range hb).1
        simp only [hsome, reduceCtorEq, false_iff]
        omega
  revocationIds := h.revocationIds
  revocationTenant := by
    intro r hr
    obtain ⟨a, ha, haid⟩ := h.revocationTenant r hr
    exact ⟨a, List.mem_append_left _ ha, haid⟩
  superseded := by
    intro a ha b hb hab
    rcases List.mem_append.1 hb with hb₀ | hb
    · rcases List.mem_append.1 ha with ha | ha
      · exact h.superseded a ha b hb₀ hab
      · obtain rfl := List.mem_singleton.1 ha
        refine ⟨?_, fun hne => absurd hnew.state hne⟩
        rcases hnew.extend with ⟨-, hnone⟩ | ⟨b', hb', -, -, hactive, -, hsome⟩
        · rw [hnone] at hab
          cases hab
        · have hid : b'.id = b.id := Option.some.inj (hsome.symm.trans hab)
          rw [← h.attestationIds b' hb' b hb₀ hid, hactive]
          decide
    · -- nothing renews the new attestation
      obtain rfl := List.mem_singleton.1 hb
      rcases List.mem_append.1 ha with ha | ha
      · obtain ⟨b', hb', hid, -⟩ := h.predecessor a ha _ hab
        exact absurd hid (hnew.newId b' hb')
      · obtain rfl := List.mem_singleton.1 ha
        rcases hnew.extend with ⟨-, hnone⟩ | ⟨b', hb', -, -, -, -, hsome⟩
        · rw [hnone] at hab
          cases hab
        · exact absurd (Option.some.inj (hsome.symm.trans hab)) (hnew.newId b' hb')
  revocation := by
    intro a ha
    rcases List.mem_append.1 ha with ha | ha
    · exact h.revocation a ha
    · obtain rfl := List.mem_singleton.1 ha
      refine iff_of_false (by rw [hnew.state]; decide) ?_
      rintro ⟨r, hr, hrid⟩
      obtain ⟨a', ha', haid⟩ := h.revocationTenant r hr
      exact hnew.newId a' ha' (haid.trans hrid)

end Issue

/-! ## Every command -/

/-- Every change a command can make keeps the tables sound. -/
theorem Sound.of_effect (h : d.Sound) {command : Command} {d' : DomainTables}
    (e : Effect d command d') : d'.Sound := by
  cases e with
  | unchanged => exact h
  | requested input row newId newReference tenant isOpaque =>
    exact { h with
      requestIds := h.requestIds.append newId
      requestReferences := h.requestReferences.append newReference
      requestTenant := by
        intro r hr
        rcases List.mem_append.1 hr with hr | hr
        · exact h.requestTenant r hr
        · rw [List.mem_singleton.1 hr]
          exact tenant
      requestOpaque := by
        intro r hr
        rcases List.mem_append.1 hr with hr | hr
        · exact h.requestOpaque r hr
        · rw [List.mem_singleton.1 hr]
          exact isOpaque
      request := by
        intro a ha
        obtain ⟨r, hr, hrest⟩ := h.request a ha
        exact ⟨r, List.mem_append_left _ hr, hrest⟩ }
  | decided input decisions => exact { h with }
  | moved c input p state outside =>
    exact { h with
      requestIds := h.requestIds.set fun _ => rfl
      requestReferences := h.requestReferences.set fun _ => rfl
      requestTenant := by
        intro r hr
        obtain ⟨r₀, hr₀, rfl⟩ := Table.exists_of_mem_set hr
        split_ifs <;> exact h.requestTenant r₀ hr₀
      requestOpaque := by
        intro r hr
        obtain ⟨r₀, hr₀, rfl⟩ := Table.exists_of_mem_set hr
        split_ifs <;> exact h.requestOpaque r₀ hr₀
      request := by
        intro a ha
        obtain ⟨r, hr, hrid, hrc, hrp, hrs⟩ := h.request a ha
        have hp : p r = false := by
          by_contra hp
          exact outside r hr (by simpa using hp) a.state hrs
        exact ⟨r, Table.mem_set.2 (Or.inr ⟨hr, hp⟩), hrid, hrc, hrp, hrs⟩ }
  | issued input new issuable => exact h.issueNew issuable
  | activated input a mem named state window first =>
    refine h.setState mem (by decide) ⟨by decide, by rw [state]; decide⟩ (Or.inl rfl) ?_ ?_
    · intro b _ hb
      rw [first] at hb
      cases hb
    · intro x hx hxa
      exact absurd state (h.superseded x hx a mem hxa).1
  | renewed input a b mem named state window memPrior prior priorState =>
    obtain ⟨hid, hrequest⟩ := h.ne_predecessor mem memPrior prior
    rw [setState_comm hid hrequest]
    -- superseding first keeps the order along the chain at every step
    have h₁ : (d.setState b .superseded input.observedAt false).Sound := by
      refine h.setState memPrior (by decide) ⟨by decide, by rw [priorState]; decide⟩
        (Or.inr (by rw [priorState]; decide)) ?_ fun _ _ _ _ => rfl
      intro x hx hbx
      exact (h.superseded b memPrior x hx hbx).2 (by rw [priorState]; decide)
    have ha₁ : a ∈ (d.setState b .superseded input.observedAt false).attestations :=
      (h.mem_setState memPrior).2 (Or.inr ⟨mem, hid.symm⟩)
    refine h₁.setState ha₁ (by decide) ⟨by decide, by rw [state]; decide⟩ (Or.inl rfl) ?_ ?_
    · intro x hx hax
      rcases (h.mem_setState memPrior).1 hx with rfl | ⟨-, hne⟩
      · rfl
      · exact absurd (Option.some.inj (hax.symm.trans prior)) hne
    · intro x hx hxa
      exact absurd state (h₁.superseded x hx a ha₁ hxa).1
  | expired input a mem named state due =>
    refine h.setState mem (by decide) ⟨by decide, by rw [state]; decide⟩
      (Or.inr (by rw [state]; decide)) ?_ ?_
    · intro b hb hab
      exact (h.superseded a mem b hb hab).2 (by rw [state]; decide)
    · intro x hx hxa hne
      exact absurd (h.successor_issued mem hx state hxa) hne
  | revoked input a r mem named state of effective new =>
    have hrevoked : ({ d with revocations := d.revocations ++ [r] } : DomainTables).Consistent :=
      { h.toConsistent with
        revocationIds := h.revocationIds.append fun r' hr' heq => new r' hr' (heq.trans of)
        revocationTenant := by
          intro r' hr'
          rcases List.mem_append.1 hr' with hr' | hr'
          · exact h.revocationTenant r' hr'
          · rw [List.mem_singleton.1 hr']
            exact ⟨a, mem, of.symm⟩ }
    refine ⟨hrevoked.setState mem (by decide) (Or.inr (by rw [state]; decide)),
      h.superseded_setState mem (by decide) ?_ ?_ input.observedAt false, ?_⟩
    · intro b hb hab
      exact (h.superseded a mem b hb hab).2 (by rw [state]; decide)
    · intro x hx hxa hne
      exact absurd (h.successor_issued mem hx state hxa) hne
    · intro x hx
      rcases (hrevoked.mem_setState mem).1 hx with rfl | ⟨hx, hne⟩
      · exact iff_of_true rfl ⟨r, List.mem_append_right _ (List.mem_singleton.2 rfl), of⟩
      · refine (h.revocation x hx).trans ⟨?_, ?_⟩
        · rintro ⟨r', hr', hid⟩
          exact ⟨r', List.mem_append_left _ hr', hid⟩
        · rintro ⟨r', hr', hid⟩
          rcases List.mem_append.1 hr' with hr' | hr'
          · exact ⟨r', hr', hid⟩
          · rw [List.mem_singleton.1 hr', of] at hid
            exact absurd hid.symm hne

end DomainTables

/-! ## Every run -/

/-- A database without requests and attestations is sound. -/
theorem Db.Initial.sound {db : Db} (h : db.Initial) : db.toDomainTables.Sound := by
  obtain ⟨hr, ha, hs, hv⟩ := h
  refine ⟨⟨?_, ?_, ?_, ?_, ?_, ?_, ?_, ?_, ?_, ?_, ?_, ?_, ?_, ?_, ?_, ?_, ?_, ?_⟩, ?_, ?_⟩
  all_goals simp [Table.Unique, DomainTables.attestationsOf, hr, ha, hs, hv]

/-- Every reachable database is sound. -/
theorem Db.Reachable.sound {C : Db → Command → Prop} {db : Db} (h : db.Reachable C) :
    db.toDomainTables.Sound := by
  obtain ⟨db₀, hinit, hreach⟩ := h
  refine hreach.invariant (I := fun db => db.toDomainTables.Sound) hinit.sound ?_
  intro s command s' hs _ hstep
  obtain rfl : s.exec command = s' := Option.some.inj hstep
  exact hs.of_effect (effect_of_exec hs command)

/-- The attestations of one participant in one committee form a single chain of renewals with the
versions `1, …, n`; at most one of them is active and at most one issued. -/
structure DomainTables.IsChain (d : DomainTables) (c p : Uuid) : Prop where
  versions : (d.attestationsOf c p).map Attestation.version =
    List.range' 1 (d.attestationsOf c p).length
  starts : ∀ a ∈ (d.attestationsOf c p).head?, a.supersedesId = none
  renews : (d.attestationsOf c p).IsChain fun a b => b.supersedesId = some a.id
  active : ∀ a ∈ d.attestationsOf c p, ∀ b ∈ d.attestationsOf c p,
    a.state = .active → b.state = .active → a = b
  issued : ∀ a ∈ d.attestationsOf c p, ∀ b ∈ d.attestationsOf c p,
    a.state = .issued → b.state = .issued → a = b

/-- An attestation, its status row and its verification request are in one state. -/
def DomainTables.StatesAgree (d : DomainTables) (a : Attestation) : Prop :=
  (∃ s ∈ d.statuses, s.attestationId = a.id) ∧
  (∀ s ∈ d.statuses, s.attestationId = a.id → s.state = a.state) ∧
  (∃ r ∈ d.requests, r.id = a.requestId) ∧
  ∀ r ∈ d.requests, r.id = a.requestId → r.state = a.state.toVerification

theorem DomainTables.Sound.isChain {d : DomainTables} (h : d.Sound) (c p : Uuid) :
    d.IsChain c p where
  versions := h.versions c p
  starts := by
    intro a ha
    obtain ⟨rest, hrest⟩ : ∃ rest, d.attestationsOf c p = a :: rest := by
      cases hl : d.attestationsOf c p with
      | nil => simp [hl] at ha
      | cons x rest =>
        simp only [hl, List.head?_cons, Option.mem_def, Option.some.injEq] at ha
        exact ⟨rest, by rw [ha]⟩
    have hmem : a ∈ d.attestationsOf c p := by simp [hrest]
    have hversions := h.versions c p
    rw [hrest, List.map_cons, List.length_cons, List.range'_succ] at hversions
    exact (h.first a (DomainTables.mem_attestationsOf.1 hmem).1).2 (List.cons.inj hversions).1
  renews := by
    rw [List.isChain_iff_getElem]
    intro i hi
    have version_at : ∀ j (hj : j < (d.attestationsOf c p).length),
        (d.attestationsOf c p)[j].version = 1 + j := by
      intro j hj
      have hget := congrArg (fun l => l[j]?) (h.versions c p)
      simpa [hj] using hget
    have hi' : i < (d.attestationsOf c p).length := by omega
    obtain ⟨ha, hac, hap⟩ := DomainTables.mem_attestationsOf.1 (List.getElem_mem hi')
    obtain ⟨hb, hbc, hbp⟩ := DomainTables.mem_attestationsOf.1 (List.getElem_mem hi)
    refine h.renews_of_version ha hb (hac.trans hbc.symm) (hap.trans hbp.symm) ?_
    rw [version_at, version_at]
    omega
  active := by
    intro a ha b hb hsa hsb
    obtain ⟨ha, hac, hap⟩ := DomainTables.mem_attestationsOf.1 ha
    obtain ⟨hb, hbc, hbp⟩ := DomainTables.mem_attestationsOf.1 hb
    exact h.active_unique ha hb (hac.trans hbc.symm) (hap.trans hbp.symm) hsa hsb
  issued := by
    intro a ha b hb hsa hsb
    obtain ⟨ha, hac, hap⟩ := DomainTables.mem_attestationsOf.1 ha
    obtain ⟨hb, hbc, hbp⟩ := DomainTables.mem_attestationsOf.1 hb
    exact h.issued_unique ha hb (hac.trans hbc.symm) (hap.trans hbp.symm) hsa hsb

theorem DomainTables.Sound.statesAgree {d : DomainTables} (h : d.Sound) {a : Attestation}
    (ha : a ∈ d.attestations) : d.StatesAgree a := by
  obtain ⟨s, hs, hsid, hss⟩ := h.status a ha
  obtain ⟨r, hr, hrid, -, -, hrs⟩ := h.request a ha
  refine ⟨⟨s, hs, hsid⟩, fun s' hs' hid => ?_, ⟨r, hr, hrid⟩, fun r' hr' hid => ?_⟩
  · rw [h.statusIds s' hs' s hs (hid.trans hsid.symm), hss]
  · rw [h.requestIds r' hr' r hr (hid.trans hrid.symm), hrs]

/-- In every reachable database the attestations of a participant in a committee form one chain, no
two attestations share a request, and an attestation, its status and its request agree. -/
theorem attestation_chain {db : Db} (h : db.Reachable fun _ _ => True) :
    (∀ c p, db.toDomainTables.IsChain c p) ∧
      (∀ a ∈ db.attestations, ∀ b ∈ db.attestations, a.requestId = b.requestId → a = b) ∧
      ∀ a ∈ db.attestations, db.toDomainTables.StatesAgree a :=
  ⟨h.sound.isChain, h.sound.attestationRequests, fun _ ha => h.sound.statesAgree ha⟩

theorem attestation_chain_renewable : Sample.renewable.toDomainTables.IsChain 1 2 :=
  (attestation_chain Sample.renewable_reachable).1 1 2

end ChecksAndBalances
