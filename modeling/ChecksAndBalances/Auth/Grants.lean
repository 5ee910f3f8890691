import ChecksAndBalances.Auth.Authorization

/-!
# Grants

What `authorize` allows: the actions of each trust domain, the entries of the capability table, and
the part that the order of the lists of a request plays.
-/

namespace ChecksAndBalances

variable {request : AuthorizationRequest}

/-! ## The checks, read off the request -/

/-- Some role of the actor grants the action. -/
def AuthorizationRequest.Capable (request : AuthorizationRequest) : Prop :=
  ∃ role ∈ request.roles, request.action ∈ capabilities role

/-- The trust domain that the roles of the actor belong to. -/
def AuthorizationRequest.expectedDomain (request : AuthorizationRequest) : ActorTrustDomain :=
  if .relyingParty ∈ request.roles then .service else .committee

/-- The actor is a member of the committee it acts on. -/
structure InCommittee (request : AuthorizationRequest) : Prop where
  sameCommittee : request.actorCommitteeReference = request.targetCommitteeReference
  committee : request.committeeState = some .active
  membership : request.membershipState = some .active

/-- The actor may take part in a decision. -/
structure MayDecide (request : AuthorizationRequest) : Prop where
  conflict : request.conflicted = false
  assigned : request.assignedToSession = true

/-- The request is for a resource of the participant. -/
structure OwnResource (request : AuthorizationRequest) : Prop where
  action : request.action ∈ ownResourceActions
  domain : request.actorTrustDomain = .participant
  owner : request.resourceOwnerReference = some request.actorReference

/-- The request is for an action that a role of the actor grants. -/
structure RoleGrant (request : AuthorizationRequest) : Prop where
  action : request.action ∉ ownResourceActions
  domain : request.actorTrustDomain = request.expectedDomain
  capable : request.Capable
  committee : request.action ≠ .relyingPartyReadStatus → InCommittee request
  decision : request.action ∈ decisionActions → MayDecide request

/-- The request passes the checks on the actor, its grants and its committee. -/
structure Granted (request : AuthorizationRequest) : Prop where
  account : request.actorAccountState = .active
  grant : OwnResource request ∨ RoleGrant request

/-- The preconditions and the features of the request are there. -/
structure Prepared (request : AuthorizationRequest) : Prop where
  state : request.statePreconditionsSatisfied = true
  features : ∀ feature ∈ request.requiredFeatures, feature ∈ request.enabledFeatures

/-- The actor has lately proved who it is. -/
def AuthorizationRequest.RecentStrong (request : AuthorizationRequest) : Prop :=
  recentStrong request.authenticationStrength request.reauthenticatedAt request.now
    request.reauthenticationWindowMs = true

/-- The request passes the checks behind the grant. -/
structure Cleared (request : AuthorizationRequest) : Prop extends Prepared request where
  policies : currentPolicies request = true
  recent : request.action ∈ privilegedActions → request.RecentStrong
  approval : request.action ∈ fourEyesActions → lacksApproval request = false

theorem ite_some_eq_none {α : Type} {c : Prop} [Decidable c] {a : α} {o : Option α} :
    (if c then some a else o) = none ↔ ¬ c ∧ o = none := by
  by_cases hc : c
  · simp [hc]
  · simp [hc]

theorem grantDenial_eq_none_iff : grantDenial request = none ↔ Granted request := by
  constructor
  · intro h
    rw [grantDenial, ite_some_eq_none] at h
    obtain ⟨haccount, h⟩ := h
    by_cases hown : request.action ∈ ownResourceActions
    · rw [if_pos hown, ite_some_eq_none, ite_some_eq_none] at h
      exact ⟨not_ne_iff.1 haccount, .inl ⟨hown, not_ne_iff.1 h.1, not_ne_iff.1 h.2.1⟩⟩
    · rw [if_neg hown] at h
      simp only [ite_some_eq_none] at h
      obtain ⟨hdomain, hcapable, hsame, hcommittee, hmember, hconflict, hassigned, -⟩ := h
      refine ⟨not_ne_iff.1 haccount, .inr ⟨hown, not_ne_iff.1 hdomain, ?_, ?_, ?_⟩⟩
      · simpa [AuthorizationRequest.Capable] using hcapable
      · intro hread
        simp only [ne_eq, hread, not_false_eq_true, true_and, not_not] at hsame hcommittee hmember
        exact ⟨hsame, hcommittee, hmember⟩
      · intro hdecision
        simp only [hdecision, true_and, Bool.not_eq_true, Bool.not_eq_false] at hconflict hassigned
        exact ⟨hconflict, hassigned⟩
  · rintro ⟨haccount, hown | hrole⟩
    · simp [grantDenial, haccount, hown.action, hown.domain, hown.owner]
    · have hany : request.roles.any (fun role => request.action ∈ capabilities role) = true := by
        simpa [AuthorizationRequest.Capable] using hrole.capable
      have hdomain := hrole.domain
      unfold AuthorizationRequest.expectedDomain at hdomain
      unfold grantDenial
      rw [if_neg (not_ne_iff.2 haccount), if_neg hrole.action, if_neg (not_ne_iff.2 hdomain),
        if_neg (not_not.2 hany), if_neg fun h => h.2 (hrole.committee h.1).sameCommittee,
        if_neg fun h => h.2 (hrole.committee h.1).committee,
        if_neg fun h => h.2 (hrole.committee h.1).membership,
        if_neg fun h => by simp [(hrole.decision h.1).conflict] at h,
        if_neg fun h => h.2 (hrole.decision h.1).assigned]
/-- A request is allowed when it is granted and cleared. -/
theorem authorize_allowed_iff_granted :
    (authorize request).allowed = true ↔ Granted request ∧ Cleared request := by
  rw [authorize_allowed_iff, grantDenial_eq_none_iff]
  constructor
  · rintro ⟨hgranted, hstate, hfeatures, hpolicies, hrecent, happroval⟩
    exact ⟨hgranted, ⟨⟨hstate, hfeatures⟩, hpolicies, hrecent, happroval⟩⟩
  · rintro ⟨hgranted, hcleared⟩
    exact ⟨hgranted, hcleared.state, hcleared.features, hcleared.policies, hcleared.recent,
      hcleared.approval⟩

/-! ## Trust domains -/

/-- The action is one of the trust domain of the actor. -/
def InOwnDomain (request : AuthorizationRequest) : Prop :=
  match request.actorTrustDomain with
  | .service => request.action = .relyingPartyReadStatus
  | .participant =>
    request.action ∈ ownResourceActions ∧
      request.resourceOwnerReference = some request.actorReference
  | .committee =>
    ∃ role ∈ request.roles, role ≠ .relyingParty ∧ request.action ∈ capabilities role

/-- A service actor asks for an action that one of its roles grants to members of a committee. -/
structure MixedGrant (request : AuthorizationRequest) : Prop where
  domain : request.actorTrustDomain = .service
  service : .relyingParty ∈ request.roles
  action : request.action ∉ ownResourceActions
  mixed : ∃ role ∈ request.roles, role ≠ .relyingParty ∧ request.action ∈ capabilities role

theorem mem_capabilities_relyingParty {action : AuthorizationAction} :
    action ∈ capabilities .relyingParty ↔ action = .relyingPartyReadStatus := by
  simp [capabilities]

/-- No other role reads the status of an attestation. -/
theorem eq_relyingParty_of_read {role : AuthorizationRole}
    (h : .relyingPartyReadStatus ∈ capabilities role) : role = .relyingParty := by
  revert h
  cases role <;> decide

theorem MixedGrant.ne_read (h : MixedGrant request) :
    request.action ≠ .relyingPartyReadStatus := by
  obtain ⟨role, -, hrole, hcapable⟩ := h.mixed
  intro hread
  rw [hread] at hcapable
  exact hrole (eq_relyingParty_of_read hcapable)

/-- What a grant to a role says of the trust domain of the actor. -/
theorem RoleGrant.inOwnDomain_or_mixed (h : RoleGrant request) :
    InOwnDomain request ∨ MixedGrant request := by
  obtain ⟨role, hrole, hcapable⟩ := h.capable
  have hdomain := h.domain
  unfold AuthorizationRequest.expectedDomain at hdomain
  unfold InOwnDomain
  split_ifs at hdomain with hservice
  · rw [hdomain]
    by_cases hread : request.action = .relyingPartyReadStatus
    · exact .inl hread
    · refine .inr ⟨hdomain, hservice, h.action, role, hrole, ?_, hcapable⟩
      rintro rfl
      exact hread (mem_capabilities_relyingParty.1 hcapable)
  · rw [hdomain]
    refine .inl ⟨role, hrole, ?_, hcapable⟩
    rintro rfl
    exact hservice hrole

/-- `authorize` keeps the trust domains apart except for service actors that also hold a role of a
committee. -/
theorem trust_domains_separated_iff (request : AuthorizationRequest) :
    ((authorize request).allowed = true → InOwnDomain request) ↔
      ¬ (MixedGrant request ∧ request.actorAccountState = .active ∧ InCommittee request ∧
        (request.action ∈ decisionActions → MayDecide request) ∧ Cleared request) := by
  rw [authorize_allowed_iff_granted]
  constructor
  · rintro h ⟨hmixed, haccount, hcommittee, hdecision, hcleared⟩
    have hdomain : request.actorTrustDomain = request.expectedDomain := by
      rw [AuthorizationRequest.expectedDomain, if_pos hmixed.service, hmixed.domain]
    obtain ⟨role, hrole, -, hcapable⟩ := hmixed.mixed
    have hgrant : RoleGrant request :=
      ⟨hmixed.action, hdomain, ⟨role, hrole, hcapable⟩, fun _ => hcommittee, hdecision⟩
    have hseparated := h ⟨⟨haccount, .inr hgrant⟩, hcleared⟩
    unfold InOwnDomain at hseparated
    rw [hmixed.domain] at hseparated
    exact hmixed.ne_read hseparated
  · rintro h ⟨⟨haccount, hown | hrole⟩, hcleared⟩
    · unfold InOwnDomain
      rw [hown.domain]
      exact ⟨hown.action, hown.owner⟩
    · refine hrole.inOwnDomain_or_mixed.resolve_right fun hmixed => h ?_
      exact ⟨hmixed, haccount, hrole.committee hmixed.ne_read, hrole.decision, hcleared⟩

/-- A request of a member of an active committee, with nothing left to ask for. -/
def sampleRequest (action : AuthorizationAction) (domain : ActorTrustDomain)
    (roles : List AuthorizationRole) : AuthorizationRequest where
  action := action
  actorReference := "actor:one"
  actorAccountState := .active
  actorTrustDomain := domain
  roles := roles
  authenticationStrength := .passkey
  reauthenticatedAt := some 0
  now := 0
  reauthenticationWindowMs := 300000
  actorCommitteeReference := some "committee:kelowna"
  targetCommitteeReference := some "committee:kelowna"
  resourceOwnerReference := none
  membershipState := some .active
  committeeState := some .active
  assignedToSession := true
  conflicted := false
  enabledFeatures := []
  requiredFeatures := []
  requiredPolicyKeys := []
  policies := []
  statePreconditionsSatisfied := true
  fourEyesApproval := some {
    approverReference := "actor:two"
    approverRoles := [.steward]
    active := true
    authenticationStrength := .passkey
    reauthenticatedAt := some 0 }

/-- A service actor that is a scheduler too schedules a session. -/
theorem service_schedules_session :
    (authorize (sampleRequest .sessionSchedule .service [.relyingParty, .scheduler])).allowed =
      true ∧
    ¬ InOwnDomain (sampleRequest .sessionSchedule .service [.relyingParty, .scheduler]) :=
  ⟨by decide, by simp [InOwnDomain, sampleRequest]⟩

/-! ## The capability table -/

/-- An active member of an active committee asks with nothing left to ask for. -/
structure CommitteeReady (request : AuthorizationRequest) : Prop extends
    InCommittee request, MayDecide request, Prepared request where
  account : request.actorAccountState = .active
  domain : request.actorTrustDomain = .committee
  noRelyingParty : .relyingParty ∉ request.roles
  policies : currentPolicies request = true
  recent : request.RecentStrong
  approval : lacksApproval request = false

theorem CommitteeReady.cleared (h : CommitteeReady request) : Cleared request :=
  ⟨h.toPrepared, h.policies, fun _ => h.recent, fun _ => h.approval⟩

theorem CommitteeReady.expectedDomain (h : CommitteeReady request) :
    request.actorTrustDomain = request.expectedDomain := by
  rw [AuthorizationRequest.expectedDomain, if_neg h.noRelyingParty, h.domain]

/-- Nothing but the capability table and the actions on own resources is left to decide. -/
theorem CommitteeReady.allowed_iff (h : CommitteeReady request) :
    (authorize request).allowed = true ↔
      request.Capable ∧ request.action ∉ ownResourceActions := by
  rw [authorize_allowed_iff_granted]
  constructor
  · rintro ⟨⟨-, hown | hrole⟩, -⟩
    · have hparticipant := hown.domain
      rw [h.domain] at hparticipant
      cases hparticipant
    · exact ⟨hrole.capable, hrole.action⟩
  · rintro ⟨hcapable, haction⟩
    have hgrant : RoleGrant request :=
      ⟨haction, h.expectedDomain, hcapable, fun _ => h.toInCommittee, fun _ => h.toMayDecide⟩
    exact ⟨⟨h.account, .inr hgrant⟩, h.cleared⟩

/-- The one entry of the table that is an action on an own resource. -/
theorem capability_own_iff {role : AuthorizationRole} {action : AuthorizationAction} :
    action ∈ capabilities role ∧ action ∈ ownResourceActions ↔
      role = .privacy ∧ action = .participantExportSensitive := by
  constructor
  · rintro ⟨hcapable, hown⟩
    revert hcapable hown
    cases role <;> cases action <;> decide
  · rintro ⟨rfl, rfl⟩
    decide

/-- A ready request is allowed exactly for the entries of the table, but for the export that the
table grants to the privacy role. -/
theorem capability_table_attained_iff (hready : CommitteeReady request) :
    ((authorize request).allowed = true ↔
      ∃ role ∈ request.roles, request.action ∈ capabilities role) ↔
      ¬ (request.action = .participantExportSensitive ∧ .privacy ∈ request.roles) := by
  rw [hready.allowed_iff]
  constructor
  · rintro h ⟨haction, hprivacy⟩
    have hcapable : request.action ∈ capabilities .privacy := by
      rw [haction]
      decide
    exact (h.2 ⟨_, hprivacy, hcapable⟩).2 (haction ▸ by decide)
  · intro h
    refine ⟨fun hallowed => hallowed.1, fun hcapable => ⟨hcapable, fun hown => h ?_⟩⟩
    obtain ⟨role, hrole, hcapable⟩ := hcapable
    obtain ⟨rfl, haction⟩ := capability_own_iff.1 ⟨hcapable, hown⟩
    exact ⟨haction, hrole⟩

theorem sampleRequest_ready {action : AuthorizationAction} {roles : List AuthorizationRole}
    (h : .relyingParty ∉ roles) : CommitteeReady (sampleRequest action .committee roles) where
  sameCommittee := rfl
  committee := rfl
  membership := rfl
  conflict := rfl
  assigned := rfl
  state := rfl
  features := by simp [sampleRequest]
  account := rfl
  domain := rfl
  noRelyingParty := h
  policies := rfl
  recent := by simp [AuthorizationRequest.RecentStrong, recentStrong, sampleRequest]
  approval := by simp [lacksApproval, recentStrong, sampleRequest]

/-- A privacy officer fulfils a request. -/
theorem capability_table_attained_privacy :
    ((authorize (sampleRequest .privacyFulfilRequest .committee [.privacy])).allowed = true ↔
      ∃ role ∈ [AuthorizationRole.privacy],
        AuthorizationAction.privacyFulfilRequest ∈ capabilities role) :=
  (capability_table_attained_iff (sampleRequest_ready (by decide))).2 (by decide)

/-- A privacy officer does not export what the table lets it export. -/
theorem privacy_export_denied :
    CommitteeReady (sampleRequest .participantExportSensitive .committee [.privacy]) ∧
    AuthorizationAction.participantExportSensitive ∈ capabilities .privacy ∧
    (authorize (sampleRequest .participantExportSensitive .committee [.privacy])).allowed = false :=
  ⟨sampleRequest_ready (by decide), by decide, by decide⟩

/-! ## The order of the lists -/

/-- The lists of the request in another order. -/
inductive Reordered (request : AuthorizationRequest) : AuthorizationRequest → Prop
  | mk {roles : List AuthorizationRole}
      {enabledFeatures requiredFeatures requiredPolicyKeys : List String}
      {policies : List CurrentPolicyGate} (hroles : roles.Perm request.roles)
      (henabled : enabledFeatures.Perm request.enabledFeatures)
      (hrequired : requiredFeatures.Perm request.requiredFeatures)
      (hkeys : requiredPolicyKeys.Perm request.requiredPolicyKeys)
      (hpolicies : policies.Perm request.policies) :
      Reordered request
        { request with roles, enabledFeatures, requiredFeatures, requiredPolicyKeys, policies }

/-- The entry is in force and acknowledged at its version. -/
def CurrentPolicyGate.current (now : ℤ) (policy : CurrentPolicyGate) : Bool :=
  policy.effectiveAt ≤ now && policy.expiresAt.all (fun expiresAt => now < expiresAt) &&
    policy.acknowledgedVersion = some policy.version

/-- Each policy that is asked for has a current entry, and one of them another entry that is not. -/
structure Disagreeing (request : AuthorizationRequest) : Prop where
  some_current : ∀ key ∈ request.requiredPolicyKeys,
    ∃ policy ∈ request.policies, policy.policyKey = key ∧ policy.current request.now = true
  some_stale : ∃ key ∈ request.requiredPolicyKeys,
    ∃ policy ∈ request.policies, policy.policyKey = key ∧ policy.current request.now = false

theorem currentPolicies_eq_true_iff :
    currentPolicies request = true ↔ ∀ key ∈ request.requiredPolicyKeys, ∃ policy,
      request.policies.find? (fun p => p.policyKey = key) = some policy ∧
        policy.current request.now = true := by
  unfold currentPolicies
  rw [List.all_eq_true]
  refine forall₂_congr fun key _ => ?_
  cases request.policies.find? fun p => p.policyKey = key with
  | none => simp
  | some policy => simp [CurrentPolicyGate.current]

/-- The requests name the same policies at the same time. -/
structure SamePolicies (request request' : AuthorizationRequest) : Prop where
  keys : ∀ key, key ∈ request'.requiredPolicyKeys ↔ key ∈ request.requiredPolicyKeys
  policies : ∀ policy, policy ∈ request'.policies ↔ policy ∈ request.policies
  now : request'.now = request.now

theorem SamePolicies.symm {request' : AuthorizationRequest} (h : SamePolicies request request') :
    SamePolicies request' request :=
  ⟨fun key => (h.keys key).symm, fun policy => (h.policies policy).symm, h.now.symm⟩

theorem SamePolicies.disagreeing {request' : AuthorizationRequest}
    (h : SamePolicies request request') (hdisagreeing : Disagreeing request') :
    Disagreeing request := by
  obtain ⟨hcurrent, hstale⟩ := hdisagreeing
  simp only [h.keys, h.policies, h.now] at hcurrent hstale
  exact ⟨hcurrent, hstale⟩

theorem Reordered.samePolicies {request' : AuthorizationRequest}
    (h : Reordered request request') : SamePolicies request request' := by
  obtain ⟨-, -, -, hkeys, hpolicies⟩ := h
  exact ⟨fun _ => hkeys.mem_iff, fun _ => hpolicies.mem_iff, rfl⟩

/-- Entries that agree are read alike in any order. -/
theorem SamePolicies.currentPolicies_eq_true {request' : AuthorizationRequest}
    (h : SamePolicies request request') (hagreeing : ¬ Disagreeing request)
    (hcurrent : currentPolicies request = true) : currentPolicies request' = true := by
  rw [currentPolicies_eq_true_iff] at hcurrent ⊢
  have hsome : ∀ key ∈ request.requiredPolicyKeys, ∃ policy ∈ request.policies,
      policy.policyKey = key ∧ policy.current request.now = true := by
    intro key hkey
    obtain ⟨policy, hfind, hpolicy⟩ := hcurrent key hkey
    exact ⟨policy, List.mem_of_find?_eq_some hfind, by simpa using List.find?_some hfind, hpolicy⟩
  intro key hkey
  rw [h.keys] at hkey
  obtain ⟨policy, hpolicy, hpolicyKey, -⟩ := hsome key hkey
  have hisSome : (request'.policies.find? fun p => p.policyKey = key).isSome = true := by
    rw [List.find?_isSome]
    exact ⟨policy, (h.policies policy).2 hpolicy, by simpa using hpolicyKey⟩
  obtain ⟨found, hfound⟩ := Option.isSome_iff_exists.1 hisSome
  refine ⟨found, hfound, ?_⟩
  by_contra hstale
  rw [h.now, Bool.not_eq_true] at hstale
  have hmem := (h.policies found).1 (List.mem_of_find?_eq_some hfound)
  exact hagreeing ⟨hsome, key, hkey, found, hmem, by simpa using List.find?_some hfound, hstale⟩

theorem SamePolicies.currentPolicies_eq {request' : AuthorizationRequest}
    (h : SamePolicies request request') (hagreeing : ¬ Disagreeing request) :
    currentPolicies request' = currentPolicies request := by
  rw [Bool.eq_iff_iff]
  exact ⟨h.symm.currentPolicies_eq_true fun hdisagreeing => hagreeing (h.disagreeing hdisagreeing),
    h.currentPolicies_eq_true hagreeing⟩

/-- The denial by the checks before the policies. -/
def earlyDenial (request : AuthorizationRequest) : Option AuthorizationDenial :=
  grantDenial request <|>
    (if !request.statePreconditionsSatisfied then some .statePreconditionFailed else none) <|>
    (if request.requiredFeatures.any (fun feature => !request.enabledFeatures.contains feature) then
      some .featureDisabled
    else none)

/-- The denial by the checks behind the policies. -/
def lateDenial (request : AuthorizationRequest) : Option AuthorizationDenial :=
  (if privilegedActions.contains request.action &&
      !recentStrong request.authenticationStrength request.reauthenticatedAt request.now
        request.reauthenticationWindowMs then some .reauthenticationRequired
    else none) <|>
    (if fourEyesActions.contains request.action && lacksApproval request then some .fourEyesRequired
    else none)

theorem authorize_denial :
    (authorize request).denial = (earlyDenial request).or
      ((if !currentPolicies request then some .policyMissingOrExpired else none).or
        (lateDenial request)) := by
  simp only [authorize, makeDecision, earlyDenial, lateDenial, Option.orElse_eq_orElse,
    Option.orElse_eq_or, Option.or_assoc]

theorem authorize_allowed :
    (authorize request).allowed = (authorize request).denial.isNone := rfl

theorem earlyDenial_eq_none_iff :
    earlyDenial request = none ↔ Granted request ∧ Prepared request := by
  simp only [earlyDenial, Option.orElse_eq_orElse, Option.orElse_eq_or, Option.or_eq_none_iff,
    grantDenial_eq_none_iff]
  refine and_congr_right fun _ => ?_
  simp only [ite_eq_right_iff, reduceCtorEq, imp_false]
  constructor
  · rintro ⟨hstate, hfeatures⟩
    exact ⟨by simpa using hstate, by simpa using hfeatures⟩
  · rintro ⟨hstate, hfeatures⟩
    exact ⟨by simpa using hstate, by simpa using hfeatures⟩

theorem lateDenial_ne_policy : lateDenial request ≠ some .policyMissingOrExpired := by
  unfold lateDenial
  split_ifs <;> simp

theorem Reordered.grantDenial_eq {request' : AuthorizationRequest}
    (h : Reordered request request') : grantDenial request' = grantDenial request := by
  obtain ⟨hroles, -, -, -, -⟩ := h
  simp only [grantDenial, hroles.mem_iff, hroles.any_eq]

theorem Reordered.earlyDenial_eq {request' : AuthorizationRequest}
    (h : Reordered request request') : earlyDenial request' = earlyDenial request := by
  unfold earlyDenial
  rw [h.grantDenial_eq]
  obtain ⟨-, henabled, hrequired, -, -⟩ := h
  simp only [hrequired.any_eq, List.contains_eq_mem, henabled.mem_iff]

theorem Reordered.lateDenial_eq {request' : AuthorizationRequest}
    (h : Reordered request request') : lateDenial request' = lateDenial request := by
  obtain ⟨⟩ := h
  rfl

/-- Some entries before all others. -/
def prefer {α : Type} (first : α → Bool) (l : List α) : List α :=
  l.filter first ++ l.filter fun x => !first x

theorem prefer_perm {α : Type} (first : α → Bool) (l : List α) : (prefer first l).Perm l :=
  List.filter_append_perm first l

/-- A preferred entry is found if there is one. -/
theorem find?_prefer {α : Type} {l : List α} (first : α → Bool) {p : α → Bool}
    (h : ∃ x ∈ l, p x = true ∧ first x = true) :
    ∃ x, (prefer first l).find? p = some x ∧ first x = true := by
  obtain ⟨x, hx, hpx, hfirst⟩ := h
  have hisSome : ((l.filter first).find? p).isSome = true := by
    rw [List.find?_isSome]
    exact ⟨x, List.mem_filter.2 ⟨hx, hfirst⟩, hpx⟩
  obtain ⟨found, hfound⟩ := Option.isSome_iff_exists.1 hisSome
  refine ⟨found, ?_, (List.mem_filter.1 (List.mem_of_find?_eq_some hfound)).2⟩
  rw [prefer, List.find?_append, hfound, Option.some_or]

/-- The request with some of its policies before all others. -/
def AuthorizationRequest.preferring (request : AuthorizationRequest)
    (first : CurrentPolicyGate → Bool) : AuthorizationRequest :=
  { request with policies := prefer first request.policies }

theorem reordered_preferring (request : AuthorizationRequest) (first : CurrentPolicyGate → Bool) :
    Reordered request (request.preferring first) :=
  .mk (.refl _) (.refl _) (.refl _) (.refl _) (prefer_perm _ _)

theorem Disagreeing.currentPolicies_current (h : Disagreeing request) :
    currentPolicies (request.preferring (CurrentPolicyGate.current request.now)) = true := by
  rw [currentPolicies_eq_true_iff]
  intro key hkey
  obtain ⟨policy, hpolicy, hpolicyKey, hcurrent⟩ := h.some_current key hkey
  exact find?_prefer _ ⟨policy, hpolicy, by simpa using hpolicyKey, hcurrent⟩

theorem Disagreeing.currentPolicies_stale (h : Disagreeing request) :
    currentPolicies (request.preferring fun p => !p.current request.now) = false := by
  rw [← Bool.not_eq_true, currentPolicies_eq_true_iff]
  intro hcurrent
  obtain ⟨key, hkey, policy, hpolicy, hpolicyKey, hstale⟩ := h.some_stale
  obtain ⟨found, hfound, hnot⟩ := find?_prefer (fun p => !p.current request.now)
    (p := fun p => p.policyKey = key) ⟨policy, hpolicy, by simpa using hpolicyKey, by simpa using hstale⟩
  obtain ⟨policy', hpolicy', hcurrent'⟩ := hcurrent key hkey
  obtain rfl : found = policy' := Option.some.inj (hfound.symm.trans hpolicy')
  have hcurrent'' : found.current request.now = true := hcurrent'
  rw [hcurrent''] at hnot
  cases hnot

/-- Past the earlier checks the policies decide whether the denial is theirs. -/
theorem authorize_denial_policy_iff (h : earlyDenial request = none) :
    (authorize request).denial = some .policyMissingOrExpired ↔ currentPolicies request = false := by
  rw [authorize_denial, h, Option.none_or]
  cases hcurrent : currentPolicies request with
  | true => simpa using lateDenial_ne_policy
  | false => simp

/-- The decision on a request does not depend on the order of its lists except for policies whose
entries disagree. -/
theorem order_irrelevant_iff (request : AuthorizationRequest) :
    (∀ request', Reordered request request' →
      (authorize request').allowed = (authorize request).allowed ∧
        (authorize request').denial = (authorize request).denial) ↔
      ¬ (Granted request ∧ Prepared request ∧ Disagreeing request) := by
  constructor
  · rintro h ⟨hgranted, hprepared, hdisagreeing⟩
    have hearly := earlyDenial_eq_none_iff.2 ⟨hgranted, hprepared⟩
    have hstale := reordered_preferring request fun p => !p.current request.now
    have hcurrent := reordered_preferring request
      (CurrentPolicyGate.current request.now)
    have hdenied := (authorize_denial_policy_iff (hstale.earlyDenial_eq.trans hearly)).2
      hdisagreeing.currentPolicies_stale
    rw [(h _ hstale).2, ← (h _ hcurrent).2,
      authorize_denial_policy_iff (hcurrent.earlyDenial_eq.trans hearly),
      hdisagreeing.currentPolicies_current] at hdenied
    cases hdenied
  · intro h request' hreordered
    have hdenial : (authorize request').denial = (authorize request).denial := by
      rw [authorize_denial, authorize_denial, hreordered.earlyDenial_eq, hreordered.lateDenial_eq]
      cases hearly : earlyDenial request with
      | some denial => rfl
      | none =>
        obtain ⟨hgranted, hprepared⟩ := earlyDenial_eq_none_iff.1 hearly
        rw [hreordered.samePolicies.currentPolicies_eq fun hdisagreeing =>
          h ⟨hgranted, hprepared, hdisagreeing⟩]
    rw [authorize_allowed, authorize_allowed, hdenial]
    exact ⟨rfl, rfl⟩

/-- A policy in the version that the actor acknowledged. -/
def samplePolicy (version : String) : CurrentPolicyGate where
  policyKey := "privacy"
  version := version
  effectiveAt := 0
  expiresAt := none
  acknowledgedVersion := some "v2"

/-- The scheduler's request with the entries of both versions of a policy. -/
def twoVersions (policies : List CurrentPolicyGate) : AuthorizationRequest :=
  { sampleRequest .sessionSchedule .committee [.scheduler] with
    requiredPolicyKeys := ["privacy"], policies }

/-- The order of two versions of a policy decides. -/
theorem order_of_versions_decides :
    Reordered (twoVersions [samplePolicy "v2", samplePolicy "v1"])
      (twoVersions [samplePolicy "v1", samplePolicy "v2"]) ∧
    (authorize (twoVersions [samplePolicy "v2", samplePolicy "v1"])).allowed = true ∧
    (authorize (twoVersions [samplePolicy "v1", samplePolicy "v2"])).denial =
      some .policyMissingOrExpired :=
  ⟨.mk (.refl _) (.refl _) (.refl _) (.refl _) (.swap _ _ _), by decide, by decide⟩

end ChecksAndBalances
