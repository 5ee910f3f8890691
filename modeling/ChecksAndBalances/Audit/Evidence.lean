import ChecksAndBalances.Audit.Chain
import ChecksAndBalances.Verus.RoundTrip

/-!
# What the head of a chain tells

The text that the hash of an event is computed from determines the event, so the head of a chain
determines all of its events: whoever presents another chain with the same head has found two texts
with one SHA-256 digest.
-/

namespace ChecksAndBalances

open Lib Lib.Tx

/-! ## Printed numbers -/

theorem toString_nat_inj {m n : ℕ} (h : toString m = toString n) : m = n := by
  have hlist : (Nat.repr m).toList = (Nat.repr n).toList := congrArg String.toList h
  rw [Nat.toList_repr, Nat.toList_repr] at hlist
  have hread := congrArg (fun cs => Nat.ofDigitChars 10 cs 0) hlist
  simpa only [Nat.ofDigitChars_ten_toDigits] using hread

theorem toString_nat_ne_neg (m n : ℕ) : toString m ≠ "-" ++ toString n := by
  intro h
  have hlist : (Nat.repr m).toList = ("-" ++ toString n).toList := congrArg String.toList h
  rw [Nat.toList_repr, String.toList_append] at hlist
  have hminus : '-' ∈ Nat.toDigits 10 m := by
    rw [hlist]
    exact List.mem_cons_self
  have hdigit := Nat.isDigit_of_mem_toDigits (by omega) (by omega) hminus
  exact absurd hdigit (by decide)

theorem toString_int_inj {a b : ℤ} (h : toString a = toString b) : a = b := by
  cases a with
  | ofNat m =>
    cases b with
    | ofNat n => exact congrArg Int.ofNat (toString_nat_inj h)
    | negSucc n => exact absurd h (toString_nat_ne_neg m (n + 1))
  | negSucc m =>
    cases b with
    | ofNat n => exact absurd h.symm (toString_nat_ne_neg n (m + 1))
    | negSucc n =>
      have htail : toString (m + 1) = toString (n + 1) := by
        apply String.toList_inj.1
        have hlist := congrArg String.toList
          (show "-" ++ toString (m + 1) = "-" ++ toString (n + 1) from h)
        rw [String.toList_append, String.toList_append] at hlist
        exact List.append_cancel_left hlist
      rw [Nat.succ.inj (toString_nat_inj htail)]

/-! ## The text of an event -/

/-- The columns of an event in the order of its text, without its hash. -/
def AuditEvent.columns (e : AuditEvent) : List (Option String) := [
  some (toString e.id), some e.result.name, some e.command, some e.chainKey, e.newState,
  some e.actorType, some (toString e.occurredAt), e.priorState, some e.targetType,
  e.committeeId.map toString, e.previousHash, some e.correlationId, some e.policyVersion,
  some e.actorReference, some e.reasonCategory, some e.softwareVersion, some e.targetReference,
  some e.idempotencyKeyHash, some e.authenticationStrength]

/-- The names of the columns. -/
def auditColumns : List String := [
  "id", "result", "command", "chain_key", "new_state", "actor_type", "occurred_at", "prior_state",
  "target_type", "committee_id", "previous_hash", "correlation_id", "policy_version",
  "actor_reference", "reason_category", "software_version", "target_reference",
  "idempotency_key_hash", "authentication_strength"]

/-- A member of the text. -/
def auditMember (name : String) (value : Option String) : String :=
  Json.quote name ++ ": " ++ jsonbText value

theorem AuditEvent.text_eq (e : AuditEvent) :
    e.text =
      "\x7b" ++ ", ".intercalate (List.zipWith auditMember auditColumns e.columns) ++ "\x7d" := by
  unfold AuditEvent.text auditColumns AuditEvent.columns
  simp only [List.zipWith_cons_cons, List.zipWith_nil_left, auditMember, jsonbText]

theorem jsonbText_append_inj {v w : Option String} {x y : List Char}
    (h : (jsonbText v).toList ++ x = (jsonbText w).toList ++ y) : v = w ∧ x = y := by
  have hne : ∀ {s : String} {x y : List Char},
      (Json.quote s).toList ++ x ≠ "null".toList ++ y := by
    intro s x y heq
    rw [Json.quote_toList] at heq
    exact absurd (List.cons.inj heq).1 (by decide)
  cases v with
  | none =>
    cases w with
    | none => exact ⟨rfl, List.append_cancel_left h⟩
    | some t => exact absurd h.symm hne
  | some s =>
    cases w with
    | none => exact absurd h hne
    | some t =>
      obtain ⟨rfl, hrest⟩ := Json.quote_append_inj h
      exact ⟨rfl, hrest⟩

theorem auditMember_append_inj {name : String} {v w : Option String} {x y : List Char}
    (h : (auditMember name v).toList ++ x = (auditMember name w).toList ++ y) : v = w ∧ x = y := by
  unfold auditMember at h
  simp only [String.toList_append, List.append_assoc] at h
  exact jsonbText_append_inj (List.append_cancel_left (List.append_cancel_left h))

/-- The members after each other can be read in one way. -/
theorem members_append_inj {names : List String} {vs ws : List (Option String)}
    (hvs : vs.length = names.length) (hws : ws.length = names.length) {x y : List Char}
    (h : (", ".intercalate (List.zipWith auditMember names vs)).toList ++ x =
      (", ".intercalate (List.zipWith auditMember names ws)).toList ++ y) : vs = ws := by
  induction names generalizing vs ws with
  | nil => rw [List.length_eq_zero_iff.1 hvs, List.length_eq_zero_iff.1 hws]
  | cons name names ih =>
    obtain ⟨v, vs, rfl⟩ := List.exists_cons_of_length_eq_add_one hvs
    obtain ⟨w, ws, rfl⟩ := List.exists_cons_of_length_eq_add_one hws
    have hvs' : vs.length = names.length := by simpa using hvs
    have hws' : ws.length = names.length := by simpa using hws
    cases names with
    | nil =>
      rw [List.length_eq_zero_iff.1 hvs', List.length_eq_zero_iff.1 hws'] at h ⊢
      simp only [List.zipWith_cons_cons, List.zipWith_nil_left, String.intercalate_singleton] at h
      rw [(auditMember_append_inj h).1]
    | cons second names =>
      obtain ⟨v₂, vs₂, rfl⟩ := List.exists_cons_of_length_eq_add_one hvs'
      obtain ⟨w₂, ws₂, rfl⟩ := List.exists_cons_of_length_eq_add_one hws'
      simp only [List.zipWith_cons_cons, String.intercalate_cons_cons, String.toList_append,
        List.append_assoc] at h
      obtain ⟨rfl, hrest⟩ := auditMember_append_inj h
      have htail := ih hvs' hws' (by
        simpa only [List.zipWith_cons_cons] using List.append_cancel_left hrest)
      rw [htail]

theorem AuditResult.name_inj {r r' : AuditResult} (h : r.name = r'.name) : r = r' := by
  cases r <;> cases r' <;> first | rfl | exact absurd h (by decide)

/-- The columns and the hash are the event. -/
theorem AuditEvent.eq_of_columns {a b : AuditEvent} (h : a.columns = b.columns)
    (hhash : a.eventHash = b.eventHash) : a = b := by
  unfold AuditEvent.columns at h
  simp only [List.cons.injEq, Option.some.injEq, and_true] at h
  obtain ⟨hid, hresult, hcommand, hkey, hnew, htype, htime, hprior, htarget, hcommittee, hrest⟩ := h
  have hid' := toString_nat_inj hid
  have htime' := toString_int_inj htime
  have hresult' := AuditResult.name_inj hresult
  have hcommittee' : a.committeeId = b.committeeId :=
    Option.map_injective (fun _ _ => toString_nat_inj) hcommittee
  cases a
  cases b
  simp_all

/-! ## The input of the hash -/

theorem hexDigit_ne_bar {n : ℕ} (h : n < 16) : Sha256.hexDigit n ≠ '|' := by
  revert n
  decide

/-- The separator is not in a digest. -/
theorem bar_notMem_sha256 (value : String) : '|' ∉ (sha256 value).toList := by
  unfold sha256 Sha256.digest
  rw [String.toList_ofList]
  intro h
  obtain ⟨w, -, hw⟩ := List.mem_flatMap.1 h
  obtain ⟨i, -, hi⟩ := List.mem_map.1 hw
  exact hexDigit_ne_bar (Nat.mod_lt _ (by omega)) hi

theorem append_bar_inj {as bs x y : List Char} (has : '|' ∉ as) (hbs : '|' ∉ bs)
    (h : as ++ '|' :: x = bs ++ '|' :: y) : x = y := by
  induction as generalizing bs with
  | nil =>
    cases bs with
    | nil => exact (List.cons.inj h).2
    | cons b bs => exact absurd (List.cons.inj h).1 (fun hb => hbs (hb ▸ List.mem_cons_self))
  | cons a as ih =>
    cases bs with
    | nil => exact absurd (List.cons.inj h).1.symm (fun ha => has (ha ▸ List.mem_cons_self))
    | cons b bs =>
      exact ih (fun hmem => has (List.mem_cons_of_mem _ hmem))
        (fun hmem => hbs (List.mem_cons_of_mem _ hmem)) (List.cons.inj h).2

/-- Two events with one hash, whose inputs agree and whose previous hashes are digests. -/
theorem AuditEvent.eq_of_input {a b : AuditEvent} (ha : '|' ∉ (a.previousHash.getD "").toList)
    (hb : '|' ∉ (b.previousHash.getD "").toList) (hhash : a.eventHash = b.eventHash)
    (h : a.input = b.input) : a = b := by
  have hlist := congrArg String.toList h
  unfold AuditEvent.input at hlist
  simp only [String.toList_append, List.append_assoc] at hlist
  have htext : a.text.toList = b.text.toList := append_bar_inj ha hb hlist
  refine AuditEvent.eq_of_columns ?_ hhash
  rw [AuditEvent.text_eq, AuditEvent.text_eq, String.toList_append, String.toList_append,
    String.toList_append, String.toList_append, List.append_assoc, List.append_assoc] at htext
  exact members_append_inj rfl rfl (List.append_cancel_left htext)

/-! ## Evidence -/

/-- An event of an intact chain names a digest as its previous hash, or nothing. -/
theorem IntactChain.bar_notMem {events : List AuditEvent} {head : Option String}
    (h : IntactChain events head) {e : AuditEvent} (he : e ∈ events) :
    '|' ∉ (e.previousHash.getD "").toList := by
  obtain ⟨before, after, rfl⟩ := List.append_of_mem he
  obtain ⟨middle, hwalk, hprevious, -⟩ := walk_append.1 h.linked
  cases before using List.reverseRecOn with
  | nil =>
    have hnone : none = middle := hwalk
    rw [hprevious, ← hnone]
    simp
  | append_singleton before prior =>
    obtain ⟨-, hmiddle⟩ := walk_concat.1 hwalk
    rw [hprevious, ← hmiddle, Option.getD_some, h.hash_eq prior (by simp)]
    exact bar_notMem_sha256 _

/-- Two texts of the chains with one digest. -/
def Sha256Collision (events events' : List AuditEvent) : Prop :=
  HashChain.Collision sha256 AuditEvent.input events events'

/-- Whoever presents an intact chain with the head of a chain of the database presents the events of
the database, or two texts with one SHA-256 digest. -/
theorem audit_tampering_evident [Host] {config : AuthConfig} {db₀ db : Db}
    (hevents : db₀.audit = []) (hheads : db₀.auditChainHeads = []) (h : db₀.Leads config db)
    {chainKey : String} {presented : List AuditEvent}
    (hpresented : IntactChain presented (db.chainHead chainKey)) :
    presented = db.auditChain chainKey ∨ Sha256Collision presented (db.auditChain chainKey) := by
  have hstored := (h.intact hevents hheads).2 chainKey
  apply HashChain.eq_or_collision hpresented.linked hstored.linked hpresented.hash_eq hstored.hash_eq
  intro a ha b hb hhash hinput
  exact AuditEvent.eq_of_input (hpresented.bar_notMem ha) (hstored.bar_notMem hb) hhash hinput

namespace AuditSample

open Json.EqualitySample

/-- The chain of the sample committee, presented again. -/
theorem audit_tampering_evident_approved :
    Sample.approved.auditChain "committee:committee_one" =
        Sample.approved.auditChain "committee:committee_one" ∨
      Sha256Collision (Sample.approved.auditChain "committee:committee_one")
        (Sample.approved.auditChain "committee:committee_one") :=
  audit_tampering_evident rfl rfl leads_approved ((leads_approved.intact rfl rfl).2 _)

end AuditSample

end ChecksAndBalances
