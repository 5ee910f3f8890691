import ChecksAndBalances.Db.Audit
import ChecksAndBalances.Lib.HashChain
import ChecksAndBalances.Lib.Within

/-!
# How the audit chains grow

The audit tables only change by events that continue their chains: each names the head of its chain,
its hash seals it, and it becomes the head.  `AuditGrows` says so of two databases, so that every
transaction made of such statements is bounded by it.
-/

namespace ChecksAndBalances

open Lib Lib.Tx

variable {db db' : Db} {α : Type}

/-- What the hash of an event is computed from. -/
def AuditEvent.input (e : AuditEvent) : String := e.previousHash.getD "" ++ "|" ++ e.text

/-- The hash that the database fills in seals the event. -/
theorem eventHash_sealed (event : AuditEvent) :
    (event.sealed event.previousHash).eventHash =
      sha256 (event.sealed event.previousHash).input := by
  have hinput : (event.sealed event.previousHash).input = event.input := by
    unfold AuditEvent.sealed AuditEvent.input AuditEvent.text
    rfl
  rw [hinput]
  unfold AuditEvent.sealed AuditEvent.input
  rfl

/-- The event is sealed by its own hash, and it is on the chain of a committee or on the global one. -/
structure AuditEvent.Genuine (e : AuditEvent) : Prop where
  hash_eq : e.eventHash = sha256 e.input
  global_iff : e.chainKey = "global" ↔ e.committeeId = none

/-- The tables of the audit chains. -/
def Db.auditTables (db : Db) : List AuditEvent × List AuditChainHead :=
  (db.audit, db.auditChainHeads)

/-- The second database has further genuine events, and they continue the chains of the first. -/
def Db.AuditGrows (db db' : Db) : Prop :=
  ∃ added, db'.audit = db.audit ++ added ∧ (∀ e ∈ added, e.Genuine) ∧
    HashChain.Continues AuditEvent.chainKey AuditEvent.previousHash AuditEvent.eventHash
      db.chainHead added db'.chainHead

theorem Db.auditGrows_of_tables (h : db'.auditTables = db.auditTables) : db.AuditGrows db' := by
  obtain ⟨haudit, hheads⟩ := Prod.mk.inj h
  refine ⟨[], by simp [haudit], by simp, fun key => ?_⟩
  simp only [Db.chainHead, hheads]
  rfl

instance : IsPreorder Db Db.AuditGrows where
  refl _ := Db.auditGrows_of_tables rfl
  trans db db' db'' := by
    rintro ⟨first, haudit, hgenuine, hcontinues⟩ ⟨rest, haudit', hgenuine', hcontinues'⟩
    refine ⟨first ++ rest, by rw [haudit', haudit, List.append_assoc], ?_,
      hcontinues.append hcontinues'⟩
    intro e he
    rcases List.mem_append.1 he with he | he
    · exact hgenuine e he
    · exact hgenuine' e he

/-! ## The head of a chain -/

theorem find?_setChainHead_self (head : AuditChainHead) (heads : List AuditChainHead) :
    (setChainHead head heads).find? (fun h => h.chainKey = head.chainKey) = some head := by
  unfold setChainHead
  split_ifs with hany
  · induction heads with
    | nil => simp at hany
    | cons h heads ih =>
      by_cases hh : h.chainKey = head.chainKey
      · simp [Table.set, hh]
      · have hrest := ih (by simpa [hh] using hany)
        simpa [Table.set, hh] using hrest
  · simp only [List.any_eq_true, decide_eq_true_eq, not_exists, not_and] at hany
    rw [List.find?_append, List.find?_eq_none.2 (by simpa using hany)]
    simp

theorem find?_setChainHead_other {key : String} {head : AuditChainHead} (h : head.chainKey ≠ key)
    (heads : List AuditChainHead) :
    (setChainHead head heads).find? (fun h => h.chainKey = key) =
      heads.find? fun h => h.chainKey = key := by
  unfold setChainHead
  split_ifs with hany
  · clear hany
    induction heads with
    | nil => rfl
    | cons h' heads ih =>
      unfold Table.set at ih ⊢
      rw [List.map_cons, List.find?_cons, List.find?_cons, ih]
      by_cases hh : h'.chainKey = head.chainKey
      · simp [hh, h]
      · simp [hh]
  · rw [List.find?_append]
    simp [h]

/-- Moving the head of one chain leaves the others. -/
theorem chainHead_setChainHead (head : AuditChainHead) (key : String)
    (h : db'.auditChainHeads = setChainHead head db.auditChainHeads) :
    db'.chainHead key = if head.chainKey = key then head.eventHash else db.chainHead key := by
  unfold Db.chainHead
  rw [h]
  by_cases hkey : head.chainKey = key
  · subst hkey
    rw [find?_setChainHead_self, if_pos rfl, Option.bind_some]
  · rw [find?_setChainHead_other hkey, if_neg hkey]

theorem auditChainKey_eq_global_iff (context : CommandContext) (committeeId : Option Uuid) :
    auditChainKey context committeeId = "global" ↔ committeeId = none := by
  unfold auditChainKey
  cases committeeId with
  | none => simp
  | some id =>
    simp only [Option.isSome_some, if_true, reduceCtorEq, iff_false]
    intro h
    have hfirst := congrArg (fun s : String => s.toList.head?) h
    rw [String.toList_append] at hfirst
    cases hfirst

theorem auditGrows_appendAudit (context : CommandContext) (committeeId : Option Uuid)
    (command : String) (target : AuditTarget) (result : AuditResult) :
    Within Db.AuditGrows (appendAudit context committeeId command target result) := by
  intro db hash db' h
  obtain ⟨-, hdb⟩ := commits_appendAudit.1 h
  have hheads : db'.auditChainHeads = setChainHead
      { chainKey := auditChainKey context committeeId, eventId := some db.nextId
        eventHash := some (db.appendedEvent context committeeId command target result).eventHash }
      db.auditChainHeads := by rw [hdb]
  refine ⟨[db.appendedEvent context committeeId command target result], by rw [hdb], ?_, ?_⟩
  · intro e he
    rw [List.mem_singleton.1 he]
    exact ⟨eventHash_sealed _, auditChainKey_eq_global_iff context committeeId⟩
  · exact HashChain.continues_singleton rfl fun key => chainHead_setChainHead _ key hheads

end ChecksAndBalances
