import ChecksAndBalances.Verus.RoundTrip

/-!
# Supersession

What a write leaves of the entries that are stored under its VDXF key.  The update puts the new entry
in the place of the stored ones, so an entry stays only when it is the payload's own, and of several
payloads written one after another only the last one is found.
-/

namespace ChecksAndBalances

/-- The entries that an identity stores under a key. -/
def VerusIdentityDefinition.entries (identity : VerusIdentityDefinition) (vdxfKey : String) :
    List Json :=
  (identity.contentMultiMap.lookup vdxfKey).getD []

/-- The entry that a payload is written as. -/
def CanonicalPayload.entry (payload : CanonicalPayload) : Json := .str (toHex payload.bytes)

/-- The identity after payloads are written under the key, one after another. -/
def writeInTurn (identity : VerusIdentityDefinition) (vdxfKey : String) :
    List CanonicalPayload → Except VerusIntegrationError VerusIdentityDefinition
  | [] => .ok identity
  | payload :: payloads => do
    let update ← prepareIdentityContentUpdate identity vdxfKey payload
    writeInTurn update.identity vdxfKey payloads

/-- After an update its key stores the entry of the payload and no other. -/
theorem entries_update {identity : VerusIdentityDefinition} {vdxfKey : String}
    {payload : CanonicalPayload} {update : PreparedIdentityUpdate}
    (h : prepareIdentityContentUpdate identity vdxfKey payload = .ok update) :
    update.identity.entries vdxfKey = [payload.entry] := by
  unfold prepareIdentityContentUpdate at h
  split_ifs at h
  obtain rfl := Except.ok.inj h
  rw [VerusIdentityDefinition.entries, lookup_setEntry_self, Option.getD_some]
  rfl

/-- Writes in turn end with the update of the last payload. -/
theorem writeInTurn_append {identity final : VerusIdentityDefinition} {vdxfKey : String}
    {earlier : List CanonicalPayload} {last : CanonicalPayload}
    (h : writeInTurn identity vdxfKey (earlier ++ [last]) = .ok final) :
    ∃ before update, prepareIdentityContentUpdate before vdxfKey last = .ok update ∧
      update.identity = final := by
  induction earlier generalizing identity with
  | nil =>
    rw [List.nil_append, writeInTurn] at h
    cases hupdate : prepareIdentityContentUpdate identity vdxfKey last with
    | error error =>
      rw [hupdate] at h
      cases h
    | ok update =>
      rw [hupdate] at h
      exact ⟨identity, update, hupdate, Except.ok.inj h⟩
  | cons payload earlier ih =>
    rw [List.cons_append, writeInTurn] at h
    cases hupdate : prepareIdentityContentUpdate identity vdxfKey payload with
    | error error =>
      rw [hupdate] at h
      cases h
    | ok update =>
      rw [hupdate] at h
      exact ih h

section Readback

variable [Host]

/-- On a node that stores the identity, `verifyIdentityContentReadback` finds the digest. -/
def VerusIdentityDefinition.ShowsDigest (identity : VerusIdentityDefinition)
    (vdxfKey digest : String) : Prop :=
  ∀ (identityAddress : String) (content : VerusIdentityResult), content.identity = identity →
    (verifyIdentityContentReadback identityAddress vdxfKey digest).run.Runs
      [⟨.getIdentityContent identityAddress vdxfKey, .ok content⟩] (.ok (.verified digest))

/-- After writes in turn, the digest of the last payload is the only one that can be found. -/
theorem showsDigest_writeInTurn_iff (laws : HostLaws) {identity final : VerusIdentityDefinition}
    {vdxfKey digest : String} (earlier : List CanonicalPayload) {value : JsonObject}
    {policy : CanonicalPayloadPolicy} {last : CanonicalPayload}
    (hlast : prepareCanonicalPayload value policy = .ok last)
    (hparse : Rereads (Json.obj value).canonicalForm)
    (h : writeInTurn identity vdxfKey (earlier ++ [last]) = .ok final) :
    final.ShowsDigest vdxfKey digest ↔
      digest = last.digest ∧ (Json.obj value).Everywhere Json.OrderKeptHere := by
  obtain ⟨before, update, hupdate, rfl⟩ := writeInTurn_append h
  have hdigests : ∀ content : VerusIdentityResult, content.identity = update.identity →
      (digest ∈ contentDigests vdxfKey content ↔
        digest = last.digest ∧ (Json.obj value).Everywhere Json.OrderKeptHere) := by
    intro content hcontent
    rw [contentDigests_update laws hlast hupdate hparse hcontent, ← Json.sorted_canonicalForm_iff]
    split_ifs with hsorted <;> simp [hsorted]
  constructor
  · intro hshows
    have hruns := hshows "" { identity := update.identity, status := "", canSignFor := true
                              blockHeight := 0, transactionId := "" } rfl
    exact (hdigests _ rfl).1 (runs_verifyIdentityContentReadback.1 hruns)
  · intro hlast identityAddress content hcontent
    exact runs_verifyIdentityContentReadback.2 ((hdigests content hcontent).2 hlast)

/-- An update keeps the entries under its key exactly when there are none or only the payload's own;
of several jobs written in turn, each one's digest is still found exactly when it is the digest of
the last, which itself reads back. -/
theorem entries_kept_iff (laws : HostLaws) (identity : VerusIdentityDefinition)
    (vdxfKey : String) :
    (∀ payload update, prepareIdentityContentUpdate identity vdxfKey payload = .ok update →
      ((identity.entries vdxfKey).Sublist (update.identity.entries vdxfKey) ↔
        identity.entries vdxfKey = [] ∨ identity.entries vdxfKey = [payload.entry])) ∧
    ∀ (earlier : List CanonicalPayload) value policy last final,
      prepareCanonicalPayload value policy = .ok last → Rereads (Json.obj value).canonicalForm →
      writeInTurn identity vdxfKey (earlier ++ [last]) = .ok final →
      ((∀ payload ∈ earlier, final.ShowsDigest vdxfKey payload.digest) ↔
        ∀ payload ∈ earlier, payload.digest = last.digest ∧
          (Json.obj value).Everywhere Json.OrderKeptHere) := by
  constructor
  · intro payload update hupdate
    rw [entries_update hupdate, List.sublist_cons_iff]
    simp
  · intro earlier value policy last final hlast hparse hwrites
    exact forall₂_congr fun payload _ => showsDigest_writeInTurn_iff laws _ hlast hparse hwrites

end Readback

namespace SupersessionSample

open IdentitySample

/-- A manifest and the one that supersedes it. -/
def first : JsonObject := [("open", .bool true)]

def second : JsonObject := [("open", .bool false)]

def firstText : String := "\x7b\"open\":true\x7d"

def secondText : String := "\x7b\"open\":false\x7d"

/-- The host functions on the sample texts. -/
scoped instance host : Host where
  nfc s := s
  numberToString _ := "0"
  jsonParse text :=
    if text = firstText then some (.obj first)
    else if text = secondText then some (.obj second)
    else none

theorem host_laws : HostLaws := by
  refine ⟨fun _ => rfl, fun n _ => ?_, fun _ _ => rfl⟩
  show "0" ≠ "" ∧ ∀ c ∈ "0".toList, Json.isNumberChar c = true
  exact ⟨by decide, List.all_eq_true.1 (by decide)⟩

def policy : CanonicalPayloadPolicy := RoundTripSample.policy ["open"]

def firstPayload : CanonicalPayload := RoundTripSample.payload first firstText

def secondPayload : CanonicalPayload := RoundTripSample.payload second secondText

theorem prepare_first : prepareCanonicalPayload first policy = .ok firstPayload :=
  prepareCanonicalPayload_ok (by decide) (by decide) rfl rfl (by decide)

theorem prepare_second : prepareCanonicalPayload second policy = .ok secondPayload :=
  prepareCanonicalPayload_ok (by decide) (by decide) rfl rfl (by decide)

theorem rereads_first : Rereads (Json.obj first).canonicalForm := by
  unfold Rereads
  rfl

theorem rereads_second : Rereads (Json.obj second).canonicalForm := by
  unfold Rereads
  rfl

theorem orderKept (value : Bool) :
    (Json.obj [("open", .bool value)]).Everywhere Json.OrderKeptHere := by
  simp [Json.Everywhere, Json.EveryMember, Json.OrderKeptHere]

/-- The identity after the first write and after the second. -/
def written (payload : CanonicalPayload) : VerusIdentityDefinition :=
  { parsed.identity with
    contentMultiMap := setEntry parsed.identity.contentMultiMap vdxfKey [payload.entry] }

theorem written_first : writeInTurn parsed.identity vdxfKey [firstPayload] =
    .ok (written firstPayload) := by
  rfl

theorem written_second : ∃ final,
    writeInTurn parsed.identity vdxfKey [firstPayload, secondPayload] = .ok final :=
  ⟨_, rfl⟩

/-- A payload that is written twice is still found. -/
theorem entries_kept_iff_rewritten : ∃ final,
    writeInTurn parsed.identity vdxfKey [firstPayload, firstPayload] = .ok final ∧
      final.ShowsDigest vdxfKey firstPayload.digest := by
  refine ⟨_, rfl, ?_⟩
  have hkept := (entries_kept_iff host_laws parsed.identity vdxfKey).2 [firstPayload] first policy
    firstPayload _ prepare_first rereads_first rfl
  exact hkept.2 (fun payload hpayload => ⟨by rw [List.mem_singleton.1 hpayload], orderKept true⟩)
    firstPayload List.mem_cons_self

/-- The second write drops the first entry, whose digest was found before it and is not after it. -/
theorem superseded_entry_dropped :
    (written firstPayload).ShowsDigest vdxfKey firstPayload.digest ∧
      ∃ final, writeInTurn parsed.identity vdxfKey [firstPayload, secondPayload] = .ok final ∧
        ¬ ((written firstPayload).entries vdxfKey).Sublist (final.entries vdxfKey) ∧
        ¬ final.ShowsDigest vdxfKey firstPayload.digest := by
  have hdigests : firstPayload.digest ≠ secondPayload.digest := by decide +kernel
  refine ⟨?_, _, rfl, ?_, ?_⟩
  · exact (showsDigest_writeInTurn_iff host_laws [] prepare_first rereads_first
      written_first).2 ⟨rfl, orderKept true⟩
  · have hentries : firstPayload.entry ≠ secondPayload.entry := by
      intro h
      exact absurd (Json.str.inj h) (by decide)
    show ¬ [firstPayload.entry].Sublist [secondPayload.entry]
    rw [List.singleton_sublist, List.mem_singleton]
    exact hentries
  · intro hshows
    exact hdigests ((showsDigest_writeInTurn_iff host_laws [firstPayload]
      prepare_second rereads_second rfl).1 hshows).1

end SupersessionSample

end ChecksAndBalances
