import ChecksAndBalances.Verus.Types
import Mathlib.Data.List.Sort

/-!
# Canonical content

`packages/verus/src/canonical-content.ts`: the canonical text of a manifest, the checks of a payload
and the identity update that carries it.  `TextEncoder` and `TextDecoder` are `encodeUtf8` and
`decodeText`.
-/

namespace ChecksAndBalances

/-! ## Bytes and text -/

/-- A continuation byte between the bounds. -/
def isTail (low high : ℕ) (b : UInt8) : Bool := low ≤ b.toNat && b.toNat ≤ high

/-- The lowest second byte after the first byte of a longer sequence. -/
def lowestTail (a : ℕ) : ℕ := if a = 0xe0 then 0xa0 else if a = 0xf0 then 0x90 else 0x80

/-- The highest second byte after the first byte of a longer sequence. -/
def highestTail (a : ℕ) : ℕ := if a = 0xed then 0x9f else if a = 0xf4 then 0x8f else 0xbf

/-- The low six bits of a continuation byte. -/
def tailBits (b : UInt8) : ℕ := b.toNat % 64

/-- UTF-8, absent where a fatal decoder throws. -/
def decodeUtf8 : List UInt8 → Option (List Char)
  | [] => some []
  | a :: rest =>
    if a.toNat < 0x80 then (decodeUtf8 rest).map (Char.ofNat a.toNat :: ·)
    else match rest with
      | [] => none
      | b :: rest =>
        if 0xc2 ≤ a.toNat ∧ a.toNat < 0xe0 then
          if isTail 0x80 0xbf b then
            (decodeUtf8 rest).map (Char.ofNat (a.toNat % 32 * 64 + tailBits b) :: ·)
          else none
        else match rest with
          | [] => none
          | c :: rest =>
            if 0xe0 ≤ a.toNat ∧ a.toNat < 0xf0 then
              if isTail (lowestTail a.toNat) (highestTail a.toNat) b && isTail 0x80 0xbf c then
                (decodeUtf8 rest).map
                  (Char.ofNat (a.toNat % 16 * 4096 + tailBits b * 64 + tailBits c) :: ·)
              else none
            else match rest with
              | [] => none
              | d :: rest =>
                if 0xf0 ≤ a.toNat ∧ a.toNat < 0xf5 ∧
                    isTail (lowestTail a.toNat) (highestTail a.toNat) b ∧ isTail 0x80 0xbf c ∧
                    isTail 0x80 0xbf d then
                  (decodeUtf8 rest).map (Char.ofNat (a.toNat % 8 * 262144 + tailBits b * 4096 +
                    tailBits c * 64 + tailBits d) :: ·)
                else none

/-- `TextDecoder`: a byte order mark in front is not part of the text. -/
def decodeText (bytes : List UInt8) : Option String :=
  (decodeUtf8 bytes).map fun
    | [] => ""
    | c :: cs => String.ofList (if c.toNat = 0xfeff then cs else c :: cs)

/-- `Buffer.from(bytes).toString("hex")`. -/
def toHex (bytes : List UInt8) : String :=
  String.ofList (bytes.flatMap fun b =>
    [Json.hexDigit (b.toNat / 16), Json.hexDigit (b.toNat % 16)])

/-! ## Canonical JSON -/

namespace Json

section Canonical

variable [Host]

mutual

/-- `canonicalizeJson`.  The members of an object are put in the order of the UTF-16 code units of
their keys. -/
def canonicalizeJson : Json → Except VerusIntegrationError String
  | null => .ok "null"
  | bool value => .ok (if value then "true" else "false")
  | num value =>
    if value.isFinite then .ok (Host.numberToString value)
    else .error
      { code := .payloadForbidden, message := "Anchor payload contains a non-finite number"
        retryable := false }
  | str value => .ok (quote (Host.nfc value))
  | arr items => do
    let items ← canonicalizeItems items
    return "[" ++ ",".intercalate items ++ "]"
  | obj members => do
    let members ← canonicalizeMembers members
    let entries := members.insertionSort fun a b => codeUnitsLt (utf16 b.1) (utf16 a.1) = false
    return "\x7b" ++ ",".intercalate (entries.map fun m => quote (Host.nfc m.1) ++ ":" ++ m.2) ++
      "\x7d"

def canonicalizeItems : List Json → Except VerusIntegrationError (List String)
  | [] => .ok []
  | item :: items => do return (← canonicalizeJson item) :: (← canonicalizeItems items)

def canonicalizeMembers : List (String × Json) → Except VerusIntegrationError (List (String × String))
  | [] => .ok []
  | (key, item) :: members => do
    return (key, ← canonicalizeJson item) :: (← canonicalizeMembers members)

end

end Canonical

end Json

/-! ## Payloads -/

/-- `CanonicalPayloadPolicy`. -/
structure CanonicalPayloadPolicy where
  policyReference : String
  allowedTopLevelFields : List String
  requiredTopLevelFields : List String
  maximumBytes : ℤ

/-- `CanonicalPayload`. -/
structure CanonicalPayload where
  value : JsonObject
  bytes : List UInt8
  digest : String
  policyReference : String

/-- `rejectForbiddenFields`. -/
def rejectForbiddenFields (value : JsonObject) : Except VerusIntegrationError Unit :=
  match (Json.obj value).rejectFields 0 with
  | .ok () => .ok ()
  | .error .nesting => .error
    { code := .payloadForbidden, message := "Anchor payload nesting exceeds the server limit"
      retryable := false }
  | .error .prohibited => .error
    { code := .payloadForbidden
      message := "Anchor payload contains a prohibited private or security-sensitive field"
      retryable := false }

/-- Throw a final error unless the condition holds. -/
def demand (condition : Bool) (code : VerusErrorCode) (message : String) :
    Except VerusIntegrationError Unit :=
  if condition then .ok () else .error { code, message, retryable := false }

/-- `prepareCanonicalPayload`. -/
def prepareCanonicalPayload [Host] (value : JsonObject) (policy : CanonicalPayloadPolicy) :
    Except VerusIntegrationError CanonicalPayload := do
  demand (isSafeInteger policy.maximumBytes && 1 ≤ policy.maximumBytes) .payloadOversize
    "Server payload byte limit is invalid"
  demand (value.keys.all (fun key => key ∈ policy.allowedTopLevelFields) &&
      policy.requiredTopLevelFields.all fun key => key ∈ value.keys) .payloadForbidden
    "Anchor payload contains a field not present in the server-selected allowlist"
  rejectForbiddenFields value
  let canonical ← (Json.obj value).canonicalizeJson
  let bytes := encodeUtf8 canonical
  demand (bytes.length ≤ policy.maximumBytes) .payloadOversize
    "Anchor payload exceeds the server-selected byte limit"
  return { value, bytes, digest := Lib.Sha256.digest bytes
           policyReference := policy.policyReference }

/-- `{ ...map, [key]: value }`: a key that is present keeps its place. -/
def setEntry (map : List (String × List Json)) (key : String) (value : List Json) :
    List (String × List Json) :=
  if map.any (fun entry => entry.1 = key) then
    map.map fun entry => if entry.1 = key then (key, value) else entry
  else map ++ [(key, value)]

/-- `prepareIdentityContentUpdate`. -/
def prepareIdentityContentUpdate (identity : VerusIdentityDefinition) (vdxfKey : String)
    (payload : CanonicalPayload) : Except VerusIntegrationError PreparedIdentityUpdate :=
  if isIAddress vdxfKey then .ok
    { identity := { identity with
        contentMultiMap := setEntry identity.contentMultiMap vdxfKey
          [.str (toHex payload.bytes)] }
      manifestDigest := payload.digest
      vdxfKey }
  else .error
    { code := .vdxfIdMismatch
      message := "VDXF key is not an approved i-address-shaped identifier"
      retryable := false }

/-! ## Errors -/

/-- The computation only throws errors that are never retried, and no readback mismatch. -/
def NeverRetried {α : Type} (x : Except VerusIntegrationError α) : Prop :=
  ∀ error, x = .error error → error.retryable = false ∧ error.code ≠ .readbackMismatch

section Errors

variable {α β : Type}

theorem neverRetried_ok (a : α) : NeverRetried (.ok a) := by
  intro error h
  cases h

theorem neverRetried_error {error : VerusIntegrationError} (h : error.retryable = false)
    (hcode : error.code ≠ .readbackMismatch) :
    NeverRetried (.error error : Except VerusIntegrationError α) := by
  intro e he
  rw [← Except.error.inj he]
  exact ⟨h, hcode⟩

theorem NeverRetried.bind {x : Except VerusIntegrationError α}
    {f : α → Except VerusIntegrationError β} (hx : NeverRetried x)
    (hf : ∀ a, NeverRetried (f a)) : NeverRetried (x >>= f) := by
  cases x with
  | error error => exact neverRetried_error (hx error rfl).1 (hx error rfl).2
  | ok a => exact hf a

theorem neverRetried_demand (condition : Bool) {code : VerusErrorCode}
    (hcode : code ≠ .readbackMismatch) (message : String) :
    NeverRetried (demand condition code message) := by
  unfold demand
  split_ifs
  · exact neverRetried_ok ()
  · exact neverRetried_error rfl hcode

theorem neverRetried_rejectForbiddenFields (value : JsonObject) :
    NeverRetried (rejectForbiddenFields value) := by
  unfold rejectForbiddenFields
  split
  · exact neverRetried_ok ()
  · exact neverRetried_error rfl (by decide)
  · exact neverRetried_error rfl (by decide)

theorem neverRetried_prepareIdentityContentUpdate (identity : VerusIdentityDefinition)
    (vdxfKey : String) (payload : CanonicalPayload) :
    NeverRetried (prepareIdentityContentUpdate identity vdxfKey payload) := by
  unfold prepareIdentityContentUpdate
  split_ifs
  · exact neverRetried_ok _
  · exact neverRetried_error rfl (by decide)

variable [Host]

mutual

theorem neverRetried_canonicalizeJson : ∀ value : Json, NeverRetried value.canonicalizeJson
  | .null => neverRetried_ok _
  | .bool _ => neverRetried_ok _
  | .num value => by
    unfold Json.canonicalizeJson
    split_ifs
    · exact neverRetried_ok _
    · exact neverRetried_error rfl (by decide)
  | .str _ => neverRetried_ok _
  | .arr items => (neverRetried_canonicalizeItems items).bind fun _ => neverRetried_ok _
  | .obj members => (neverRetried_canonicalizeMembers members).bind fun _ => neverRetried_ok _

theorem neverRetried_canonicalizeItems : ∀ items : List Json,
    NeverRetried (Json.canonicalizeItems items)
  | [] => neverRetried_ok _
  | item :: items => (neverRetried_canonicalizeJson item).bind fun _ =>
      (neverRetried_canonicalizeItems items).bind fun _ => neverRetried_ok _

theorem neverRetried_canonicalizeMembers : ∀ members : List (String × Json),
    NeverRetried (Json.canonicalizeMembers members)
  | [] => neverRetried_ok _
  | (_, item) :: members => (neverRetried_canonicalizeJson item).bind fun _ =>
      (neverRetried_canonicalizeMembers members).bind fun _ => neverRetried_ok _

end

theorem neverRetried_prepareCanonicalPayload (value : JsonObject)
    (policy : CanonicalPayloadPolicy) : NeverRetried (prepareCanonicalPayload value policy) := by
  refine (neverRetried_demand _ (by decide) _).bind fun _ => ?_
  refine (neverRetried_demand _ (by decide) _).bind fun _ => ?_
  refine (neverRetried_rejectForbiddenFields value).bind fun _ => ?_
  refine (neverRetried_canonicalizeJson _).bind fun canonical => ?_
  exact (neverRetried_demand _ (by decide) _).bind fun _ => neverRetried_ok _

end Errors

end ChecksAndBalances
