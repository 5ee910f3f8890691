import ChecksAndBalances.Verus.Encoding

/-!
# The identity between an answer and an update

`parseIdentityResult` and `identityToRpc` of `packages/verus/src/rpc-adapter.ts` with the checks of
`validation.ts`.  A field that is not in the answer is `undefined`, here absent.  The assignment
`result["__proto__"] = value` calls a setter and makes no member.
-/

namespace ChecksAndBalances

/-! ## Validation -/

/-- `invalidResult`. -/
def invalidResult (field : String) : VerusIntegrationError :=
  { code := .rpcInvalidResult
    message := "Verus RPC returned an invalid " ++ field ++ " field"
    retryable := false }

/-- `requireObject`. -/
def requireObject (value : Option Json) (field : String) : Except VerusIntegrationError JsonObject :=
  match value with
  | some (.obj members) => .ok members
  | _ => .error (invalidResult field)

/-- `requireString`. -/
def requireString (value : Option Json) (field : String) : Except VerusIntegrationError String :=
  match value with
  | some (.str text) => .ok text
  | _ => .error (invalidResult field)

/-- `requireInteger`. -/
def requireInteger (value : Option Json) (field : String) : Except VerusIntegrationError JsNumber :=
  match value with
  | some (.num n) => if n.isFinite && n.isSafeInteger then .ok n else .error (invalidResult field)
  | _ => .error (invalidResult field)

/-- `requireBoolean`. -/
def requireBoolean (value : Option Json) (field : String) : Except VerusIntegrationError Bool :=
  match value with
  | some (.bool b) => .ok b
  | _ => .error (invalidResult field)

/-- The texts of an array of texts. -/
def stringItems : List Json → Option (List String)
  | [] => some []
  | .str text :: items => (stringItems items).map (text :: ·)
  | _ :: _ => none

/-- `requireStringArray`. -/
def requireStringArray (value : Option Json) (field : String) :
    Except VerusIntegrationError (List String) :=
  match value with
  | some (.arr items) =>
    match stringItems items with
    | some texts => .ok texts
    | none => .error (invalidResult field)
  | _ => .error (invalidResult field)

/-- `result[key] = value` on an object without the key. -/
def assign {α : Type} (key : String) (value : α) (rest : List (String × α)) : List (String × α) :=
  if key = "__proto__" then rest else (key, value) :: rest

/-- `if (depth > 32) throw invalidResult(field)`. -/
def withinDepth {α : Type} (field : String) (depth : ℕ) (result : Except VerusIntegrationError α) :
    Except VerusIntegrationError α :=
  if 32 < depth then .error (invalidResult field) else result

mutual

/-- `requireJsonValue`. -/
def requireJsonValue (field : String) (depth : ℕ) : Json → Except VerusIntegrationError Json
  | .null => withinDepth field depth (.ok .null)
  | .bool value => withinDepth field depth (.ok (.bool value))
  | .num value => withinDepth field depth
      (if value.isFinite then .ok (.num value) else .error (invalidResult field))
  | .str value => withinDepth field depth (.ok (.str value))
  | .arr items => withinDepth field depth ((requireJsonItems field (depth + 1) items).map .arr)
  | .obj members => withinDepth field depth
      ((requireJsonMembers field (depth + 1) members).map .obj)

def requireJsonItems (field : String) (depth : ℕ) :
    List Json → Except VerusIntegrationError (List Json)
  | [] => .ok []
  | item :: items => do
    return (← requireJsonValue field depth item) :: (← requireJsonItems field depth items)

def requireJsonMembers (field : String) (depth : ℕ) :
    List (String × Json) → Except VerusIntegrationError (List (String × Json))
  | [] => .ok []
  | (key, item) :: members => do
    return assign key (← requireJsonValue field depth item)
      (← requireJsonMembers field depth members)

end

/-! ## Identities -/

/-- The entries of a content multimap. -/
def parseContentMultiMap :
    List (String × Json) → Except VerusIntegrationError (List (String × List Json))
  | [] => .ok []
  | (key, .arr items) :: members => do
    return assign key (← requireJsonItems "contentmultimap value" 0 items)
      (← parseContentMultiMap members)
  | _ :: _ => .error
    { code := .rpcInvalidResult
      message := "Verus RPC returned a non-array contentmultimap value"
      retryable := false }

/-- `parseIdentityDefinition`. -/
def parseIdentityDefinition (value : Option Json) :
    Except VerusIntegrationError VerusIdentityDefinition := do
  let raw ← requireObject value "identity"
  let contentMap ← requireObject (raw.get? "contentmap") "contentmap"
  let contentMultiMap ← requireObject (raw.get? "contentmultimap") "contentmultimap"
  let contentMap ← requireJsonMembers "contentmap value" 0 contentMap
  let contentMultiMap ← parseContentMultiMap contentMultiMap
  return {
    version := ← requireInteger (raw.get? "version") "identity.version"
    flags := ← requireInteger (raw.get? "flags") "identity.flags"
    primaryAddresses :=
      ← requireStringArray (raw.get? "primaryaddresses") "identity.primaryaddresses"
    minimumSignatures :=
      ← requireInteger (raw.get? "minimumsignatures") "identity.minimumsignatures"
    name := ← requireString (raw.get? "name") "identity.name"
    identityAddress := ← requireString (raw.get? "identityaddress") "identity.identityaddress"
    parent := ← requireString (raw.get? "parent") "identity.parent"
    systemId := ← requireString (raw.get? "systemid") "identity.systemid"
    contentMap
    contentMultiMap
    revocationAuthority :=
      ← requireString (raw.get? "revocationauthority") "identity.revocationauthority"
    recoveryAuthority :=
      ← requireString (raw.get? "recoveryauthority") "identity.recoveryauthority"
    timelock := ← requireInteger (raw.get? "timelock") "identity.timelock" }

/-- `parseIdentityResult`. -/
def parseIdentityResult (value : Json) : Except VerusIntegrationError VerusIdentityResult := do
  let raw ← requireObject (some value) "identity result"
  let _ ← requireString (raw.get? "fullyqualifiedname") "fullyqualifiedname"
  let identity ← parseIdentityDefinition (raw.get? "identity")
  let status ← requireString (raw.get? "status") "status"
  let _ ← requireBoolean (raw.get? "canspendfor") "canspendfor"
  let canSignFor ← requireBoolean (raw.get? "cansignfor") "cansignfor"
  let blockHeight ← requireInteger (raw.get? "blockheight") "blockheight"
  let transactionId ← requireString (raw.get? "txid") "txid"
  let _ ← requireInteger (raw.get? "vout") "vout"
  return { identity, status, canSignFor, blockHeight := blockHeight.toInt, transactionId }

/-- `identityToRpc`: the members of the object that `updateidentity` is called with. -/
def identityToRpc (identity : VerusIdentityDefinition) : JsonObject :=
  [("version", .num identity.version),
    ("flags", .num identity.flags),
    ("primaryaddresses", .arr (identity.primaryAddresses.map .str)),
    ("minimumsignatures", .num identity.minimumSignatures),
    ("name", .str identity.name),
    ("identityaddress", .str identity.identityAddress),
    ("parent", .str identity.parent),
    ("systemid", .str identity.systemId),
    ("contentmap", .obj identity.contentMap),
    ("contentmultimap", .obj (identity.contentMultiMap.map fun entry => (entry.1, .arr entry.2))),
    ("revocationauthority", .str identity.revocationAuthority),
    ("recoveryauthority", .str identity.recoveryAuthority),
    ("timelock", .num identity.timelock)]

/-! ## What a copy keeps -/

namespace Json

mutual

/-- No member at any depth is named `__proto__`. -/
def protoFree : Json → Bool
  | arr items => protoFreeItems items
  | obj members => protoFreeMembers members
  | _ => true

def protoFreeItems : List Json → Bool
  | [] => true
  | item :: items => item.protoFree && protoFreeItems items

def protoFreeMembers : List (String × Json) → Bool
  | [] => true
  | (key, item) :: members => key ≠ "__proto__" && item.protoFree && protoFreeMembers members

end

end Json

theorem withinDepth_ok {α : Type} {field : String} {depth : ℕ}
    {result : Except VerusIntegrationError α} {a : α}
    (h : withinDepth field depth result = .ok a) : result = .ok a := by
  unfold withinDepth at h
  split_ifs at h
  exact h

theorem requireJsonItems_cons {field : String} {depth : ℕ} {item : Json} {items items' : List Json}
    (h : requireJsonItems field depth (item :: items) = .ok items') :
    ∃ head tail, requireJsonValue field depth item = .ok head ∧
      requireJsonItems field depth items = .ok tail ∧ items' = head :: tail := by
  rw [requireJsonItems] at h
  cases hhead : requireJsonValue field depth item with
  | error error =>
    rw [hhead] at h
    cases h
  | ok head =>
    cases htail : requireJsonItems field depth items with
    | error error =>
      rw [hhead, htail] at h
      cases h
    | ok tail =>
      rw [hhead, htail] at h
      exact ⟨head, tail, rfl, rfl, (Except.ok.inj h).symm⟩

theorem requireJsonMembers_cons {field key : String} {depth : ℕ} {item : Json}
    {members members' : JsonObject}
    (h : requireJsonMembers field depth ((key, item) :: members) = .ok members') :
    ∃ head tail, requireJsonValue field depth item = .ok head ∧
      requireJsonMembers field depth members = .ok tail ∧ members' = assign key head tail := by
  rw [requireJsonMembers] at h
  cases hhead : requireJsonValue field depth item with
  | error error =>
    rw [hhead] at h
    cases h
  | ok head =>
    cases htail : requireJsonMembers field depth members with
    | error error =>
      rw [hhead, htail] at h
      cases h
    | ok tail =>
      rw [hhead, htail] at h
      exact ⟨head, tail, rfl, rfl, (Except.ok.inj h).symm⟩

/-- A copy has at most the members of the original. -/
theorem length_requireJsonMembers {field : String} {depth : ℕ} {members members' : JsonObject}
    (h : requireJsonMembers field depth members = .ok members') :
    members'.length ≤ members.length := by
  induction members generalizing members' with
  | nil =>
    rw [requireJsonMembers] at h
    rw [← Except.ok.inj h]
  | cons member members ih =>
    obtain ⟨key, item⟩ := member
    obtain ⟨head, tail, -, htail, rfl⟩ := requireJsonMembers_cons h
    have hlength := ih htail
    unfold assign
    split_ifs
    · exact Nat.le_succ_of_le hlength
    · exact Nat.succ_le_succ hlength

mutual

/-- The copy is the original unless a `__proto__` was lost. -/
theorem requireJsonValue_eq_iff {field : String} {depth : ℕ} : ∀ {value copy : Json},
    requireJsonValue field depth value = .ok copy → (copy = value ↔ value.protoFree = true)
  | .null, copy, h => by
    rw [requireJsonValue] at h
    simp [← Except.ok.inj (withinDepth_ok h), Json.protoFree]
  | .bool value, copy, h => by
    rw [requireJsonValue] at h
    simp [← Except.ok.inj (withinDepth_ok h), Json.protoFree]
  | .num value, copy, h => by
    rw [requireJsonValue] at h
    have hvalue := withinDepth_ok h
    split_ifs at hvalue
    simp [← Except.ok.inj hvalue, Json.protoFree]
  | .str value, copy, h => by
    rw [requireJsonValue] at h
    simp [← Except.ok.inj (withinDepth_ok h), Json.protoFree]
  | .arr items, copy, h => by
    rw [requireJsonValue] at h
    have hvalue := withinDepth_ok h
    cases hitems : requireJsonItems field (depth + 1) items with
    | error error =>
      rw [hitems] at hvalue
      cases hvalue
    | ok items' =>
      rw [hitems] at hvalue
      rw [← Except.ok.inj hvalue, Json.protoFree, Json.arr.injEq]
      exact requireJsonItems_eq_iff hitems
  | .obj members, copy, h => by
    rw [requireJsonValue] at h
    have hvalue := withinDepth_ok h
    cases hmembers : requireJsonMembers field (depth + 1) members with
    | error error =>
      rw [hmembers] at hvalue
      cases hvalue
    | ok members' =>
      rw [hmembers] at hvalue
      rw [← Except.ok.inj hvalue, Json.protoFree, Json.obj.injEq]
      exact requireJsonMembers_eq_iff hmembers

theorem requireJsonItems_eq_iff {field : String} {depth : ℕ} : ∀ {items items' : List Json},
    requireJsonItems field depth items = .ok items' →
      (items' = items ↔ Json.protoFreeItems items = true)
  | [], items', h => by
    rw [requireJsonItems] at h
    simp [← Except.ok.inj h, Json.protoFreeItems]
  | item :: items, items', h => by
    obtain ⟨head, tail, hhead, htail, rfl⟩ := requireJsonItems_cons h
    rw [Json.protoFreeItems, Bool.and_eq_true, List.cons.injEq, requireJsonValue_eq_iff hhead,
      requireJsonItems_eq_iff htail]

theorem requireJsonMembers_eq_iff {field : String} {depth : ℕ} : ∀ {members members' : JsonObject},
    requireJsonMembers field depth members = .ok members' →
      (members' = members ↔ Json.protoFreeMembers members = true)
  | [], members', h => by
    rw [requireJsonMembers] at h
    simp [← Except.ok.inj h, Json.protoFreeMembers]
  | (key, item) :: members, members', h => by
    obtain ⟨head, tail, hhead, htail, rfl⟩ := requireJsonMembers_cons h
    rw [Json.protoFreeMembers, Bool.and_eq_true, Bool.and_eq_true, assign]
    by_cases hkey : key = "__proto__"
    · -- The copy is shorter than the original.
      have hlength := length_requireJsonMembers htail
      rw [if_pos hkey]
      refine ⟨fun heq => ?_, fun hfree => ?_⟩
      · rw [heq, List.length_cons] at hlength
        omega
      · exact absurd hkey (of_decide_eq_true hfree.1.1)
    · rw [if_neg hkey, List.cons.injEq, Prod.mk.injEq, requireJsonValue_eq_iff hhead,
        requireJsonMembers_eq_iff htail]
      simp [hkey]

end

/-! ## What an answer says -/

theorem requireObject_ok {value : Option Json} {field : String} {members : JsonObject}
    (h : requireObject value field = .ok members) : value = some (.obj members) := by
  unfold requireObject at h
  split at h
  · rw [Except.ok.inj h]
  · cases h

theorem requireString_ok {value : Option Json} {field text : String}
    (h : requireString value field = .ok text) : value = some (.str text) := by
  unfold requireString at h
  split at h
  · rw [Except.ok.inj h]
  · cases h

theorem requireInteger_ok {value : Option Json} {field : String} {n : JsNumber}
    (h : requireInteger value field = .ok n) : value = some (.num n) := by
  unfold requireInteger at h
  split at h
  · split_ifs at h
    rw [Except.ok.inj h]
  · cases h

theorem stringItems_some {items : List Json} {texts : List String}
    (h : stringItems items = some texts) : items = texts.map .str := by
  induction items generalizing texts with
  | nil =>
    rw [stringItems] at h
    rw [← Option.some.inj h]
    rfl
  | cons item items ih =>
    cases item with
    | str text =>
      rw [stringItems, Option.map_eq_some_iff] at h
      obtain ⟨rest, hrest, rfl⟩ := h
      rw [ih hrest, List.map_cons]
    | _ => cases h

theorem requireStringArray_ok {value : Option Json} {field : String} {texts : List String}
    (h : requireStringArray value field = .ok texts) :
    value = some (.arr (texts.map .str)) := by
  unfold requireStringArray at h
  split at h
  · split at h
    · next hitems => rw [stringItems_some hitems, Except.ok.inj h]
    · cases h
  · cases h

/-- The identity was parsed from the members. -/
structure ParsedFrom (read : JsonObject) (identity : VerusIdentityDefinition) : Prop where
  version : read.get? "version" = some (.num identity.version)
  flags : read.get? "flags" = some (.num identity.flags)
  primaryAddresses :
    read.get? "primaryaddresses" = some (.arr (identity.primaryAddresses.map .str))
  minimumSignatures : read.get? "minimumsignatures" = some (.num identity.minimumSignatures)
  name : read.get? "name" = some (.str identity.name)
  identityAddress : read.get? "identityaddress" = some (.str identity.identityAddress)
  parent : read.get? "parent" = some (.str identity.parent)
  systemId : read.get? "systemid" = some (.str identity.systemId)
  contentMap : ∃ members, read.get? "contentmap" = some (.obj members) ∧
    requireJsonMembers "contentmap value" 0 members = .ok identity.contentMap
  contentMultiMap : ∃ members, read.get? "contentmultimap" = some (.obj members) ∧
    parseContentMultiMap members = .ok identity.contentMultiMap
  revocationAuthority : read.get? "revocationauthority" = some (.str identity.revocationAuthority)
  recoveryAuthority : read.get? "recoveryauthority" = some (.str identity.recoveryAuthority)
  timelock : read.get? "timelock" = some (.num identity.timelock)

theorem bind_ok {ε α β : Type} {x : Except ε α} {f : α → Except ε β} {b : β}
    (h : (x >>= f) = .ok b) : ∃ a, x = .ok a ∧ f a = .ok b := by
  cases x with
  | error error => cases h
  | ok a => exact ⟨a, rfl, h⟩

theorem parseIdentityDefinition_ok {value : Option Json} {identity : VerusIdentityDefinition}
    (h : parseIdentityDefinition value = .ok identity) :
    ∃ read, value = some (.obj read) ∧ ParsedFrom read identity := by
  unfold parseIdentityDefinition at h
  obtain ⟨read, hread, h⟩ := bind_ok h
  obtain ⟨contentMap, hmap, h⟩ := bind_ok h
  obtain ⟨contentMultiMap, hmultiMap, h⟩ := bind_ok h
  obtain ⟨parsedMap, hparsedMap, h⟩ := bind_ok h
  obtain ⟨parsedMultiMap, hparsedMultiMap, h⟩ := bind_ok h
  obtain ⟨version, hversion, h⟩ := bind_ok h
  obtain ⟨flags, hflags, h⟩ := bind_ok h
  obtain ⟨primaryAddresses, hprimary, h⟩ := bind_ok h
  obtain ⟨minimumSignatures, hminimum, h⟩ := bind_ok h
  obtain ⟨name, hname, h⟩ := bind_ok h
  obtain ⟨identityAddress, haddress, h⟩ := bind_ok h
  obtain ⟨parent, hparent, h⟩ := bind_ok h
  obtain ⟨systemId, hsystem, h⟩ := bind_ok h
  obtain ⟨revocationAuthority, hrevocation, h⟩ := bind_ok h
  obtain ⟨recoveryAuthority, hrecovery, h⟩ := bind_ok h
  obtain ⟨timelock, htimelock, h⟩ := bind_ok h
  obtain rfl := Except.ok.inj h
  exact ⟨read, requireObject_ok hread,
    { version := requireInteger_ok hversion
      flags := requireInteger_ok hflags
      primaryAddresses := requireStringArray_ok hprimary
      minimumSignatures := requireInteger_ok hminimum
      name := requireString_ok hname
      identityAddress := requireString_ok haddress
      parent := requireString_ok hparent
      systemId := requireString_ok hsystem
      contentMap := ⟨contentMap, requireObject_ok hmap, hparsedMap⟩
      contentMultiMap := ⟨contentMultiMap, requireObject_ok hmultiMap, hparsedMultiMap⟩
      revocationAuthority := requireString_ok hrevocation
      recoveryAuthority := requireString_ok hrecovery
      timelock := requireInteger_ok htimelock }⟩

theorem parseIdentityResult_ok {answer : Json} {result : VerusIdentityResult}
    (h : parseIdentityResult answer = .ok result) :
    ∃ members read : JsonObject, answer = .obj members ∧ members.get? "identity" = some (.obj read) ∧
      ParsedFrom read result.identity := by
  unfold parseIdentityResult at h
  obtain ⟨members, hmembers, h⟩ := bind_ok h
  obtain ⟨_, -, h⟩ := bind_ok h
  obtain ⟨identity, hidentity, h⟩ := bind_ok h
  obtain ⟨status, -, h⟩ := bind_ok h
  obtain ⟨_, -, h⟩ := bind_ok h
  obtain ⟨canSignFor, -, h⟩ := bind_ok h
  obtain ⟨blockHeight, -, h⟩ := bind_ok h
  obtain ⟨transactionId, -, h⟩ := bind_ok h
  obtain ⟨_, -, h⟩ := bind_ok h
  obtain rfl := Except.ok.inj h
  obtain ⟨read, hread, hparsed⟩ := parseIdentityDefinition_ok hidentity
  exact ⟨members, read, Option.some.inj (requireObject_ok hmembers), hread, hparsed⟩

/-! ## The frame of an update -/

/-- The fields that an identity definition has. -/
def identityFields : List String := [
  "version", "flags", "primaryaddresses", "minimumsignatures", "name", "identityaddress", "parent",
  "systemid", "contentmap", "contentmultimap", "revocationauthority", "recoveryauthority",
  "timelock"]

/-- The two identities agree outside the content of one key. -/
def KeepsFrame (read sent : JsonObject) (vdxfKey : String) : Prop :=
  (∀ field, field ≠ "contentmultimap" → sent.get? field = read.get? field) ∧
  ∃ old new, read.get? "contentmultimap" = some (.obj old) ∧
    sent.get? "contentmultimap" = some (.obj new) ∧
    ∀ key, key ≠ vdxfKey → JsonObject.get? new key = JsonObject.get? old key

/-- No entry outside the key has a `__proto__`, be it its own name. -/
def PlainContent (content : JsonObject) (vdxfKey : String) : Prop :=
  ∀ key value, content.get? key = some value → key ≠ vdxfKey →
    key ≠ "__proto__" ∧ value.protoFree = true

/-- The identity has the known fields only, and no `__proto__` in its content. -/
structure Transparent (read : JsonObject) (vdxfKey : String) : Prop where
  fields : ∀ field value, read.get? field = some value → field ∈ identityFields
  contentMap : ∀ value, read.get? "contentmap" = some value → value.protoFree = true
  contentMultiMap : ∀ members, read.get? "contentmultimap" = some (.obj members) →
    PlainContent members vdxfKey

/-- A field outside the identity definition is not sent. -/
theorem identityToRpc_unknown (identity : VerusIdentityDefinition) {field : String}
    (h : field ∉ identityFields) : (identityToRpc identity).get? field = none := by
  unfold JsonObject.get?
  rw [List.lookup_eq_none_iff]
  intro member hmember
  have hfield : member.1 ∈ identityFields := by
    simp only [identityToRpc, List.mem_cons, List.not_mem_nil, or_false] at hmember
    rcases hmember with rfl | rfl | rfl | rfl | rfl | rfl | rfl | rfl | rfl | rfl | rfl | rfl | rfl <;>
      simp [identityFields]
  rw [bne_iff_ne]
  rintro rfl
  exact h hfield

section Frame

variable {read : JsonObject} {identity : VerusIdentityDefinition}

/-- The fields outside the contents are sent as they were read. -/
theorem ParsedFrom.get?_eq (h : ParsedFrom read identity) {field : String}
    (hfield : field ∈ identityFields) (hmap : field ≠ "contentmap")
    (hmultiMap : field ≠ "contentmultimap") :
    (identityToRpc identity).get? field = read.get? field := by
  simp only [identityFields, List.mem_cons, List.not_mem_nil, or_false] at hfield
  rcases hfield with rfl | rfl | rfl | rfl | rfl | rfl | rfl | rfl | rfl | rfl | rfl | rfl | rfl
  · exact h.version.symm
  · exact h.flags.symm
  · exact h.primaryAddresses.symm
  · exact h.minimumSignatures.symm
  · exact h.name.symm
  · exact h.identityAddress.symm
  · exact h.parent.symm
  · exact h.systemId.symm
  · exact absurd rfl hmap
  · exact absurd rfl hmultiMap
  · exact h.revocationAuthority.symm
  · exact h.recoveryAuthority.symm
  · exact h.timelock.symm

theorem ParsedFrom.contentMap_eq_iff (h : ParsedFrom read identity) :
    (identityToRpc identity).get? "contentmap" = read.get? "contentmap" ↔
      ∀ value, read.get? "contentmap" = some value → value.protoFree = true := by
  obtain ⟨members, hmembers, hcopy⟩ := h.contentMap
  have hsent : (identityToRpc identity).get? "contentmap" = some (.obj identity.contentMap) := rfl
  rw [hsent, hmembers, Option.some.injEq, Json.obj.injEq, requireJsonMembers_eq_iff hcopy]
  simp [Json.protoFree]

/-- All fields but the content multimap are kept. -/
theorem ParsedFrom.fields_eq_iff (h : ParsedFrom read identity) :
    (∀ field, field ≠ "contentmultimap" →
        (identityToRpc identity).get? field = read.get? field) ↔
      (∀ field value, read.get? field = some value → field ∈ identityFields) ∧
      ∀ value, read.get? "contentmap" = some value → value.protoFree = true := by
  rw [← h.contentMap_eq_iff]
  refine ⟨fun hkept => ⟨fun field value hvalue => ?_, hkept _ (by decide)⟩, fun hknown field hne => ?_⟩
  · by_contra hunknown
    have hne : field ≠ "contentmultimap" := by
      rintro rfl
      exact hunknown (by decide)
    have hnone := identityToRpc_unknown identity hunknown
    rw [hkept field hne, hvalue] at hnone
    cases hnone
  · by_cases hfield : field ∈ identityFields
    · by_cases hmap : field = "contentmap"
      · rw [hmap]
        exact hknown.2
      · exact h.get?_eq hfield hmap hne
    · rw [identityToRpc_unknown identity hfield]
      cases hvalue : read.get? field with
      | none => rfl
      | some value => exact absurd (hknown.1 field value hvalue) hfield

end Frame

theorem parseContentMultiMap_cons {key : String} {item : Json} {members : JsonObject}
    {map : List (String × List Json)}
    (h : parseContentMultiMap ((key, item) :: members) = .ok map) :
    ∃ items copy rest, item = .arr items ∧
      requireJsonItems "contentmultimap value" 0 items = .ok copy ∧
      parseContentMultiMap members = .ok rest ∧ map = assign key copy rest := by
  cases item with
  | arr items =>
    rw [parseContentMultiMap] at h
    obtain ⟨copy, hcopy, h⟩ := bind_ok h
    obtain ⟨rest, hrest, h⟩ := bind_ok h
    exact ⟨items, copy, rest, rfl, hcopy, hrest, (Except.ok.inj h).symm⟩
  | _ => cases h

/-- The parsed content has no entry named `__proto__`. -/
theorem lookup_parseContentMultiMap_proto {members : JsonObject} {map : List (String × List Json)}
    (h : parseContentMultiMap members = .ok map) : map.lookup "__proto__" = none := by
  induction members generalizing map with
  | nil =>
    rw [parseContentMultiMap] at h
    rw [← Except.ok.inj h]
    rfl
  | cons member members ih =>
    obtain ⟨items, copy, rest, -, -, hrest, rfl⟩ := parseContentMultiMap_cons h
    unfold assign
    split_ifs with hkey
    · exact ih hrest
    · rw [List.lookup_cons, beq_eq_false_iff_ne.2 (Ne.symm hkey)]
      exact ih hrest

/-- An entry of the parsed content is the one that was read, unless a `__proto__` was lost. -/
theorem lookup_parseContentMultiMap {members : JsonObject} {map : List (String × List Json)}
    (h : parseContentMultiMap members = .ok map) {key : String} (hkey : key ≠ "__proto__") :
    (map.lookup key).map Json.arr = members.get? key ↔
      ∀ value, members.get? key = some value → value.protoFree = true := by
  induction members generalizing map with
  | nil =>
    rw [parseContentMultiMap] at h
    rw [← Except.ok.inj h]
    simp [JsonObject.get?]
  | cons member members ih =>
    obtain ⟨key', item⟩ := member
    obtain ⟨items, copy, rest, rfl, hcopy, hrest, rfl⟩ := parseContentMultiMap_cons h
    have hih := ih hrest
    unfold assign JsonObject.get? at *
    by_cases hsame : key = key'
    · rw [if_neg (hsame ▸ hkey), hsame, List.lookup_cons_self, List.lookup_cons_self,
        Option.map_some, Option.some.injEq, Json.arr.injEq, requireJsonItems_eq_iff hcopy]
      simp [Json.protoFree]
    · have hbeq : (key == key') = false := beq_eq_false_iff_ne.2 hsame
      rw [List.lookup_cons, hbeq]
      split_ifs
      · exact hih
      · rw [List.lookup_cons, hbeq]
        exact hih

theorem get?_map_arr (map : List (String × List Json)) (key : String) :
    JsonObject.get? (map.map fun entry => (entry.1, Json.arr entry.2)) key =
      (map.lookup key).map Json.arr := by
  unfold JsonObject.get?
  induction map with
  | nil => rfl
  | cons entry map ih =>
    rw [List.map_cons, List.lookup_cons, List.lookup_cons, ih]
    cases key == entry.1 <;> rfl

/-- All entries of the content outside the key are kept. -/
theorem content_eq_iff {members : JsonObject} {map : List (String × List Json)}
    (h : parseContentMultiMap members = .ok map) (vdxfKey : String) (value : List Json) :
    (∀ key, key ≠ vdxfKey →
        ((setEntry map vdxfKey value).lookup key).map Json.arr = members.get? key) ↔
      PlainContent members vdxfKey := by
  refine ⟨fun hkept key entry hentry hne => ?_, fun hplain key hne => ?_⟩
  · have hkey := hkept key hne
    rw [lookup_setEntry_of_ne map value hne] at hkey
    by_cases hproto : key = "__proto__"
    · rw [hproto, lookup_parseContentMultiMap_proto h, ← hproto, hentry] at hkey
      cases hkey
    · exact ⟨hproto, (lookup_parseContentMultiMap h hproto).1 hkey entry hentry⟩
  · rw [lookup_setEntry_of_ne map value hne]
    by_cases hproto : key = "__proto__"
    · rw [hproto, lookup_parseContentMultiMap_proto h]
      cases hentry : members.get? "__proto__" with
      | none => rfl
      | some entry => exact absurd rfl (hplain _ entry hentry (hproto ▸ hne)).1
    · rw [lookup_parseContentMultiMap h hproto]
      intro entry hentry
      exact (hplain key entry hentry hne).2

/-- The identity of an update is the one that was read outside the content of the key, exactly when
that identity has the known fields only and nothing in it is named `__proto__`. -/
theorem identity_frame_iff {answer : Json} {result : VerusIdentityResult} {vdxfKey : String}
    {payload : CanonicalPayload} {update : PreparedIdentityUpdate}
    (hanswer : parseIdentityResult answer = .ok result)
    (hupdate : prepareIdentityContentUpdate result.identity vdxfKey payload = .ok update) :
    ∃ members read : JsonObject, answer = .obj members ∧ members.get? "identity" = some (.obj read) ∧
      (KeepsFrame read (identityToRpc update.identity) vdxfKey ↔ Transparent read vdxfKey) := by
  obtain ⟨members, read, hmembers, hread, hparsed⟩ := parseIdentityResult_ok hanswer
  refine ⟨members, read, hmembers, hread, ?_⟩
  obtain ⟨old, hold, hparse⟩ := hparsed.contentMultiMap
  unfold prepareIdentityContentUpdate at hupdate
  split_ifs at hupdate
  obtain rfl := Except.ok.inj hupdate
  -- The update differs from the parsed identity in its content multimap only.
  have hfields : ∀ map field, field ≠ "contentmultimap" →
      (identityToRpc { result.identity with contentMultiMap := map }).get? field =
        (identityToRpc result.identity).get? field := by
    intro map field hne
    have hbeq : (field == "contentmultimap") = false := beq_eq_false_iff_ne.2 hne
    simp only [identityToRpc, JsonObject.get?, List.lookup_cons, hbeq]
  have hcontent := content_eq_iff hparse vdxfKey [.str (toHex payload.bytes)]
  have hkept := hparsed.fields_eq_iff
  constructor
  · rintro ⟨hframe, old', new, hold', hnew, hkeys⟩
    obtain rfl : old = old' := Json.obj.inj (Option.some.inj (hold.symm.trans hold'))
    have hfieldsKept := hkept.1 fun field hne => (hfields _ field hne).symm.trans (hframe field hne)
    obtain rfl := Json.obj.inj (Option.some.inj hnew)
    refine ⟨hfieldsKept.1, hfieldsKept.2, fun members' hmembers' => ?_⟩
    obtain rfl : old = members' := Json.obj.inj (Option.some.inj (hold.symm.trans hmembers'))
    apply hcontent.1
    intro key hne
    rw [← get?_map_arr]
    exact hkeys key hne
  · intro htransparent
    have hframe := hkept.2 ⟨htransparent.fields, htransparent.contentMap⟩
    refine ⟨fun field hne => (hfields _ field hne).trans (hframe field hne), old, _, hold, rfl, ?_⟩
    intro key hne
    rw [get?_map_arr]
    exact hcontent.2 (htransparent.contentMultiMap old hold) key hne

namespace IdentitySample

/-- The number `3`, the version of an identity. -/
def three : JsNumber := ⟨0x4008000000000000#64⟩

def zero : JsNumber := ⟨0x0#64⟩

def one : JsNumber := ⟨0x3ff0000000000000#64⟩

def address : String := "iJhCezBExJHvtyH3fGhNnt2NhU4Ztkf2yq"

def vdxfKey : String := "iQxTRgN4ZaYQcWAspPfsNS5YFHTEahLgEP"

/-- An identity as the node prints it, with further fields. -/
def identity (further : JsonObject) : JsonObject :=
  [("version", .num three), ("flags", .num zero),
    ("primaryaddresses", .arr [.str "RXLYm4J6qi7yam9zXtkEkRwbvCrnWKGZuv"]),
    ("minimumsignatures", .num one), ("name", .str "cbc-protocol-test"),
    ("identityaddress", .str address), ("parent", .str address), ("systemid", .str address),
    ("contentmap", .obj []), ("contentmultimap", .obj [(address, .arr [.str "00"])]),
    ("revocationauthority", .str address), ("recoveryauthority", .str address),
    ("timelock", .num zero)] ++ further

def answer (further : JsonObject) : Json :=
  .obj [("fullyqualifiedname", .str "cbc-protocol-test.VRSCTEST@"),
    ("identity", .obj (identity further)), ("status", .str "active"), ("canspendfor", .bool true),
    ("cansignfor", .bool true), ("blockheight", .num one), ("txid", .str "00"),
    ("vout", .num zero)]

/-- What is parsed, whatever the further fields. -/
def parsed : VerusIdentityResult :=
  { identity :=
      { version := three
        flags := zero
        primaryAddresses := ["RXLYm4J6qi7yam9zXtkEkRwbvCrnWKGZuv"]
        minimumSignatures := one
        name := "cbc-protocol-test"
        identityAddress := address
        parent := address
        systemId := address
        contentMap := []
        contentMultiMap := [(address, [.str "00"])]
        revocationAuthority := address
        recoveryAuthority := address
        timelock := zero }
    status := "active"
    canSignFor := true
    blockHeight := 1
    transactionId := "00" }

/-- The payload of the empty object. -/
def payload : CanonicalPayload :=
  { value := [], bytes := [0x7b, 0x7d], digest := Lib.Sha256.digest [0x7b, 0x7d]
    policyReference := "policy" }

def update : PreparedIdentityUpdate :=
  { identity := { parsed.identity with
      contentMultiMap := [(address, [.str "00"]), (vdxfKey, [.str "7b7d"])] }
    manifestDigest := payload.digest
    vdxfKey := vdxfKey }

theorem parse_answer : parseIdentityResult (answer []) = .ok parsed := by
  rfl

theorem parse_answer_private :
    parseIdentityResult (answer [("privateaddress", .str "zs1")]) = .ok parsed := by
  rfl

theorem prepare_update :
    prepareIdentityContentUpdate parsed.identity vdxfKey payload = .ok update := by
  rfl

theorem transparent_identity : Transparent (identity []) vdxfKey := by
  refine ⟨fun field value hvalue => ?_, fun value hvalue => ?_, fun members hmembers => ?_⟩
  · by_contra hunknown
    have hnone := identityToRpc_unknown parsed.identity hunknown
    have hread : JsonObject.get? (identity []) field = none := hnone
    rw [hread] at hvalue
    cases hvalue
  · obtain rfl : Json.obj [] = value := Option.some.inj hvalue
    rfl
  · obtain rfl : [(address, Json.arr [.str "00"])] = members :=
      Json.obj.inj (Option.some.inj hmembers)
    intro key value hvalue hne
    simp only [JsonObject.get?, List.lookup_cons, List.lookup_nil] at hvalue
    split at hvalue
    · next hkey =>
      rw [beq_iff_eq] at hkey
      rw [hkey, ← Option.some.inj hvalue]
      exact ⟨by decide, rfl⟩
    · cases hvalue

/-- An identity with the known fields only is sent back as it was read. -/
theorem identity_frame_iff_known_fields :
    KeepsFrame (identity []) (identityToRpc update.identity) vdxfKey := by
  obtain ⟨members, read, hmembers, hread, hiff⟩ := identity_frame_iff parse_answer prepare_update
  obtain rfl := Json.obj.inj hmembers
  obtain rfl := Json.obj.inj (Option.some.inj hread)
  exact hiff.2 transparent_identity

/-- The private address of an identity is read and not sent back. -/
theorem private_address_dropped :
    ∃ result update, parseIdentityResult (answer [("privateaddress", .str "zs1")]) = .ok result ∧
      prepareIdentityContentUpdate result.identity vdxfKey payload = .ok update ∧
      JsonObject.get? (identity [("privateaddress", .str "zs1")]) "privateaddress" =
        some (.str "zs1") ∧
      (identityToRpc update.identity).get? "privateaddress" = none ∧
      ¬ KeepsFrame (identity [("privateaddress", .str "zs1")]) (identityToRpc update.identity)
        vdxfKey := by
  refine ⟨parsed, update, parse_answer_private, prepare_update, rfl, rfl, ?_⟩
  intro hframe
  cases hframe.1 "privateaddress" (by decide)

end IdentitySample

end ChecksAndBalances
