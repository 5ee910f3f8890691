import ChecksAndBalances.Verus.RpcAdapter

/-!
# The transport of a write

`HttpVerusRpcAdapter.call` and `updateIdentity` of `packages/verus/src/rpc-adapter.ts`. A write that
fails may have happened, unless its error says otherwise.
-/

namespace ChecksAndBalances

/-- `VerusRpcMethod`. -/
inductive VerusRpcMethod where
  | getinfo
  | getblockchaininfo
  | getidentity
  | getidentitycontent
  | getvdxfid
  | updateidentity
  | signdata
  | verifysignature
  | getrawtransaction
  | getblockhash
  | getblock
  deriving DecidableEq, Repr

/-- `HttpVerusRpcAdapterOptions`, as far as the outcome of a call depends on them. -/
structure HttpVerusRpcAdapterOptions where
  timeoutMs : ℕ := 2000
  writeTimeoutMs : ℕ := 60000
  deriving DecidableEq, Repr

/-- The JSON-RPC request that is posted, and the time after which it is aborted. -/
structure FetchRequest where
  id : String
  method : VerusRpcMethod
  params : List Json
  abortAfterMs : ℕ

/-- What becomes of a request. -/
inductive FetchOutcome where
  /-- `fetch` rejects, with `timedOut` because the timer has aborted it. -/
  | rejected (timedOut : Bool)
  /-- An answer; its body is absent where `response.json()` rejects. -/
  | answered (status : ℕ) (body : Option Json)

/-- `response.ok`. -/
def isOkStatus (status : ℕ) : Bool := 200 ≤ status && status ≤ 299

/-- The outcome of a write that may have happened. -/
def ambiguousWrite : VerusIntegrationError where
  code := .ambiguousSubmission
  message := "Verus write outcome is ambiguous and requires readback reconciliation"
  retryable := true
  submissionAmbiguous := true

def rpcHttpError (status : ℕ) : VerusIntegrationError where
  code := .rpcHttpError
  message := "Private Verus RPC returned an HTTP error"
  retryable := 500 ≤ status

def malformedJson : VerusIntegrationError where
  code := .rpcProtocolError
  message := "Private Verus RPC returned malformed JSON"
  retryable := false

def noResult : VerusIntegrationError where
  code := .rpcProtocolError
  message := "Private Verus RPC response did not contain a result"
  retryable := false

/-- `code === -28 || code === -9 || code === -5`, with `0` for a code that is not a number. -/
def isRetryableCode (code : Option Json) : Bool :=
  match code with
  | some (.num n) => n.isSafeInteger && [-28, -9, -5].contains n.toInt
  | _ => false

def rpcMethodError (code : Option Json) : VerusIntegrationError where
  code := .rpcMethodError
  message := "Private Verus RPC rejected an allowlisted method"
  retryable := isRetryableCode code

def rpcUnreachable (timedOut : Bool) : VerusIntegrationError where
  code := if timedOut then .rpcTimeout else .rpcUnavailable
  message := if timedOut then "Private Verus RPC timed out" else "Private Verus RPC is unavailable"
  retryable := true

/-- The envelope of an answer. -/
def readEnvelope (body : Option Json) (write : Bool) : Except VerusIntegrationError JsonObject :=
  match body with
  | some value =>
    match requireObject (some value) "JSON-RPC envelope" with
    | .ok payload => .ok payload
    | .error error => .error (if write then ambiguousWrite else error)
  | none => .error (if write then ambiguousWrite else malformedJson)

/-- The result in an envelope, or the error that it reports. -/
def readResult (payload : JsonObject) (write : Bool) : Except VerusIntegrationError Json :=
  let result : Except VerusIntegrationError Json :=
    match payload.get? "result" with
    | some result => .ok result
    | none => .error (if write then ambiguousWrite else noResult)
  match payload.get? "error" with
  | none => result
  | some .null => result
  | some error => do
    let rpcError ← requireObject (some error) "JSON-RPC error"
    .error (rpcMethodError (rpcError.get? "code"))

/-- What `call` makes of the outcome. -/
def readOutcome (outcome : FetchOutcome) (write : Bool) : Except VerusIntegrationError Json :=
  match outcome with
  | .rejected timedOut => .error (if write then ambiguousWrite else rpcUnreachable timedOut)
  | .answered status body =>
    if !isOkStatus status then
      .error (if write && 500 ≤ status then ambiguousWrite else rpcHttpError status)
    else do
      let payload ← readEnvelope body write
      readResult payload write

/-- The request of the adapter's call number `nextId`. -/
def HttpVerusRpcAdapterOptions.request (options : HttpVerusRpcAdapterOptions) (nextId : ℕ)
    (method : VerusRpcMethod) (params : List Json) (write : Bool) : FetchRequest where
  id := "cbc-" ++ toString nextId
  method := method
  params := params
  abortAfterMs := if write then options.writeTimeoutMs else options.timeoutMs

/-- `HttpVerusRpcAdapter.call`. -/
def HttpVerusRpcAdapterOptions.call (options : HttpVerusRpcAdapterOptions)
    (fetch : FetchRequest → FetchOutcome) (nextId : ℕ) (method : VerusRpcMethod)
    (params : List Json) (write : Bool) : Except VerusIntegrationError Json :=
  readOutcome (fetch (options.request nextId method params write)) write

/-- `/^[0-9a-f]{64}$/i`. -/
def isHex64IgnoringCase (value : String) : Bool :=
  value.toList.length == 64 &&
    value.toList.all fun c => isDigit c || ('a' ≤ c && c ≤ 'f') || ('A' ≤ c && c ≤ 'F')

theorem isHexDigit_toLower {c : Char}
    (h : (isDigit c || ('a' ≤ c && c ≤ 'f') || ('A' ≤ c && c ≤ 'F')) = true) :
    (isDigit c.toLower || ('a' ≤ c.toLower && c.toLower ≤ 'f')) = true := by
  by_cases hupper : c.val ≥ 'A'.val ∧ c.val ≤ 'Z'.val
  · have hlow : c.toLower = ⟨c.val + ('a'.val - 'A'.val), _⟩ := dif_pos hupper
    rw [hlow]
    simp only [isDigit, Bool.or_eq_true, Bool.and_eq_true, decide_eq_true_eq, Char.le_def,
      UInt32.le_iff_toNat_le, Char.reduceVal, UInt32.reduceToNat, ge_iff_le] at h hupper ⊢
    have hdistance : ((97 : UInt32) - 65).toNat = 32 := rfl
    rw [UInt32.toNat_add, hdistance, Nat.mod_eq_of_lt (by omega)]
    omega
  · have hlow : c.toLower = c := dif_neg hupper
    rw [hlow]
    simp only [isDigit, Bool.or_eq_true, Bool.and_eq_true, decide_eq_true_eq, Char.le_def,
      UInt32.le_iff_toNat_le, Char.reduceVal, UInt32.reduceToNat, ge_iff_le] at h hupper ⊢
    omega

/-- The lowered digits are those of a transaction identifier. -/
theorem isHex64_toLower {value : String} (h : isHex64IgnoringCase value = true) :
    isHex64 value.toLower = true := by
  rw [isHex64IgnoringCase, Bool.and_eq_true, beq_iff_eq, List.all_eq_true] at h
  change isHex64 (value.map Char.toLower) = true
  rw [isHex64, String.toList_map, List.length_map, h.1, List.all_map]
  simp only [BEq.rfl, Bool.true_and, List.all_eq_true]
  exact fun c hc => isHexDigit_toLower (h.2 c hc)

/-- The error of a write whose answer names no transaction. -/
def noTransactionId : VerusIntegrationError where
  code := .ambiguousSubmission
  message := "Verus write returned no usable transaction identifier and requires readback " ++
    "reconciliation"
  retryable := true
  submissionAmbiguous := true

/-- The transaction that the result of a write names. -/
def readTransactionId (result : Json) : Except VerusIntegrationError TransactionId :=
  match result with
  | .str text =>
    if h : isHex64IgnoringCase text = true then .ok ⟨text.toLower, isHex64_toLower h⟩
    else .error noTransactionId
  | _ => .error noTransactionId

/-- The parameters of `updateidentity`. -/
def updateParams (request : PreparedIdentityUpdate) : List Json :=
  [.obj (identityToRpc request.identity), .bool false, .bool false]

/-- `HttpVerusRpcAdapter.updateIdentity`. -/
def HttpVerusRpcAdapterOptions.updateIdentity (options : HttpVerusRpcAdapterOptions)
    (fetch : FetchRequest → FetchOutcome) (nextId : ℕ) (request : PreparedIdentityUpdate) :
    Except VerusIntegrationError TransactionId := do
  let result ← options.call fetch nextId .updateidentity (updateParams request) true
  readTransactionId result

/-! ## What a write answers -/

/-- The write has not happened. -/
inductive DefiniteFailure : FetchOutcome → Prop
  | status {status : ℕ} {body : Option Json} (hok : isOkStatus status = false)
      (hlt : status < 500) : DefiniteFailure (.answered status body)
  | reported {status : ℕ} {payload error : JsonObject}
      (herror : payload.get? "error" = some (.obj error)) :
      DefiniteFailure (.answered status (some (.obj payload)))

/-- The envelope reports an error that is not an object. -/
inductive OddError : FetchOutcome → Prop
  | mk {status : ℕ} {payload : JsonObject} {error : Json} (hok : isOkStatus status = true)
      (herror : payload.get? "error" = some error) (hnull : error ≠ .null)
      (hobj : ∀ members, error ≠ .obj members) :
      OddError (.answered status (some (.obj payload)))

/-- The result in the envelope of an answer. -/
inductive FoundResult (result : Json) : FetchOutcome → Prop
  | mk {status : ℕ} {payload : JsonObject} (hresult : payload.get? "result" = some result) :
      FoundResult result (.answered status (some (.obj payload)))

/-- How `call` ends for a write. -/
inductive WriteRead (outcome : FetchOutcome) : Except VerusIntegrationError Json → Prop
  | ambiguous : WriteRead outcome (.error ambiguousWrite)
  | status {status : ℕ} (hfailure : DefiniteFailure outcome) :
      WriteRead outcome (.error (rpcHttpError status))
  | reported {code : Option Json} (hfailure : DefiniteFailure outcome) :
      WriteRead outcome (.error (rpcMethodError code))
  | odd (hodd : OddError outcome) : WriteRead outcome (.error (invalidResult "JSON-RPC error"))
  | result {result : Json} (hresult : FoundResult result outcome) :
      WriteRead outcome (.ok result)

theorem readResult_write {status : ℕ} {payload : JsonObject} (hok : isOkStatus status = true) :
    WriteRead (.answered status (some (.obj payload))) (readResult payload true) := by
  have hresult : WriteRead (.answered status (some (.obj payload)))
      (match payload.get? "result" with
        | some result => .ok result
        | none => .error ambiguousWrite) := by
    cases h : payload.get? "result" with
    | none => exact .ambiguous
    | some result => exact .result (.mk h)
  unfold readResult
  cases herror : payload.get? "error" with
  | none => exact hresult
  | some error =>
    cases error with
    | null => exact hresult
    | obj members => exact .reported (.reported herror)
    | bool _ => exact .odd (.mk hok herror nofun nofun)
    | num _ => exact .odd (.mk hok herror nofun nofun)
    | str _ => exact .odd (.mk hok herror nofun nofun)
    | arr _ => exact .odd (.mk hok herror nofun nofun)

theorem readOutcome_of_ok {status : ℕ} {body : Option Json} {write : Bool}
    (hok : isOkStatus status = true) :
    readOutcome (.answered status body) write =
      (readEnvelope body write >>= fun payload => readResult payload write) := by
  simp [readOutcome, hok]

theorem readOutcome_of_not_ok {status : ℕ} {body : Option Json} {write : Bool}
    (hok : isOkStatus status = false) :
    readOutcome (.answered status body) write =
      .error (if write && 500 ≤ status then ambiguousWrite else rpcHttpError status) := by
  simp [readOutcome, hok]

theorem readOutcome_write (outcome : FetchOutcome) :
    WriteRead outcome (readOutcome outcome true) := by
  cases outcome with
  | rejected timedOut => exact .ambiguous
  | answered status body =>
    cases hok : isOkStatus status with
    | false =>
      rw [readOutcome_of_not_ok hok]
      by_cases hserver : 500 ≤ status
      · simpa [hserver] using WriteRead.ambiguous
      · simpa [hserver] using WriteRead.status (.status hok (not_le.1 hserver))
    | true =>
      rw [readOutcome_of_ok hok]
      cases body with
      | none => exact .ambiguous
      | some value =>
        cases value with
        | obj payload => exact readResult_write hok
        | null => exact .ambiguous
        | bool _ => exact .ambiguous
        | num _ => exact .ambiguous
        | str _ => exact .ambiguous
        | arr _ => exact .ambiguous

/-- An error that is no object is taken for a definite failure. -/
theorem OddError.readOutcome_eq {outcome : FetchOutcome} (h : OddError outcome) :
    readOutcome outcome true = .error (invalidResult "JSON-RPC error") := by
  obtain @⟨status, payload, error, hok, herror, hnull, hobj⟩ := h
  rw [readOutcome_of_ok hok]
  have henvelope : readEnvelope (some (.obj payload)) true = .ok payload := rfl
  rw [henvelope]
  change readResult payload true = _
  unfold readResult
  rw [herror]
  cases error with
  | null => exact absurd rfl hnull
  | obj members => exact absurd rfl (hobj members)
  | bool _ => rfl
  | num _ => rfl
  | str _ => rfl
  | arr _ => rfl

theorem OddError.not_definite {outcome : FetchOutcome} (h : OddError outcome) :
    ¬ DefiniteFailure outcome := by
  obtain ⟨hok, herror, hnull, hobj⟩ := h
  rintro (⟨hnotOk, -⟩ | ⟨hreported⟩)
  · rw [hok] at hnotOk
    cases hnotOk
  · rw [herror] at hreported
    exact hobj _ (Option.some.inj hreported)

/-- The transaction is the one that the envelope names, and an error says truly whether the write may
have happened. -/
def WriteClassified (outcome : FetchOutcome) : Except VerusIntegrationError TransactionId → Prop
  | .ok id => ∃ text, FoundResult (.str text) outcome ∧ isHex64IgnoringCase text = true ∧
      id.1 = text.toLower
  | .error error => (error.submissionAmbiguous = false → DefiniteFailure outcome) ∧
      (¬ DefiniteFailure outcome ∨ error.submissionAmbiguous = true →
        error.retryable = true ∧ error.submissionAmbiguous = true)

variable {outcome : FetchOutcome}

/-- An error that leaves the write open is the right one for any outcome. -/
theorem classified_of_ambiguous {error : VerusIntegrationError} (hretryable : error.retryable = true)
    (hambiguous : error.submissionAmbiguous = true) : WriteClassified outcome (.error error) := by
  refine ⟨fun h => ?_, fun _ => ⟨hretryable, hambiguous⟩⟩
  rw [hambiguous] at h
  cases h

theorem classified_of_definite {error : VerusIntegrationError} (h : DefiniteFailure outcome)
    (hambiguous : error.submissionAmbiguous = false) : WriteClassified outcome (.error error) := by
  refine ⟨fun _ => h, fun hor => ?_⟩
  have htrue := hor.resolve_left (not_not.2 h)
  rw [hambiguous] at htrue
  cases htrue

theorem readTransactionId_classified {result : Json} (h : FoundResult result outcome) :
    WriteClassified outcome (readTransactionId result) := by
  cases result with
  | str text =>
    dsimp only [readTransactionId]
    split_ifs with hhex
    · exact ⟨text, h, hhex, rfl⟩
    · exact classified_of_ambiguous rfl rfl
  | null => exact classified_of_ambiguous rfl rfl
  | bool _ => exact classified_of_ambiguous rfl rfl
  | num _ => exact classified_of_ambiguous rfl rfl
  | arr _ => exact classified_of_ambiguous rfl rfl
  | obj _ => exact classified_of_ambiguous rfl rfl

/-- A write is classified rightly except where the envelope reports an error that is no object. -/
theorem updateIdentity_classified_iff (options : HttpVerusRpcAdapterOptions)
    (fetch : FetchRequest → FetchOutcome) (nextId : ℕ) (request : PreparedIdentityUpdate) :
    WriteClassified
        (fetch (options.request nextId .updateidentity (updateParams request) true))
        (options.updateIdentity fetch nextId request) ↔
      ¬ OddError (fetch (options.request nextId .updateidentity (updateParams request) true)) := by
  unfold HttpVerusRpcAdapterOptions.updateIdentity HttpVerusRpcAdapterOptions.call
  generalize fetch (options.request nextId .updateidentity (updateParams request) true) = outcome
  constructor
  · intro hclassified hodd
    rw [hodd.readOutcome_eq] at hclassified
    exact hodd.not_definite (hclassified.1 rfl)
  · intro hodd
    have hread := readOutcome_write outcome
    cases h : readOutcome outcome true with
    | ok result =>
      rw [h] at hread
      obtain - | - | - | - | hresult := hread
      exact readTransactionId_classified hresult
    | error error =>
      rw [h] at hread
      cases hread with
      | ambiguous => exact classified_of_ambiguous rfl rfl
      | status hfailure => exact classified_of_definite hfailure rfl
      | reported hfailure => exact classified_of_definite hfailure rfl
      | odd hfound => exact absurd hfound hodd

/-- An answer whose error is a text, as a proxy may write it. -/
def textErrorAnswer : FetchOutcome :=
  .answered 200 (some (.obj [("result", .null), ("error", .str "timed out")]))

/-- The write is given up as if it had not happened. -/
theorem textError_misclassified :
    ¬ WriteClassified textErrorAnswer
      (HttpVerusRpcAdapterOptions.updateIdentity {} (fun _ => textErrorAnswer) 1
        IdentitySample.update) := by
  rintro ⟨hdefinite, -⟩
  obtain ⟨hok, -⟩ | ⟨herror⟩ := hdefinite rfl
  · cases hok
  · cases herror

end ChecksAndBalances
