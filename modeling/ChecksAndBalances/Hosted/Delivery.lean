import ChecksAndBalances.Hosted.OneIdentity
import ChecksAndBalances.Hosted.Token

/-!
# Delivery

The callback signs a token, the result route answers with it, and the client reads the answer.  The
client accepts every token of the callback, for its own challenge and from the time it was signed to
the time it expires.
-/

namespace ChecksAndBalances

open Lib Lib.Tx Threads

/-! ## Characters of tokens and addresses -/

/-- The character is printed as it is, by `JSON` and in one byte. -/
structure Plain (c : Char) : Prop where
  escape : Json.escapeChar c = [c]
  size : c.utf8Size = 1
  control : (c.toNat ≤ 0x1f || c.toNat = 0x7f) = false

theorem plain_of_isUrlChar {c : Char} (h : Base64.isUrlChar c = true) : Plain c := by
  have hascii : ∀ n < 128, Base64.isUrlChar (Char.ofNat n) = true →
      Json.escapeChar (Char.ofNat n) = [Char.ofNat n] ∧ (Char.ofNat n).utf8Size = 1 ∧
        ((Char.ofNat n).toNat ≤ 0x1f || (Char.ofNat n).toNat = 0x7f) = false := by
    decide
  have hlow : c.toNat < 128 := by
    simp only [Base64.isUrlChar, Bool.or_eq_true, Bool.and_eq_true, decide_eq_true_eq,
      beq_iff_eq] at h
    rcases h with (((h | h) | h) | rfl) | rfl
    · exact lt_of_le_of_lt h.2 (by decide)
    · exact lt_of_le_of_lt h.2 (by decide)
    · exact lt_of_le_of_lt h.2 (by decide)
    · decide
    · decide
  rw [← Char.ofNat_toNat c] at h ⊢
  obtain ⟨hescape, hsize, hcontrol⟩ := hascii _ hlow h
  exact ⟨hescape, hsize, hcontrol⟩

theorem plain_dot : Plain '.' where
  escape := by decide
  size := by decide
  control := by decide

theorem isUrlChar_of_isBase58 {c : Char} (h : isBase58 c = true) : Base64.isUrlChar c = true := by
  simp only [isBase58, isUpper, isLower, Bool.or_eq_true, Bool.and_eq_true, decide_eq_true_eq] at h
  rcases h with (h | h) | h
  · have hdigit : '0' ≤ c := Char.le_trans (by decide) h.1
    simp [Base64.isUrlChar, hdigit, h.2]
  · simp [Base64.isUrlChar, h.1.1.1, h.1.1.2]
  · simp [Base64.isUrlChar, h.1.1, h.1.2]

theorem digit_of_mem_toString {n : ℕ} {c : Char} (h : c ∈ (toString n).toList) :
    '0' ≤ c ∧ c ≤ '9' := by
  rw [Nat.toString_eq_ofList_toDigits, String.toList_ofList] at h
  have hdigit := Nat.isDigit_of_mem_toDigits (by decide) (by decide) h
  simp only [Char.isDigit, Bool.and_eq_true, decide_eq_true_eq] at hdigit
  exact hdigit

/-- An address is short and plain. -/
theorem plain_of_iaddressPattern {address : String} (h : iaddressPattern address = true) :
    address ≠ "" ∧ address.toList.length ≤ 35 ∧ ∀ c ∈ address.toList, Plain c := by
  unfold iaddressPattern matchesCode at h
  split at h
  · cases h
  · next first rest hchars =>
    simp only [Bool.and_eq_true, decide_eq_true_eq, List.all_eq_true, beq_iff_eq] at h
    obtain ⟨⟨⟨rfl, -⟩, hlength⟩, hrest⟩ := h
    refine ⟨?_, ?_, ?_⟩
    · rintro rfl
      cases hchars
    · rw [hchars, List.length_cons]
      omega
    · rw [hchars, List.forall_mem_cons]
      exact ⟨plain_of_isUrlChar (by decide), fun c hc =>
        plain_of_isUrlChar (isUrlChar_of_isBase58 (hrest c hc))⟩

/-- A token is plain. -/
theorem plain_of_mem_compactToken [ServiceHost] {secret : String} {header claims : JsonObject} :
    ∀ c ∈ (compactToken secret header claims).toList, Plain c := by
  intro c hc
  simp only [compactToken, signingInput, encodedObject, String.toList_ofList, List.mem_append,
    List.mem_cons] at hc
  rcases hc with (hc | rfl | hc) | rfl | hc
  · exact plain_of_isUrlChar (Base64.isUrlChar_of_mem_encode c hc)
  · exact plain_dot
  · exact plain_of_isUrlChar (Base64.isUrlChar_of_mem_encode c hc)
  · exact plain_dot
  · exact plain_of_isUrlChar (Base64.isUrlChar_of_mem_encode c hc)

theorem compactToken_ne_empty [ServiceHost] (secret : String) (header claims : JsonObject) :
    compactToken secret header claims ≠ "" := by
  intro hempty
  have hchars := congrArg String.toList hempty
  rw [compactToken, String.toList_ofList] at hchars
  exact List.append_ne_nil_of_right_ne_nil _ (List.cons_ne_nil _ _) hchars

/-- There are no control characters in a plain text. -/
theorem hasControlCharacter_of_plain {s : String} (h : ∀ c ∈ s.toList, Plain c) :
    hasControlCharacter s = false := by
  rw [hasControlCharacter, List.any_eq_false]
  intro c hc
  rw [(h c hc).control]
  exact Bool.false_ne_true

/-! ## The size of a text in JSON -/

namespace Json

theorem length_encodeUtf8_ofList (cs : List Char) :
    (encodeUtf8 (String.ofList cs)).length = (cs.map Char.utf8Size).sum := by
  rw [encodeUtf8_eq_flatMap, String.toList_ofList, List.length_flatMap]
  congr 1
  exact List.map_congr_left fun c _ => String.length_utf8EncodeChar c

theorem length_encodeUtf8_quote (s : String) : (encodeUtf8 (quote s)).length =
    ((s.toList.flatMap escapeChar).map Char.utf8Size).sum + 2 := by
  have hquote : Char.utf8Size '"' = 1 := by decide
  rw [quote, length_encodeUtf8_ofList, List.cons_append, List.map_cons, List.sum_cons,
    List.map_append, List.sum_append, List.map_singleton, List.sum_singleton, hquote]
  omega

theorem size_escapeChar_le (c : Char) :
    ((escapeChar c).map Char.utf8Size).sum ≤ 6 * c.utf8Size := by
  have hpos := c.utf8Size_pos
  have hletter : ∀ e ∈ [(8, 'b'), (9, 't'), (10, 'n'), (12, 'f'), (13, 'r')],
      (['\\', e.2].map Char.utf8Size).sum = 2 := by
    decide
  have hdigit : ∀ n < 16, (hexDigit n).utf8Size = 1 := by decide
  refine escapeChar_cases (P := fun cs => (cs.map Char.utf8Size).sum ≤ 6 * c.utf8Size) c
    ?_ ?_ ?_ ?_ ?_
  · intro _
    exact Nat.le_trans (by decide) (Nat.mul_le_mul_left 6 hpos)
  · intro _
    exact Nat.le_trans (by decide) (Nat.mul_le_mul_left 6 hpos)
  · intro e he _
    rw [hletter e he]
    omega
  · intro hlow
    have hunicode : (['\\', 'u', '0', '0'].map Char.utf8Size).sum = 4 := by decide
    simp only [List.map_cons, List.map_nil, List.sum_cons, List.sum_nil] at hunicode ⊢
    rw [hdigit (c.toNat / 16) (by omega), hdigit (c.toNat % 16) (by omega)]
    omega
  · intro _ _ _
    rw [List.map_singleton, List.sum_singleton]
    omega

variable [Host]

/-- A text is at most six times as long in JSON. -/
theorem byteLength_str_le (s : String) : (str s).byteLength ≤ 6 * (encodeUtf8 s).length + 2 := by
  have hsum : ∀ cs : List Char, ((cs.flatMap escapeChar).map Char.utf8Size).sum ≤
      6 * (cs.map Char.utf8Size).sum := by
    intro cs
    induction cs with
    | nil => simp
    | cons c cs ih =>
      have hc := size_escapeChar_le c
      rw [List.flatMap_cons, List.map_append, List.sum_append, List.map_cons, List.sum_cons]
      omega
  have hlength := length_encodeUtf8_ofList s.toList
  rw [String.ofList_toList] at hlength
  rw [byteLength, stringify, length_encodeUtf8_quote, hlength]
  exact Nat.add_le_add_right (hsum s.toList) 2

omit [Host] in
/-- A plain text takes one byte for each character. -/
theorem length_encodeUtf8_of_plain {s : String} (h : ∀ c ∈ s.toList, Plain c) :
    (encodeUtf8 s).length = s.toList.length := by
  have hlength := length_encodeUtf8_ofList s.toList
  rw [String.ofList_toList, List.map_congr_left fun c hc => (h c hc).size] at hlength
  simpa using hlength

/-- A plain text only gets its quotes. -/
theorem byteLength_str_of_plain {s : String} (h : ∀ c ∈ s.toList, Plain c) :
    (str s).byteLength = (encodeUtf8 s).length + 2 := by
  have hlength := length_encodeUtf8_ofList s.toList
  rw [String.ofList_toList] at hlength
  have hplain : s.toList.flatMap escapeChar = s.toList := by
    rw [List.flatMap_congr fun c hc => (h c hc).escape, List.flatMap_singleton']
  rw [byteLength, stringify, length_encodeUtf8_quote, hlength, hplain]

end Json

/-- A token is a third longer than its header and its claims. -/
theorem length_compactToken_le [ServiceHost] (secret : String) (header claims : JsonObject) :
    3 * (encodeUtf8 (compactToken secret header claims)).length ≤
      4 * ((Json.obj header).byteLength + (Json.obj claims).byteLength) + 140 := by
  have hheader := Base64.length_encode_le (encodeUtf8 (Json.obj header).stringify)
  have hclaims := Base64.length_encode_le (encodeUtf8 (Json.obj claims).stringify)
  have hsignature := Base64.length_encode_le (signature secret header claims)
  rw [signature, Sha256.length_hmacBytes] at hsignature
  rw [Json.length_encodeUtf8_of_plain plain_of_mem_compactToken]
  simp only [compactToken, signingInput, encodedObject, signature, String.toList_ofList,
    List.length_append, List.length_cons, Json.byteLength] at hsignature ⊢
  omega

/-! ## The answer of the result route -/

section Answer

variable [ServiceHost] {secret jwt iaddress : String} {name : Option String}
  {header claims : JsonObject}

/-- The members of an answer with a result. -/
def resultMembers (jwt iaddress : String) (name : Option String) : JsonObject :=
  [("success", .bool true), ("JWT", .str jwt), ("iaddress", .str iaddress)] ++
    (name.map fun name => ("name", .str name)).toList

theorem readsBack_resultMembers (jwt iaddress : String) (name : Option String) :
    (Json.obj (resultMembers jwt iaddress name)).ReadsBack := by
  cases name with
  | none =>
    have hkeys : (resultMembers jwt iaddress none).keys = ["success", "JWT", "iaddress"] := rfl
    refine Json.readsBack_obj (by rw [hkeys]; decide) (by rw [hkeys]; decide) ?_
    simp only [resultMembers, Option.map_none, Option.toList_none, List.append_nil,
      List.forall_mem_cons]
    exact ⟨Json.readsBack_bool true, Json.readsBack_str jwt, Json.readsBack_str iaddress, by simp⟩
  | some name =>
    have hkeys : (resultMembers jwt iaddress (some name)).keys =
      ["success", "JWT", "iaddress", "name"] := rfl
    refine Json.readsBack_obj (by rw [hkeys]; decide) (by rw [hkeys]; decide) ?_
    simp only [resultMembers, Option.map_some, Option.toList_some, List.cons_append,
      List.nil_append, List.forall_mem_cons]
    exact ⟨Json.readsBack_bool true, Json.readsBack_str jwt, Json.readsBack_str iaddress,
      Json.readsBack_str name, by simp⟩

/-- The client reads the members of an answer. -/
theorem readJson_http (hjwt : (Json.str jwt).byteLength ≤ maxTokenBytes + 2)
    (haddress : (encodeUtf8 iaddress).length ≤ 64)
    (hname : ∀ n, name = some n → (encodeUtf8 n).length ≤ 200) :
    readJson (ResultResponse.verified jwt iaddress name).http =
      .ok (resultMembers jwt iaddress name) := by
  have haddress := (Json.byteLength_str_le iaddress).trans
    (Nat.add_le_add_right (Nat.mul_le_mul_left 6 haddress) 2)
  have hbytes : (Json.obj (resultMembers jwt iaddress name)).byteLength ≤ maxJsonBytes := by
    have hkeys : (encodeUtf8 (Json.quote "success" ++ ":")).length = 10 ∧
        (encodeUtf8 (Json.quote "JWT" ++ ":")).length = 6 ∧
        (encodeUtf8 (Json.quote "iaddress" ++ ":")).length = 11 ∧
        (encodeUtf8 (Json.quote "name" ++ ":")).length = 7 := by decide
    have htrue : (Json.bool true).byteLength = 4 :=
      show (encodeUtf8 "true").length = 4 by decide
    obtain ⟨hsuccess, htoken, hidentity, hnamed⟩ := hkeys
    rw [Json.byteLength_obj]
    cases name with
    | none =>
      simp only [resultMembers, Option.map_none, Option.toList_none, List.append_nil, List.map_cons,
        List.map_nil, List.sum_cons, List.sum_nil, Json.memberLength, hsuccess, htoken, hidentity,
        htrue]
      simp only [maxTokenBytes, maxJsonBytes] at hjwt ⊢
      omega
    | some name =>
      have hname := (Json.byteLength_str_le name).trans
        (Nat.add_le_add_right (Nat.mul_le_mul_left 6 (hname name rfl)) 2)
      simp only [resultMembers, Option.map_some, Option.toList_some, List.cons_append,
        List.nil_append, List.map_cons, List.map_nil, List.sum_cons, List.sum_nil,
        Json.memberLength, hsuccess, htoken, hidentity, hnamed, htrue]
      simp only [maxTokenBytes, maxJsonBytes] at hjwt ⊢
      omega
  have htext : (ResultResponse.verified jwt iaddress name).http =
      { status := 200, contentLength := (Json.obj (resultMembers jwt iaddress name)).byteLength
        text := (Json.obj (resultMembers jwt iaddress name)).stringify } := rfl
  rw [htext, readJson, if_neg, (readsBack_resultMembers jwt iaddress name).parse_eq]
  simpa [Json.byteLength] using hbytes

end Answer

/-! ## Signed claims -/

section Signing

variable [ServiceHost] [TokenSigner]

/-- The header of a token. -/
def tokenHeader (options : SignOptions) : JsonObject :=
  [("alg", .str options.algorithm), ("typ", .str options.typ)]

/-- The claims that `jwt.sign` adds to a payload at a second. -/
def tokenClaims (payload : JsonObject) (options : SignOptions) (iat exp : ℕ) : JsonObject :=
  payload ++ [("iat", .num (.ofNat iat)), ("exp", .num (.ofNat exp)),
    ("aud", .str options.audience), ("iss", .str options.issuer), ("jti", .str options.jwtid)]

/-- What the delivery rests on: the documented behaviour of `jwt.sign`, of `JSON` on the positive
safe integers, and of `toISOString`, which takes no time after the year 275760. -/
structure HostedLaws : Prop where
  sign : ∀ payload secret options, ∀ now : ℤ, options.algorithm = "HS256" → 0 ≤ now →
    0 ≤ options.expiresIn → TokenSigner.sign payload secret options now =
      compactToken secret (tokenHeader options) (tokenClaims payload options (now / 1000).toNat
        (now / 1000 + options.expiresIn).toNat)
  numerals : ∀ n, 0 < n → n < 2 ^ 53 →
    Host.numberToString (.ofNat n) = toString n ∧ readNumber (toString n) = some (.ofNat n)
  dates : ∀ (ms : ℤ) text, toISOString ms = some text → ms ≤ 8640000000000000

namespace HostedLaws

/-- A safe integer is read back. -/
theorem readsBack_num (laws : HostedLaws) {n : ℕ} (hpos : 0 < n) (hsafe : n < 2 ^ 53) :
    (Json.num (.ofNat n)).ReadsBack := by
  obtain ⟨hprint, hread⟩ := laws.numerals n hpos hsafe
  have hzero := JsNumber.isZero_ofNat hsafe hpos
  refine ⟨Json.readsFront_num ?_ ?_ ?_, ?_⟩
  · rw [hprint]
    intro hempty
    have hchars := congrArg String.toList hempty
    rw [Nat.toString_eq_ofList_toDigits, String.toList_ofList] at hchars
    exact Nat.toDigits_ne_nil hchars
  · intro c hc
    rw [hprint] at hc
    rw [Json.isNumberChar, Bool.or_eq_true, Bool.and_eq_true, decide_eq_true_eq, decide_eq_true_eq]
    exact Or.inl (digit_of_mem_toString hc)
  · rw [hprint, hread, Json.oneZero, hzero, if_neg Bool.false_ne_true]
  · rw [Json.reread, hzero, if_neg Bool.false_ne_true]

/-- The header and the claims of a token are read back. -/
theorem readsBack_claims (laws : HostedLaws) (challenge : StoredChallenge)
    (identity : ActiveIdentity) (options : SignOptions) {iat exp : ℕ} (hiat : 0 < iat)
    (hlater : iat < exp) (hsafe : exp < 2 ^ 53) :
    (Json.obj (tokenHeader options)).ReadsBack ∧
      (Json.obj (tokenClaims (tokenPayload challenge identity) options iat exp)).ReadsBack := by
  have hheader : (tokenHeader options).keys = ["alg", "typ"] := rfl
  have hclaims : (tokenClaims (tokenPayload challenge identity) options iat exp).keys =
      ["challengeID", "state", "idLoggedIn", "iat", "exp", "aud", "iss", "jti"] := rfl
  constructor
  · refine Json.readsBack_obj (by rw [hheader]; decide) (by rw [hheader]; decide) ?_
    simp only [tokenHeader, List.forall_mem_cons]
    exact ⟨Json.readsBack_str _, Json.readsBack_str _, by simp⟩
  · refine Json.readsBack_obj (by rw [hclaims]; decide) (by rw [hclaims]; decide) ?_
    simp only [tokenClaims, tokenPayload, List.cons_append, List.nil_append, List.forall_mem_cons]
    exact ⟨Json.readsBack_str _, Json.readsBack_str _, Json.readsBack_str _,
      laws.readsBack_num hiat (hlater.trans hsafe), laws.readsBack_num (by omega) hsafe,
      Json.readsBack_str _, Json.readsBack_str _, Json.readsBack_str _, by simp⟩

/-- A safe integer takes at most 16 digits. -/
theorem byteLength_num_le (laws : HostedLaws) {n : ℕ} (hpos : 0 < n) (hsafe : n < 2 ^ 53) :
    (Json.num (.ofNat n)).byteLength ≤ 16 := by
  have hplain : ∀ c ∈ (toString n).toList, Plain c := by
    intro c hc
    have hdigit := digit_of_mem_toString hc
    exact plain_of_isUrlChar (by simp [Base64.isUrlChar, hdigit.1, hdigit.2])
  have hlength : (Nat.toDigits 10 n).length ≤ 16 :=
    (Nat.length_toDigits_le_iff (by decide) (by decide)).2 (by omega)
  rw [Json.byteLength, Json.stringify, (laws.numerals n hpos hsafe).1,
    Json.length_encodeUtf8_of_plain hplain, Nat.toString_eq_ofList_toDigits, String.toList_ofList]
  exact hlength

/-- A token of short texts is far below what the client takes. -/
theorem size_token (laws : HostedLaws) {config : HostedConfig} {challenge : StoredChallenge}
    {identity : ActiveIdentity} {current expiresIn : ℤ} {jwtid : String}
    (htexts : ∀ s ∈ [challenge.challengeID, challenge.state, identity.identityAddress,
      challenge.audience, config.jwtIssuer, jwtid], (encodeUtf8 s).length ≤ 64)
    (hcurrent : 1000 ≤ current) (hexpiresIn : 1 ≤ expiresIn)
    (hsafe : current / 1000 + expiresIn < 2 ^ 53) :
    (encodeUtf8 (TokenSigner.sign (tokenPayload challenge identity) config.jwtSecret
      (tokenOptions config challenge expiresIn jwtid) current)).length ≤ maxTokenBytes := by
  have hiat := laws.byteLength_num_le (n := (current / 1000).toNat) (by omega) (by omega)
  have hexp := laws.byteLength_num_le (n := (current / 1000 + expiresIn).toNat) (by omega)
    (by omega)
  have hkeys : (encodeUtf8 (Json.quote "alg" ++ ":")).length = 6 ∧
      (encodeUtf8 (Json.quote "typ" ++ ":")).length = 6 ∧
      (encodeUtf8 (Json.quote "challengeID" ++ ":")).length = 14 ∧
      (encodeUtf8 (Json.quote "state" ++ ":")).length = 8 ∧
      (encodeUtf8 (Json.quote "idLoggedIn" ++ ":")).length = 13 ∧
      (encodeUtf8 (Json.quote "iat" ++ ":")).length = 6 ∧
      (encodeUtf8 (Json.quote "exp" ++ ":")).length = 6 ∧
      (encodeUtf8 (Json.quote "aud" ++ ":")).length = 6 ∧
      (encodeUtf8 (Json.quote "iss" ++ ":")).length = 6 ∧
      (encodeUtf8 (Json.quote "jti" ++ ":")).length = 6 := by
    decide
  obtain ⟨halg, htyp, hid, hstate, haddress, hiatKey, hexpKey, haud, hiss, hjti⟩ := hkeys
  have htext {s : String} (hs : s ∈ [challenge.challengeID, challenge.state,
      identity.identityAddress, challenge.audience, config.jwtIssuer, jwtid]) :
      (Json.str s).byteLength ≤ 386 :=
    (Json.byteLength_str_le s).trans
      (Nat.add_le_add_right (Nat.mul_le_mul_left 6 (htexts s hs)) 2)
  have hchallengeID := htext (s := challenge.challengeID) (by simp)
  have hchallengeState := htext (s := challenge.state) (by simp)
  have hidentity := htext (s := identity.identityAddress) (by simp)
  have haudience := htext (s := challenge.audience) (by simp)
  have hissuer := htext (s := config.jwtIssuer) (by simp)
  have hjwtid := htext (s := jwtid) (by simp)
  have halgorithm : (Json.str "HS256").byteLength = 7 ∧ (Json.str "JWT").byteLength = 5 :=
    show (encodeUtf8 (Json.quote "HS256")).length = 7 ∧ (encodeUtf8 (Json.quote "JWT")).length = 5
      by decide
  have hlength := length_compactToken_le config.jwtSecret
    (tokenHeader (tokenOptions config challenge expiresIn jwtid))
    (tokenClaims (tokenPayload challenge identity) (tokenOptions config challenge expiresIn jwtid)
      (current / 1000).toNat (current / 1000 + expiresIn).toNat)
  rw [laws.sign _ _ _ _ rfl (by omega) (show 0 ≤ expiresIn by omega), maxTokenBytes]
  simp only [Json.byteLength_obj, tokenHeader, tokenClaims, tokenPayload, tokenOptions,
    List.cons_append, List.nil_append, List.map_cons, List.map_nil, List.sum_cons, List.sum_nil,
    Json.memberLength, halg, htyp, hid, hstate, haddress, hiatKey, hexpKey, haud, hiss, hjti,
    halgorithm.1, halgorithm.2] at hlength ⊢
  omega

end HostedLaws

/-! ## What the client accepts -/

/-- The times of a token fit the request and the clock of the client, which may be a minute late. -/
def GetHostedResultInput.Fits (input : GetHostedResultInput) (iat exp : ℤ) : Prop :=
  input.issuedAt / 1000 ≤ iat + 60 ∧ iat ≤ input.now / 1000 + 60 ∧ input.now / 1000 < exp ∧
    exp ≤ input.expiresAt / 1000 + 60

instance (input : GetHostedResultInput) (iat exp : ℤ) : Decidable (input.Fits iat exp) :=
  inferInstanceAs (Decidable (_ ∧ _ ∧ _ ∧ _))

/-- The client asks for the result of this challenge, with the issuer and the secret of the
service. -/
structure AsksFor (config : HostedConfig) (challenge : StoredChallenge)
    (client : HostedAuthClientConfig) (input : GetHostedResultInput) : Prop where
  issuer : client.issuer = config.jwtIssuer
  secret : client.jwtSecret = config.jwtSecret
  pattern : iaddressPattern challenge.challengeID = true
  challengeId : input.challengeId = challenge.challengeID
  state : input.state = challenge.state
  audience : input.audience = challenge.audience

omit [ServiceHost] [TokenSigner] in
theorem integerValue_ofNat {source : JsonObject} {key : String} {n : ℕ}
    (hget : source.get? key = some (.num (.ofNat n))) (hpos : 0 < n) (hsafe : n < 2 ^ 53) :
    integerValue source key = .ok n := by
  rw [integerValue, hget]
  simp only [JsNumber.isSafeInteger_ofNat hsafe hpos, JsNumber.toInt_ofNat hsafe hpos]
  rw [if_neg (by simp; omega)]

omit [ServiceHost] [TokenSigner] in
theorem stringValue_eq {source : JsonObject} {key value : String} {maxLength : ℕ}
    (hget : source.get? key = some (.str value)) (hne : value ≠ "")
    (hlength : (encodeUtf8 value).length ≤ maxLength)
    (hcontrol : hasControlCharacter value = false) :
    stringValue source key maxLength = .ok value := by
  rw [stringValue, hget]
  simp only
  rw [if_neg (by simp [hne, hlength, hcontrol])]

omit [ServiceHost] [TokenSigner] in
/-- A name that the service keeps is one that the client takes. -/
theorem safeDisplayName_eq_some {value : Option String} {name : String}
    (h : safeDisplayName value = some name) :
    name ≠ "" ∧ (encodeUtf8 name).length ≤ 200 ∧ hasControlCharacter name = false := by
  obtain ⟨-, hsafe⟩ := Option.filter_eq_some_iff.1 h
  simp only [Bool.and_eq_true, decide_eq_true_eq, List.all_eq_true, Bool.not_eq_true'] at hsafe
  refine ⟨hsafe.1.1, hsafe.1.2, ?_⟩
  rw [hasControlCharacter, List.any_eq_false]
  intro c hc
  rw [hsafe.2 c hc]
  exact Bool.false_ne_true

omit [ServiceHost] [TokenSigner] in
theorem filter_safeDisplayName (value : Option String) :
    (safeDisplayName value).filter (fun name => name ≠ "") = safeDisplayName value := by
  cases h : safeDisplayName value with
  | none => rfl
  | some name =>
    rw [Option.filter_some, if_pos (decide_eq_true (safeDisplayName_eq_some h).1)]

omit [ServiceHost] [TokenSigner] in
theorem optionalStringValue_name (jwt iaddress : String) (value : Option String) :
    optionalStringValue (resultMembers jwt iaddress (safeDisplayName value)) "name" 200 =
      .ok (safeDisplayName value) := by
  cases h : safeDisplayName value with
  | none => rfl
  | some name =>
    obtain ⟨hne, hlength, hcontrol⟩ := safeDisplayName_eq_some h
    have hget : (resultMembers jwt iaddress (some name)).get? "name" = some (.str name) := rfl
    rw [optionalStringValue, hget]
    simp only [stringValue_eq hget hne hlength hcontrol]
    rfl

variable {config : HostedConfig} {challenge : StoredChallenge} {identity : ActiveIdentity}
  {client : HostedAuthClientConfig} {input : GetHostedResultInput}

omit [ServiceHost] [TokenSigner] in
/-- The claims of a callback name what the client expects. -/
theorem accepts_claims (hasks : AsksFor config challenge client input)
    (hidentity : iaddressPattern identity.identityAddress = true) {expiresIn : ℤ} {jwtid : String}
    {iat exp : ℕ} (hlater : iat < exp) :
    ExpectedJwt.accepts
      { issuer := client.issuer
        audience := input.audience
        challengeId := input.challengeId
        state := input.state
        identityAddress := identity.identityAddress
        issuedAt := input.issuedAt
        expiresAt := input.expiresAt
        now := input.now }
      (tokenClaims (tokenPayload challenge identity)
        (tokenOptions config challenge expiresIn jwtid) iat exp) iat exp =
      decide (16 ≤ (utf16 jwtid).length ∧ input.Fits iat exp) := by
  have hlookups : ∀ key value, (tokenClaims (tokenPayload challenge identity)
      (tokenOptions config challenge expiresIn jwtid) iat exp).get? key = some (.str value) →
      (Json.obj (tokenClaims (tokenPayload challenge identity)
        (tokenOptions config challenge expiresIn jwtid) iat exp)).text? key = some value := by
    intro key value hget
    rw [Json.text?, hget]
  have hexp : ¬ (exp : ℤ) ≤ iat := by omega
  simp only [ExpectedJwt.accepts, hlookups "iss" config.jwtIssuer rfl,
    hlookups "aud" challenge.audience rfl, hlookups "challengeID" challenge.challengeID rfl,
    hlookups "state" challenge.state rfl, hlookups "idLoggedIn" identity.identityAddress rfl,
    hlookups "jti" jwtid rfl, hasks.issuer, hasks.audience, hasks.challengeId, hasks.state,
    hidentity,
    Option.any_some]
  rw [Bool.eq_iff_iff, decide_eq_true_iff, GetHostedResultInput.Fits]
  simp only [decide_true, Bool.true_and, Bool.and_true, Bool.and_eq_true, Bool.not_eq_true',
    decide_eq_true_iff, decide_eq_false_iff_not]
  omega

/-- The client reads the result of a callback, and accepts it as long as its times fit. -/
theorem getResult_issued (laws : HostedLaws) (hasks : AsksFor config challenge client input)
    (hidentity : iaddressPattern identity.identityAddress = true) {current expiresIn : ℤ}
    (hcurrent : 1000 ≤ current) (hexpiresIn : 1 ≤ expiresIn)
    (hsafe : current / 1000 + expiresIn < 2 ^ 53) {jwtid expiresAt token : String}
    (htoken : token = TokenSigner.sign (tokenPayload challenge identity) config.jwtSecret
      (tokenOptions config challenge expiresIn jwtid) current)
    (hsize : (encodeUtf8 token).length ≤ maxTokenBytes) :
    client.getResult (some (tokenResult token identity expiresAt).response.http) input =
      if 16 ≤ (utf16 jwtid).length ∧ input.Fits (current / 1000) (current / 1000 + expiresIn) then
        .ok (.verified identity.identityAddress (safeDisplayName identity.displayName)
          (sha256 token) (current / 1000 * 1000) ((current / 1000 + expiresIn) * 1000))
      else .error .invalidToken := by
  obtain ⟨iat, hiat⟩ := Int.eq_ofNat_of_zero_le (show 0 ≤ current / 1000 by omega)
  obtain ⟨exp, hexp⟩ := Int.eq_ofNat_of_zero_le (show 0 ≤ current / 1000 + expiresIn by omega)
  have hclaims : token = compactToken config.jwtSecret
      (tokenHeader (tokenOptions config challenge expiresIn jwtid))
      (tokenClaims (tokenPayload challenge identity)
        (tokenOptions config challenge expiresIn jwtid) iat exp) := by
    have hnow : (current / 1000).toNat = iat := by omega
    have hend : (current / 1000 + (tokenOptions config challenge expiresIn jwtid).expiresIn).toNat =
        exp := by
      show (current / 1000 + expiresIn).toNat = exp
      omega
    rw [htoken, laws.sign _ _ _ _ rfl (by omega) (show 0 ≤ expiresIn by omega), hnow, hend]
  have hlater : iat < exp := by omega
  have hexpsafe : exp < 2 ^ 53 := by omega
  obtain ⟨hheaderback, hclaimsback⟩ := laws.readsBack_claims challenge identity
    (tokenOptions config challenge expiresIn jwtid) (show 0 < iat by omega) hlater hexpsafe
  have hverify : ∀ expected, verifyJwt (compactToken config.jwtSecret _ _) config.jwtSecret expected
      = if expected.accepts _ iat exp = false then .error .invalidToken else .ok (iat, exp) :=
    verifyJwt_compactToken hheaderback hclaimsback rfl rfl
      (integerValue_ofNat (n := iat) rfl (by omega) (by omega))
      (integerValue_ofNat (n := exp) rfl (by omega) hexpsafe)
  have hplain : ∀ c ∈ token.toList, Plain c := by
    rw [hclaims]
    exact plain_of_mem_compactToken
  obtain ⟨haddressne, haddresslength, haddressplain⟩ := plain_of_iaddressPattern hidentity
  have haddress : (encodeUtf8 identity.identityAddress).length ≤ 64 := by
    rw [Json.length_encodeUtf8_of_plain haddressplain]
    omega
  have hjwt : (Json.str token).byteLength ≤ maxTokenBytes + 2 := by
    rw [Json.byteLength_str_of_plain hplain]
    exact Nat.add_le_add_right hsize 2
  have hname : ∀ name, safeDisplayName identity.displayName = some name →
      (encodeUtf8 name).length ≤ 200 :=
    fun name hname => (safeDisplayName_eq_some hname).2.1
  have hread := readJson_http hjwt haddress hname
  have hresponse : (tokenResult token identity expiresAt).response =
      .verified token identity.identityAddress (safeDisplayName identity.displayName) :=
    congrArg _ (filter_safeDisplayName identity.displayName)
  have hsuccess : (resultMembers token identity.identityAddress
      (safeDisplayName identity.displayName)).get? "success" = some (.bool true) := rfl
  have htokenvalue : stringValue (resultMembers token identity.identityAddress
      (safeDisplayName identity.displayName)) "JWT" maxTokenBytes = .ok token := by
    refine stringValue_eq rfl ?_ hsize (hasControlCharacter_of_plain hplain)
    rw [hclaims]
    exact compactToken_ne_empty _ _ _
  have haddressvalue : stringValue (resultMembers token identity.identityAddress
      (safeDisplayName identity.displayName)) "iaddress" 64 = .ok identity.identityAddress :=
    stringValue_eq rfl haddressne haddress (hasControlCharacter_of_plain haddressplain)
  have hstatus : (ResultResponse.verified token identity.identityAddress
      (safeDisplayName identity.displayName)).http.status = 200 := rfl
  rw [HostedAuthClientConfig.getResult, if_neg (by simp [hasks.challengeId, hasks.pattern]),
    hresponse]
  simp only [Bind.bind, Except.bind, hread, hsuccess, htokenvalue, haddressvalue, hstatus]
  rw [if_neg (by decide), if_neg (by decide), hasks.secret]
  simp only [optionalStringValue_name, filter_safeDisplayName]
  rw [congrArg (fun t => verifyJwt t config.jwtSecret _) hclaims, hverify,
    accepts_claims hasks hidentity hlater, ← hiat, ← hexp]
  by_cases haccepted : 16 ≤ (utf16 jwtid).length ∧
      input.Fits (current / 1000) (current / 1000 + expiresIn)
  · rw [if_pos haccepted, if_neg (by simp [haccepted])]
  · rw [if_neg haccepted, if_pos (by simp [haccepted])]

end Signing

/-! ## Runs -/

section Runs

variable [ServiceHost] [TokenSigner] {W : Type} [DecidableEq W] {config : HostedConfig}
  {s₀ s : HostedSystem W}

end Runs

/-! ## A wallet and a client -/

namespace DeliverySample

/-- The host functions on the sample times; numerals are decimal. -/
scoped instance host : ServiceHost where
  nfc s := s
  numberToString n := toString n.toInt.toNat
  jsonParse _ := none
  readNumber text := some (.ofNat (Nat.ofDigitChars 10 text.toList 0))
  dateParse text := (HostedSample.times.find? fun t => t.2 = text).map Prod.fst
  toISOString ms := (HostedSample.times.find? fun t => t.1 = ms).map Prod.snd

scoped instance signer : TokenSigner where
  sign payload secret options now :=
    compactToken secret (tokenHeader options) (tokenClaims payload options (now / 1000).toNat
      (now / 1000 + options.expiresIn).toNat)

theorem dateParse_times {t : ℤ × String} (h : t ∈ HostedSample.times) :
    dateParse t.2 = some t.1 :=
  congrArg (Option.map Prod.fst) (HostedSample.find_times t h).1

theorem toISOString_times {t : ℤ × String} (h : t ∈ HostedSample.times) :
    toISOString t.1 = some t.2 :=
  congrArg (Option.map Prod.snd) (HostedSample.find_times t h).2

theorem laws : HostedLaws where
  sign _ _ _ _ _ _ _ := rfl
  numerals n hpos hsafe := by
    constructor
    · show toString (JsNumber.ofNat n).toInt.toNat = toString n
      rw [JsNumber.toInt_ofNat hsafe hpos, Int.toNat_natCast]
    · show some (JsNumber.ofNat (Nat.ofDigitChars 10 (toString n).toList 0)) = _
      rw [Nat.toString_eq_ofList_toDigits, String.toList_ofList, Nat.ofDigitChars_ten_toDigits]
  dates ms text h := by
    obtain ⟨t, ht, -⟩ := Option.map_eq_some_iff.1 h
    have hbound : ∀ t ∈ HostedSample.times, t.1 ≤ 8640000000000000 := by decide
    have hms : t.1 = ms := by simpa using List.find?_some ht
    exact hms ▸ hbound t (List.mem_of_find?_eq_some ht)

/-- The address of the wallet. -/
def address : String := HostedSample.addresses.1

/-- What the wallet's callback signs. -/
def payload : JsonObject := tokenPayload HostedSample.challenge (HostedSample.active address)

/-- The options with which it signs. -/
def options : SignOptions :=
  tokenOptions HostedSample.config HostedSample.challenge 120 "3f0f6ad2-6f0e-4d55-9d3a-0c5f4e7b1a11"

/-- The token that it signs at 02:00. -/
def token : String :=
  TokenSigner.sign payload HostedSample.config.jwtSecret options 1786068000000

/-- Its result. -/
def result : StoredResult :=
  tokenResult token (HostedSample.active address) "2026-08-07T02:02:00.000Z"

/-- The challenge is in Redis at 02:00. -/
def start : HostedSystem ℕ where
  store :=
    { redis := Function.update (fun _ => none)
        (RedisStore.key "challenge" HostedSample.challenge.challengeID)
        (some (HostedSample.challenge.text, 1786068300000))
      clock := 1786068000000 }
  threads _ := none
  log := []

/-- The calls of the callback. -/
def trace : List HostedItem := [
  ⟨.verifyCallback (.obj []), some (HostedSample.verified address)⟩,
  ⟨.store (.getChallenge HostedSample.challenge.challengeID), some HostedSample.challenge⟩,
  ⟨.now, (1786068000000 : ℤ)⟩,
  ⟨.store (.getResult HostedSample.challenge.challengeID), none⟩, ⟨.now, (1786068000000 : ℤ)⟩,
  ⟨.randomUUID, "3f0f6ad2-6f0e-4d55-9d3a-0c5f4e7b1a11"⟩,
  ⟨.store (.putResult HostedSample.challenge.challengeID result), .stored⟩]

theorem time_mem : (1786068120000, "2026-08-07T02:02:00.000Z") ∈ HostedSample.times := by
  simp [HostedSample.times]

theorem address_pattern : iaddressPattern address = true := HostedSample.addresses_pattern.1

theorem trace_runs :
    (callback HostedSample.config (.obj [])).run.Runs trace (.ok ()) := by
  have hissued : dateParse HostedSample.challenge.issuedAt = some 1786068000000 :=
    dateParse_times (t := (1786068000000, _)) (.head _)
  have hexpiry : dateParse HostedSample.challenge.expiresAt = some 1786068300000 :=
    dateParse_times (t := (1786068300000, _)) (by simp [HostedSample.times, HostedSample.challenge])
  have hanswers : (HostedSample.verified address).answers HostedSample.config
      HostedSample.challenge = true := by
    simp [VerifiedCallback.answers, HostedSample.verified, address_pattern, hissued, hexpiry,
      isSafeInteger]
  exact HostedProgram.callback_runs rfl HostedSample.challengeID_pattern rfl
    (by simp [MemoryStore.expired, hexpiry]) hanswers rfl rfl
    (HostedSample.validateIdentityActive_chainIdentity address) hexpiry rfl (by decide)
    (toISOString_times time_mem) _

/-- The database after the callback. -/
def withResult : HostedStore :=
  { start.store with
    redis := Function.update start.store.redis
      (RedisStore.key "result" HostedSample.challenge.challengeID)
      (some (result.text, 1786068120000)) }

theorem result_start (id : String) : start.store.redis (RedisStore.key "result" id) = none := by
  simp [start, (RedisStore.challenge_ne_result _ _).symm]

theorem trace_answered :
    Answered HostedCall.exec (HostedSample.wallet address) trace start.store withResult := by
  have hshown : start.store.redis.get 1786068000000
      (RedisStore.key "challenge" HostedSample.challenge.challengeID) =
        some HostedSample.challenge.text := by
    simp [Expiring.get, Expiring.At, start, Option.filter_some]
  have hfree : start.store.redis.get 1786068000000
      (RedisStore.key "result" HostedSample.challenge.challengeID) = none := by
    rw [Expiring.get, Expiring.At, result_start]
    rfl
  have hvacant : RedisStore.Vacant 1786068000000 start.store.redis
      HostedSample.challenge.challengeID := by
    refine ⟨by rw [hshown]; rfl, ?_, hfree⟩
    simp [Expiring.get, Expiring.At, start, (RedisStore.challenge_ne_consumed _ _).symm]
  have hexpiry : dateParse result.expiresAt = some 1786068120000 := dateParse_times time_mem
  have hnow : Commits (do return (← get).clock : Tx HostedStore ChallengeStoreError ℤ) start.store
      1786068000000 start.store := rfl
  have hread : Commits (HostedStore.onRedis fun now => RedisStore.exec now
      (.getChallenge HostedSample.challenge.challengeID)) start.store (some HostedSample.challenge)
      start.store :=
    HostedStore.commits_onRedis.2 ⟨RedisStore.getChallenge_commits hshown, rfl⟩
  have hnone : Commits (HostedStore.onRedis fun now => RedisStore.exec now
      (.getResult HostedSample.challenge.challengeID)) start.store none start.store :=
    HostedStore.commits_onRedis.2 ⟨RedisStore.getResult_commits hfree, rfl⟩
  have hput : Commits (HostedStore.onRedis fun now => RedisStore.exec now
      (.putResult HostedSample.challenge.challengeID result)) start.store .stored withResult :=
    HostedStore.commits_onRedis.2 ⟨RedisStore.putResult_commits hvacant hexpiry (by decide), rfl⟩
  exact .cons_host rfl rfl (.cons_store rfl hread (.cons_store rfl hnow (.cons_store rfl hnone
    (.cons_store rfl hnow (.cons_host rfl rfl (.cons_store rfl hput (.nil _)))))))

theorem size_token : (encodeUtf8 token).length ≤ maxTokenBytes :=
  laws.size_token (by decide +kernel) (by decide) (by decide) (by decide)

/-- The wallet answers at 02:00, and the result is fetched. -/
theorem exists_fetched : ∃ s : HostedSystem ℕ,
    Reach (HostedSystem.step HostedSample.config) (fun _ act => HostedAct.Answers act) start s ∧
      ∃ e ∈ s.log, ∃ found : StoredResult, found.token = token ∧
        fetched e = some (HostedSample.challenge.challengeID, some found) := by
  have hcallback : ∀ body, HostedRequest.callback (.obj []) ≠ .challenge body := by rintro _ ⟨⟩
  obtain ⟨s₁, hreach₁, hs₁, hthreads₁, -⟩ := exists_reach_request (s := start) (w := 0) hcallback
    trace_runs rfl trace_answered
  have hresult : ∀ body, HostedRequest.result HostedSample.challenge.challengeID ≠
      .challenge body := by rintro _ ⟨⟩
  have hshown : s₁.store.redis.get s₁.store.clock
      (RedisStore.key "result" HostedSample.challenge.challengeID) = some result.text := by
    rw [hs₁]
    simp [Expiring.get, Expiring.At, withResult, start, Option.filter_some]
  have hanswered : Answered HostedCall.exec (HostedSample.wallet "")
      [⟨.store (.getResult HostedSample.challenge.challengeID), some result⟩] s₁.store s₁.store :=
    .cons_store rfl (HostedStore.commits_onRedis.2
      ⟨RedisStore.getResult_commits (o := some result) hshown, rfl⟩) (.nil _)
  obtain ⟨s₂, hreach₂, -, hthreads₂, -⟩ := exists_reach_request (s := s₁) (w := 1) hresult
    (HostedProgram.resultRoute_runs HostedSample.challengeID_pattern (some result))
    (by rw [hthreads₁]; rfl) hanswered
  have hreach := hreach₁.trans hreach₂
  refine ⟨s₂, hreach, ?_⟩
  have hanswered₂ : s₂.Answered 1 HostedSample.challenge.challengeID result.response :=
    ⟨_, by rw [hthreads₂, Function.update_self]; rfl⟩
  have hdelivers := delivers_of_reach ⟨fun _ => rfl, rfl⟩ result_start hreach
  obtain ⟨e, he, -, found, hfetched, hresponse⟩ := hdelivers.responses 1 _ _ hanswered₂
  cases found with
  | none => cases hresponse
  | some found =>
    injection hresponse with htoken
    exact ⟨e, he, found, htoken.symm, hfetched⟩

end DeliverySample

end ChecksAndBalances
