import ChecksAndBalances.Hosted.Client
import ChecksAndBalances.Verus.Numbers
import ChecksAndBalances.Verus.Published

/-!
# Tokens

The compact form of a signed token, and that the client reads what is signed in it.
-/

namespace ChecksAndBalances

open Lib

/-! ## Bytes of texts -/

theorem bufferChars_of_decodeUtf8 {bytes : List UInt8} {cs : List Char}
    (h : decodeUtf8 bytes = some cs) : bufferChars bytes = cs := by
  induction bytes using decodeUtf8.induct generalizing cs with
  | case1 => simpa [decodeUtf8, bufferChars, eq_comm] using h
  | case2 a rest hlow ih =>
    rw [decodeUtf8.eq_def] at h
    rw [bufferChars.eq_def]
    simp only [hlow, if_true, Option.map_eq_some_iff] at h ⊢
    obtain ⟨cs', h, rfl⟩ := h
    rw [ih h]
  | case4 a hhigh b rest htwo htail ih =>
    rw [decodeUtf8.eq_def] at h
    rw [bufferChars.eq_def]
    simp only [hhigh, htwo, htail, and_self, if_true, if_false, Option.map_eq_some_iff] at h ⊢
    obtain ⟨cs', h, rfl⟩ := h
    rw [ih h]
  | case7 a hhigh b htwo c rest hthree htail ih =>
    rw [Bool.and_eq_true] at htail
    rw [decodeUtf8.eq_def] at h
    rw [bufferChars.eq_def]
    simp only [hhigh, htwo, hthree, htail, and_self, Bool.and_self, if_true, if_false,
      Option.map_eq_some_iff] at h ⊢
    obtain ⟨cs', h, rfl⟩ := h
    rw [if_neg (by simp; omega), ih h]
    simp
  | case10 a hhigh b htwo c hthree d rest htail ih =>
    rw [decodeUtf8.eq_def] at h
    rw [bufferChars.eq_def]
    simp only [hhigh, htwo, hthree, htail, and_self, if_true, if_false,
      Option.map_eq_some_iff] at h ⊢
    obtain ⟨cs', h, rfl⟩ := h
    rw [if_neg (by simp; omega), if_neg (by simp), if_neg (by omega), ih h]
  | case3 a hhigh =>
    rw [decodeUtf8.eq_def] at h
    simp only [hhigh, if_false] at h
    cases h
  | case5 a hhigh b rest htwo htail =>
    rw [decodeUtf8.eq_def] at h
    simp only [hhigh, htwo, htail, and_self, if_true, if_false] at h
    cases h
  | case6 a hhigh b htwo =>
    rw [decodeUtf8.eq_def] at h
    simp only [hhigh, htwo, if_false] at h
    cases h
  | case8 a hhigh b htwo c rest hthree htail =>
    rw [decodeUtf8.eq_def] at h
    simp only [hhigh, htwo, hthree, htail, and_self, if_true, if_false] at h
    cases h
  | case9 a hhigh b htwo c hthree =>
    rw [decodeUtf8.eq_def] at h
    simp only [hhigh, htwo, hthree, if_false] at h
    cases h
  | case11 a hhigh b htwo c hthree d rest htail =>
    rw [decodeUtf8.eq_def] at h
    simp only [hhigh, htwo, hthree, if_false] at h
    rw [if_neg htail] at h
    cases h

/-- A text survives `Buffer`. -/
theorem bufferChars_encodeUtf8 (s : String) : bufferChars (encodeUtf8 s) = s.toList := by
  apply bufferChars_of_decodeUtf8
  rw [encodeUtf8_eq_flatMap, decodeUtf8_flatMap]

/-! ## Objects that are read as they were printed -/

namespace Json

section ReadsBack

variable [ServiceHost]

/-- `JSON.parse` reads the value itself from its text. -/
structure ReadsBack (value : Json) : Prop where
  front : ReadsFront readNumber value
  same : value.reread = value

theorem ReadsBack.parse_eq {value : Json} (h : value.ReadsBack) :
    parse readNumber value.stringify = some value := by
  rw [h.front.parse_eq, h.same]

theorem readsBack_str (s : String) : (str s).ReadsBack where
  front := readsFront_str s
  same := by simp [reread]

theorem readsBack_bool (b : Bool) : (bool b).ReadsBack where
  front := readsFront_bool b
  same := by simp [reread]

/-- An object under different names, none of them an array index. -/
theorem readsBack_obj {members : JsonObject} (hnodup : members.keys.Nodup)
    (hnamed : ∀ key ∈ members.keys, arrayIndex key = none)
    (hvalues : ∀ m ∈ members, m.2.ReadsBack) : (obj members).ReadsBack where
  front := readsFront_obj fun m hm => (hvalues m hm).front
  same := reread_obj_eq hnodup hnamed fun m hm => (hvalues m hm).same

end ReadsBack

end Json

/-! ## The compact form -/

section Compact

variable [ServiceHost] {header claims : JsonObject} {secret : String}

/-- A part of a token: the text of an object in Base64. -/
def encodedObject (o : JsonObject) : List Char := Base64.encode (encodeUtf8 (Json.obj o).stringify)

/-- What a token signs. -/
def signingInput (header claims : JsonObject) : List Char :=
  encodedObject header ++ '.' :: encodedObject claims

/-- The signature of a token. -/
def signature (secret : String) (header claims : JsonObject) : List UInt8 :=
  Sha256.hmacBytes (encodeUtf8 secret) (encodeUtf8 (String.ofList (signingInput header claims)))

/-- The compact form of a token that is signed with HMAC and SHA-256. -/
def compactToken (secret : String) (header claims : JsonObject) : String :=
  String.ofList (signingInput header claims ++ '.' :: Base64.encode (signature secret header claims))

theorem encodedObject_ne_nil (o : JsonObject) : encodedObject o ≠ [] := by
  apply Base64.encode_ne_nil
  intro hnil
  have hlength := congrArg List.length hnil
  rw [← Json.byteLength, Json.byteLength_obj, List.length_nil] at hlength
  omega

omit [ServiceHost] in
theorem decodeBase64Url_encode {bytes : List UInt8} (h : bytes ≠ []) :
    decodeBase64Url (Base64.encode bytes) = .ok bytes := by
  have hchars : (Base64.encode bytes).all Base64.isUrlChar = true :=
    List.all_eq_true.2 Base64.isUrlChar_of_mem_encode
  rw [decodeBase64Url, if_neg (by simp [hchars, Base64.encode_ne_nil h]), Base64.decode_encode]

/-- The client reads the object that a part of a token carries. -/
theorem parseBase64UrlJson_encodedObject {o : JsonObject} (h : (Json.obj o).ReadsBack) :
    parseBase64UrlJson (encodedObject o) = .ok o := by
  have hne : encodeUtf8 (Json.obj o).stringify ≠ [] := by
    intro hnil
    apply encodedObject_ne_nil o
    rw [encodedObject, hnil]
    rfl
  rw [parseBase64UrlJson, encodedObject, decodeBase64Url_encode hne]
  simp only [Bind.bind, Except.bind, bufferChars_encodeUtf8, String.ofList_toList, h.parse_eq]

omit [ServiceHost] in
theorem not_mem_encode (bytes : List UInt8) : '.' ∉ Base64.encode bytes := by
  intro hdot
  have hchar := Base64.isUrlChar_of_mem_encode '.' hdot
  exact absurd hchar (by decide)

/-- A token has three parts. -/
theorem splitOn_compactToken (secret : String) (header claims : JsonObject) :
    (compactToken secret header claims).toList.splitOn '.' =
      [encodedObject header, encodedObject claims,
        Base64.encode (signature secret header claims)] := by
  have hjoin : (compactToken secret header claims).toList = List.intercalate ['.']
      [encodedObject header, encodedObject claims,
        Base64.encode (signature secret header claims)] := by
    simp [compactToken, signingInput, List.intercalate, List.intersperse]
  rw [hjoin]
  refine List.splitOn_intercalate '.' ?_ (by simp)
  simp only [List.mem_cons, List.not_mem_nil, or_false, forall_eq_or_imp, forall_eq]
  exact ⟨not_mem_encode _, not_mem_encode _, not_mem_encode _⟩

/-- The client checks the claims of a token that is signed with its secret, and nothing else of
it. -/
theorem verifyJwt_compactToken (hheader : (Json.obj header).ReadsBack)
    (hclaims : (Json.obj claims).ReadsBack) (halg : (Json.obj header).text? "alg" = some "HS256")
    (htyp : (Json.obj header).text? "typ" = some "JWT") {iat exp : ℤ}
    (hiat : integerValue claims "iat" = .ok iat) (hexp : integerValue claims "exp" = .ok exp)
    (expected : ExpectedJwt) :
    verifyJwt (compactToken secret header claims) secret expected =
      if expected.accepts claims iat exp = false then .error .invalidToken else .ok (iat, exp) := by
  have hsignature : signature secret header claims ≠ [] := by
    intro hnil
    have hlength := congrArg List.length hnil
    rw [signature, Sha256.length_hmacBytes] at hlength
    cases hlength
  rw [verifyJwt, splitOn_compactToken]
  simp only [parseBase64UrlJson_encodedObject hheader, parseBase64UrlJson_encodedObject hclaims,
    decodeBase64Url_encode hsignature, halg, htyp, hiat, hexp, Bind.bind, Except.bind]
  rw [if_neg (by simp), if_neg (by simp [signature, signingInput])]

end Compact

end ChecksAndBalances
