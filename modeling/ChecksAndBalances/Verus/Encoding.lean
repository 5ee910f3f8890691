import ChecksAndBalances.Verus.Reconciliation

/-!
# Encodings

A text survives `TextEncoder` and `TextDecoder`, and bytes survive their hexadecimal form; so the
bytes of a payload are those of its canonical text.
-/

namespace ChecksAndBalances

/-! ## UTF-8 -/

theorem decodeUtf8_one {a : UInt8} (rest : List UInt8) (h : a.toNat < 0x80) :
    decodeUtf8 (a :: rest) = (decodeUtf8 rest).map (Char.ofNat a.toNat :: ·) := by
  cases rest <;> rw [decodeUtf8.eq_def] <;> simp [h]

theorem decodeUtf8_two {a b : UInt8} (rest : List UInt8) (ha : 0xc2 ≤ a.toNat ∧ a.toNat < 0xe0)
    (hb : isTail 0x80 0xbf b = true) :
    decodeUtf8 (a :: b :: rest) =
      (decodeUtf8 rest).map (Char.ofNat (a.toNat % 32 * 64 + tailBits b) :: ·) := by
  rw [decodeUtf8.eq_def]
  simp only
  rw [if_neg (by omega), if_pos ha, if_pos hb]

theorem decodeUtf8_three {a b c : UInt8} (rest : List UInt8)
    (ha : 0xe0 ≤ a.toNat ∧ a.toNat < 0xf0)
    (hb : isTail (lowestTail a.toNat) (highestTail a.toNat) b = true)
    (hc : isTail 0x80 0xbf c = true) :
    decodeUtf8 (a :: b :: c :: rest) = (decodeUtf8 rest).map
      (Char.ofNat (a.toNat % 16 * 4096 + tailBits b * 64 + tailBits c) :: ·) := by
  rw [decodeUtf8.eq_def]
  simp only
  rw [if_neg (by omega), if_neg (by omega), if_pos ha, if_pos (by rw [hb, hc]; rfl)]

theorem decodeUtf8_four {a b c d : UInt8} (rest : List UInt8)
    (ha : 0xf0 ≤ a.toNat ∧ a.toNat < 0xf5)
    (hb : isTail (lowestTail a.toNat) (highestTail a.toNat) b = true)
    (hc : isTail 0x80 0xbf c = true) (hd : isTail 0x80 0xbf d = true) :
    decodeUtf8 (a :: b :: c :: d :: rest) = (decodeUtf8 rest).map
      (Char.ofNat (a.toNat % 8 * 262144 + tailBits b * 4096 + tailBits c * 64 + tailBits d) :: ·) := by
  rw [decodeUtf8.eq_def]
  simp only
  rw [if_neg (by omega), if_neg (by omega), if_neg (by omega), if_pos ⟨ha.1, ha.2, hb, hc, hd⟩]

theorem decodeUtf8_encodeChar (c : Char) (rest : List UInt8) :
    decodeUtf8 (String.utf8EncodeChar c ++ rest) = (decodeUtf8 rest).map (c :: ·) := by
  have hvalid := c.valid
  simp only [UInt32.isValidChar, Nat.isValidChar] at hvalid
  have hof : Char.ofNat c.val.toNat = c := Char.ofNat_toNat c
  generalize hv : c.val.toNat = v at hvalid hof
  -- The value of each byte below, as a number.
  have hbyte : ∀ n, n < 256 → (UInt8.ofNat n).toNat = n := by
    intro n hn
    rw [UInt8.toNat_ofNat']
    exact Nat.mod_eq_of_lt hn
  unfold String.utf8EncodeChar
  simp only [hv]
  split_ifs with h1 h2 h3
  · have hfirst := hbyte v (by omega)
    rw [List.cons_append, List.nil_append, decodeUtf8_one rest (by omega), hfirst, hof]
  · have hfirst := hbyte (v / 64 % 32 + 192) (by omega)
    have hsecond := hbyte (v % 64 + 128) (by omega)
    rw [List.cons_append, List.cons_append, List.nil_append,
      decodeUtf8_two rest (by omega) (by simp only [isTail, hsecond]; simp; omega)]
    rw [tailBits, hfirst, hsecond,
      show (v / 64 % 32 + 192) % 32 * 64 + (v % 64 + 128) % 64 = v by omega, hof]
  · have hfirst := hbyte (v / 4096 % 16 + 224) (by omega)
    have hsecond := hbyte (v / 64 % 64 + 128) (by omega)
    have hthird := hbyte (v % 64 + 128) (by omega)
    have htail : isTail (lowestTail (UInt8.ofNat (v / 4096 % 16 + 224)).toNat)
        (highestTail (UInt8.ofNat (v / 4096 % 16 + 224)).toNat)
        (UInt8.ofNat (v / 64 % 64 + 128)) = true := by
      simp only [isTail, lowestTail, highestTail, hfirst, hsecond, Bool.and_eq_true,
        decide_eq_true_eq]
      split_ifs <;> omega
    rw [List.cons_append, List.cons_append, List.cons_append, List.nil_append,
      decodeUtf8_three rest (by omega) htail (by simp only [isTail, hthird]; simp; omega)]
    rw [tailBits, tailBits, hfirst, hsecond, hthird,
      show (v / 4096 % 16 + 224) % 16 * 4096 + (v / 64 % 64 + 128) % 64 * 64 + (v % 64 + 128) % 64 = v
        by omega, hof]
  · have hfirst := hbyte (v / 262144 % 8 + 240) (by omega)
    have hsecond := hbyte (v / 4096 % 64 + 128) (by omega)
    have hthird := hbyte (v / 64 % 64 + 128) (by omega)
    have hfourth := hbyte (v % 64 + 128) (by omega)
    have htail : isTail (lowestTail (UInt8.ofNat (v / 262144 % 8 + 240)).toNat)
        (highestTail (UInt8.ofNat (v / 262144 % 8 + 240)).toNat)
        (UInt8.ofNat (v / 4096 % 64 + 128)) = true := by
      simp only [isTail, lowestTail, highestTail, hfirst, hsecond, Bool.and_eq_true,
        decide_eq_true_eq]
      split_ifs <;> omega
    rw [List.cons_append, List.cons_append, List.cons_append, List.cons_append, List.nil_append,
      decodeUtf8_four rest (by omega) htail (by simp only [isTail, hthird]; simp; omega)
        (by simp only [isTail, hfourth]; simp; omega)]
    rw [tailBits, tailBits, tailBits, hfirst, hsecond, hthird, hfourth,
      show (v / 262144 % 8 + 240) % 8 * 262144 + (v / 4096 % 64 + 128) % 64 * 4096 +
        (v / 64 % 64 + 128) % 64 * 64 + (v % 64 + 128) % 64 = v by omega, hof]

theorem encodeUtf8_eq_flatMap (s : String) :
    encodeUtf8 s = s.toList.flatMap String.utf8EncodeChar := by
  have h : s.toUTF8 = s.toList.utf8Encode := String.utf8Encode_toList.symm
  unfold encodeUtf8
  rw [h, List.utf8Encode]
  simp

theorem decodeUtf8_flatMap (cs : List Char) :
    decodeUtf8 (cs.flatMap String.utf8EncodeChar) = some cs := by
  induction cs with
  | nil => rfl
  | cons c cs ih => rw [List.flatMap_cons, decodeUtf8_encodeChar, ih, Option.map_some]

/-- A text that does not start with a byte order mark survives its encoding. -/
theorem decodeText_encodeUtf8 {s : String} (h : ∀ c, s.toList.head? = some c → c.toNat ≠ 0xfeff) :
    decodeText (encodeUtf8 s) = some s := by
  rw [decodeText, encodeUtf8_eq_flatMap, decodeUtf8_flatMap, Option.map_some]
  cases hs : s.toList with
  | nil =>
    have hempty : s = "" := String.toList_eq_nil_iff.1 hs
    rw [hempty]
  | cons c cs =>
    have hc := h c (by rw [hs]; rfl)
    simp only
    rw [if_neg hc, ← hs, String.ofList_toList]

theorem hexValue_hexDigit : ∀ n < 16, hexValue (Json.hexDigit n) = some n := by
  decide

/-- Bytes survive their hexadecimal form. -/
theorem fromHex_toHex (bytes : List UInt8) : fromHex (toHex bytes).toList = some bytes := by
  rw [toHex, String.toList_ofList]
  induction bytes with
  | nil => rfl
  | cons b bytes ih =>
    have hb := b.toNat_lt
    rw [List.flatMap_cons]
    simp only [List.cons_append, List.nil_append, fromHex]
    rw [hexValue_hexDigit _ (by omega), hexValue_hexDigit _ (by omega), ih]
    simp only [Option.bind_eq_bind, Option.bind_some, Option.pure_def, Option.some.injEq,
      List.cons.injEq, and_true]
    rw [show b.toNat / 16 * 16 + b.toNat % 16 = b.toNat by omega]
    exact UInt8.ofNat_toNat

/-! ## Payloads -/

section Payload

variable [Host]

/-- The canonical text of an object starts with a brace. -/
theorem canonicalizeJson_obj_head {members : JsonObject} {text : String}
    (h : (Json.obj members).canonicalizeJson = .ok text) : text.toList.head? = some '\x7b' := by
  rw [Json.canonicalizeJson] at h
  cases hmembers : Json.canonicalizeMembers members with
  | error error =>
    rw [hmembers] at h
    cases h
  | ok entries =>
    rw [hmembers] at h
    rw [← Except.ok.inj h]
    simp

/-- What `prepareCanonicalPayload` returns. -/
theorem prepareCanonicalPayload_spec {value : JsonObject} {policy : CanonicalPayloadPolicy}
    {payload : CanonicalPayload} (h : prepareCanonicalPayload value policy = .ok payload) :
    ∃ text, (Json.obj value).canonicalizeJson = .ok text ∧ payload.bytes = encodeUtf8 text ∧
      payload.digest = sha256 text := by
  simp only [prepareCanonicalPayload, bind, Except.bind] at h
  split at h
  · cases h
  · split at h
    · cases h
    · split at h
      · cases h
      · split at h
        · cases h
        · next text htext =>
          split at h
          · cases h
          · rw [← Except.ok.inj h]
            exact ⟨text, htext, rfl, rfl⟩

/-- A value that passes the checks is prepared. -/
theorem prepareCanonicalPayload_ok {value : JsonObject} {policy : CanonicalPayloadPolicy}
    {text : String}
    (hmaximum : (isSafeInteger policy.maximumBytes && 1 ≤ policy.maximumBytes) = true)
    (hfields : (value.keys.all (fun key => key ∈ policy.allowedTopLevelFields) &&
      policy.requiredTopLevelFields.all fun key => key ∈ value.keys) = true)
    (hplain : rejectForbiddenFields value = .ok ())
    (htext : (Json.obj value).canonicalizeJson = .ok text)
    (hsize : decide ((encodeUtf8 text).length ≤ policy.maximumBytes) = true) :
    prepareCanonicalPayload value policy = .ok
      { value, bytes := encodeUtf8 text, digest := sha256 text
        policyReference := policy.policyReference } := by
  unfold prepareCanonicalPayload
  rw [hplain, htext]
  simp only [demand, hmaximum, hfields, if_true]
  simp only [bind, Except.bind, hsize, if_true]
  rfl

end Payload

/-! ## Content entries -/

theorem lookup_map_entry (map : List (String × List Json)) (key key' : String) (value : List Json)
    (hne : key' ≠ key) :
    (map.map fun entry => if entry.1 = key then (key, value) else entry).lookup key' =
      map.lookup key' := by
  induction map with
  | nil => rfl
  | cons entry map ih =>
    obtain ⟨k, v⟩ := entry
    by_cases hk : k = key
    · subst hk
      have hbeq : (key' == k) = false := beq_eq_false_iff_ne.2 hne
      simp [List.lookup_cons, hbeq, ih]
    · simp [List.lookup_cons, hk, ih]

/-- The entries under the other keys stay. -/
theorem lookup_setEntry_of_ne (map : List (String × List Json)) {key key' : String}
    (value : List Json) (hne : key' ≠ key) :
    (setEntry map key value).lookup key' = map.lookup key' := by
  unfold setEntry
  split_ifs
  · exact lookup_map_entry map key key' value hne
  · have hbeq : (key' == key) = false := beq_eq_false_iff_ne.2 hne
    rw [List.lookup_append]
    simp [List.lookup_cons, hbeq]

/-- The key has the new value. -/
theorem lookup_setEntry_self (map : List (String × List Json)) (key : String) (value : List Json) :
    (setEntry map key value).lookup key = some value := by
  unfold setEntry
  split_ifs with hany
  · induction map with
    | nil => cases hany
    | cons entry map ih =>
      obtain ⟨k, v⟩ := entry
      by_cases hk : k = key
      · simp [hk]
      · have hrest : map.any (fun entry => decide (entry.1 = key)) = true := by
          simpa [hk] using hany
        have hbeq : (key == k) = false := beq_eq_false_iff_ne.2 (Ne.symm hk)
        simpa [List.lookup_cons, hk, hbeq] using ih hrest
  · have hnone : map.lookup key = none := by
      rw [List.lookup_eq_none_iff]
      intro entry hentry
      simp only [List.any_eq_true, decide_eq_true_eq, not_exists, not_and] at hany
      simpa using fun h => hany entry hentry h.symm
    rw [List.lookup_append, hnone]
    simp

end ChecksAndBalances
