import Mathlib.Data.BitVec

/-!
# JSON values

`JsonValue` of `packages/verus/src/types.ts`.  A number is an IEEE 754 double, given by its bits.
An object lists its members in insertion order.  `Host` collects what the code takes from its host:
Unicode normalization, the printing of a number and `JSON.parse`.
-/

namespace ChecksAndBalances

/-- A JavaScript number. -/
structure JsNumber where
  bits : BitVec 64
  deriving DecidableEq, Repr

/-- `Number.isFinite`: the exponent field is not all ones. -/
def JsNumber.isFinite (n : JsNumber) : Bool := n.bits.extractLsb' 52 11 != 0x7ff#11

/-- The exponent field. -/
def JsNumber.exponent (n : JsNumber) : ℕ := (n.bits.extractLsb' 52 11).toNat

/-- The significand of a normal number. -/
def JsNumber.significand (n : JsNumber) : ℕ := 2 ^ 52 + (n.bits.extractLsb' 0 52).toNat

/-- Both zeros. -/
def JsNumber.isZero (n : JsNumber) : Bool := n.bits.extractLsb' 0 63 = 0

/-- `Number.isSafeInteger`: the fraction of a number below `2 ^ 53` is zero. -/
def JsNumber.isSafeInteger (n : JsNumber) : Bool :=
  n.isZero || (1023 ≤ n.exponent && n.exponent ≤ 1075 &&
    n.significand % 2 ^ (1075 - n.exponent) = 0)

/-- The value of a safe integer. -/
def JsNumber.toInt (n : JsNumber) : ℤ :=
  if n.isZero then 0
  else (if n.bits.msb then -1 else 1) * (n.significand / 2 ^ (1075 - n.exponent) : ℕ)

/-- `JsonValue`. -/
inductive Json where
  | null
  | bool (value : Bool)
  | num (value : JsNumber)
  | str (value : String)
  | arr (items : List Json)
  | obj (members : List (String × Json))
  deriving Repr

/-- `JsonObject`: the members of an object. -/
abbrev JsonObject := List (String × Json)

/-- The host functions of the code. -/
class Host where
  /-- `String.prototype.normalize("NFC")`. -/
  nfc : String → String
  /-- `JSON.stringify` of a finite number. -/
  numberToString : JsNumber → String
  /-- `JSON.parse`, absent where it throws. -/
  jsonParse : String → Option Json

namespace JsonObject

/-- `Object.keys`. -/
def keys (o : JsonObject) : List String := o.map Prod.fst

/-- `o[key]`. -/
def get? (o : JsonObject) (key : String) : Option Json := o.lookup key

end JsonObject

namespace Json

def hexDigit (n : ℕ) : Char := if n < 10 then Char.ofNat (48 + n) else Char.ofNat (87 + n)

/-- One character of a JSON string literal. -/
def escapeChar (c : Char) : List Char :=
  if c = '"' then ['\\', '"']
  else if c = '\\' then ['\\', '\\']
  else if c.toNat = 8 then ['\\', 'b']
  else if c.toNat = 9 then ['\\', 't']
  else if c.toNat = 10 then ['\\', 'n']
  else if c.toNat = 12 then ['\\', 'f']
  else if c.toNat = 13 then ['\\', 'r']
  else if c.toNat < 32 then ['\\', 'u', '0', '0', hexDigit (c.toNat / 16), hexDigit (c.toNat % 16)]
  else [c]

/-- `JSON.stringify` of a string. -/
def quote (s : String) : String := String.ofList ('"' :: s.toList.flatMap escapeChar ++ ['"'])

mutual

/-- `isDeepStrictEqual`: objects as unordered maps, numbers by `Object.is`. -/
def deepEqual : Json → Json → Bool
  | null, null => true
  | bool a, bool b => a == b
  | num a, num b => a == b
  | str a, str b => a == b
  | arr as, arr bs => deepEqualItems as bs
  | obj as, obj bs => as.length == bs.length && deepEqualMembers as bs
  | _, _ => false

def deepEqualItems : List Json → List Json → Bool
  | [], [] => true
  | a :: as, b :: bs => deepEqual a b && deepEqualItems as bs
  | _, _ => false

def deepEqualMembers : List (String × Json) → List (String × Json) → Bool
  | [], _ => true
  | (key, a) :: as, bs =>
    (match bs.lookup key with
      | some b => deepEqual a b
      | none => false) && deepEqualMembers as bs

end

/-! ## Prohibited fields -/

/-- Why a manifest is refused. -/
inductive FieldProblem where
  | nesting
  | prohibited
  deriving DecidableEq, Repr

/-- `FORBIDDEN_MANIFEST_FIELDS`; also `ALWAYS_FORBIDDEN_FIELDS` with the three prototype names that
`rejectForbiddenFields` tests next to it. -/
def forbiddenFields : List String := [
  "appealdetail", "appealfacts", "committeeevidence", "committeenotes", "dateofbirth",
  "documentimage", "documentnumber", "evidencehash", "exactaddress", "faceimage",
  "identitydocument", "privatekey", "privatesessionlocation", "rpcpassword", "seedphrase",
  "sessiontoken", "utilitybill", "walletbackup", "walletseed", "wif", "zseed", "proto",
  "constructor", "prototype"]

/-- What `toLowerCase` followed by `replace(/[^a-z0-9]/g, "")` leaves of a character.  Outside ASCII
only the Kelvin sign and the dotted capital I have an ASCII letter in their lower case. -/
def plainChar (c : Char) : Option Char :=
  if 'a' ≤ c && c ≤ 'z' || '0' ≤ c && c ≤ '9' then some c
  else if 'A' ≤ c && c ≤ 'Z' then some (Char.ofNat (c.toNat + 32))
  else if c.toNat = 0x212a then some 'k'
  else if c.toNat = 0x130 then some 'i'
  else none

/-- The normalized name of a field. -/
def normalizedField (field : String) : String := String.ofList (field.toList.filterMap plainChar)

mutual

/-- `rejectSensitiveManifestFields` and `rejectForbiddenFields`, which differ in their errors. -/
def rejectFields (depth : ℕ) : Json → Except FieldProblem Unit
  | arr items => if 32 < depth then .error .nesting else rejectItems depth items
  | obj members => if 32 < depth then .error .nesting else rejectMembers depth members
  | _ => if 32 < depth then .error .nesting else .ok ()

def rejectItems (depth : ℕ) : List Json → Except FieldProblem Unit
  | [] => .ok ()
  | item :: items => do
    rejectFields (depth + 1) item
    rejectItems depth items

def rejectMembers (depth : ℕ) : List (String × Json) → Except FieldProblem Unit
  | [] => .ok ()
  | (field, item) :: members => do
    if normalizedField field ∈ forbiddenFields then throw .prohibited
    rejectFields (depth + 1) item
    rejectMembers depth members

end

end Json

/-! ## JavaScript strings -/

/-- The UTF-16 code units of a character. -/
def utf16Char (c : Char) : List ℕ :=
  if c.toNat < 0x10000 then [c.toNat]
  else [0xd800 + (c.toNat - 0x10000) / 0x400, 0xdc00 + (c.toNat - 0x10000) % 0x400]

/-- The UTF-16 code units of a string. -/
def utf16 (s : String) : List ℕ := s.toList.flatMap utf16Char

/-- `left < right` on strings. -/
def codeUnitsLt : List ℕ → List ℕ → Bool
  | _, [] => false
  | [], _ :: _ => true
  | a :: as, b :: bs => a < b || (a = b && codeUnitsLt as bs)

/-- The white space and line terminators that `\s` matches and `trim` removes. -/
def isJsSpace (c : Char) : Bool :=
  c.toNat ∈ [0x9, 0xa, 0xb, 0xc, 0xd, 0x20, 0xa0, 0x1680, 0x2028, 0x2029, 0x202f, 0x205f, 0x3000,
    0xfeff] || (0x2000 ≤ c.toNat && c.toNat ≤ 0x200a)

/-- The bytes of `TextEncoder().encode` and of `Buffer.from(text, "utf8")`. -/
def encodeUtf8 (s : String) : List UInt8 := s.toUTF8.data.toList

end ChecksAndBalances
