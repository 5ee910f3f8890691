import Mathlib.Data.List.Basic

/-!
# Base64 for URLs

The encoding of bytes by letters, digits, `-` and `_`, without padding.  A decoder takes three bytes
from four characters; two or three characters at the end give one or two bytes, and a single one
gives none.
-/

namespace ChecksAndBalances.Lib.Base64

/-! ## Characters -/

/-- The character of a number below 64. -/
def charOf (n : ℕ) : Char :=
  if n < 26 then Char.ofNat (65 + n)
  else if n < 52 then Char.ofNat (71 + n)
  else if n < 62 then Char.ofNat (n - 4)
  else if n = 62 then '-'
  else '_'

/-- A character of the alphabet. -/
def isUrlChar (c : Char) : Bool :=
  ('A' ≤ c && c ≤ 'Z') || ('a' ≤ c && c ≤ 'z') || ('0' ≤ c && c ≤ '9') || c == '-' || c == '_'

/-- The number of a character. -/
def valueOf (c : Char) : ℕ :=
  if 'A' ≤ c ∧ c ≤ 'Z' then c.toNat - 65
  else if 'a' ≤ c ∧ c ≤ 'z' then c.toNat - 71
  else if '0' ≤ c ∧ c ≤ '9' then c.toNat + 4
  else if c = '-' then 62
  else 63

theorem valueOf_charOf : ∀ n < 64, valueOf (charOf n) = n := by
  decide

theorem isUrlChar_charOf (n : ℕ) : isUrlChar (charOf n) = true := by
  have h : ∀ n < 64, isUrlChar (charOf n) = true := by decide
  by_cases hn : n < 64
  · exact h n hn
  · unfold charOf
    rw [if_neg (by omega), if_neg (by omega), if_neg (by omega), if_neg (by omega)]
    decide

/-! ## Bytes -/

/-- The encoding of a byte list. -/
def encode : List UInt8 → List Char
  | a :: b :: c :: rest =>
    charOf (a.toNat / 4) :: charOf (a.toNat % 4 * 16 + b.toNat / 16) ::
      charOf (b.toNat % 16 * 4 + c.toNat / 64) :: charOf (c.toNat % 64) :: encode rest
  | [a, b] =>
    [charOf (a.toNat / 4), charOf (a.toNat % 4 * 16 + b.toNat / 16), charOf (b.toNat % 16 * 4)]
  | [a] => [charOf (a.toNat / 4), charOf (a.toNat % 4 * 16)]
  | [] => []

/-- The bytes of an encoding. -/
def decode : List Char → List UInt8
  | w :: x :: y :: z :: rest =>
    UInt8.ofNat (valueOf w * 4 + valueOf x / 16) ::
      UInt8.ofNat (valueOf x % 16 * 16 + valueOf y / 4) ::
        UInt8.ofNat (valueOf y % 4 * 64 + valueOf z) :: decode rest
  | [w, x, y] =>
    [UInt8.ofNat (valueOf w * 4 + valueOf x / 16), UInt8.ofNat (valueOf x % 16 * 16 + valueOf y / 4)]
  | [w, x] => [UInt8.ofNat (valueOf w * 4 + valueOf x / 16)]
  | _ => []

theorem ofNat_eq {a : UInt8} {n : ℕ} (h : n = a.toNat) : UInt8.ofNat n = a := by
  rw [h, UInt8.ofNat_toNat]

/-- Bytes survive their encoding. -/
theorem decode_encode (bytes : List UInt8) : decode (encode bytes) = bytes := by
  induction bytes using encode.induct with
  | case1 a b c rest ih =>
    have ha := a.toNat_lt
    have hb := b.toNat_lt
    have hc := c.toNat_lt
    simp (disch := omega) only [encode, decode, valueOf_charOf, ih]
    rw [ofNat_eq (a := a) (by omega), ofNat_eq (a := b) (by omega), ofNat_eq (a := c) (by omega)]
  | case2 a b =>
    have ha := a.toNat_lt
    have hb := b.toNat_lt
    simp (disch := omega) only [encode, decode, valueOf_charOf]
    rw [ofNat_eq (a := a) (by omega), ofNat_eq (a := b) (by omega)]
  | case3 a =>
    have ha := a.toNat_lt
    simp (disch := omega) only [encode, decode, valueOf_charOf]
    rw [ofNat_eq (a := a) (by omega)]
  | case4 => rfl

theorem isUrlChar_of_mem_encode {bytes : List UInt8} :
    ∀ c ∈ encode bytes, isUrlChar c = true := by
  induction bytes using encode.induct with
  | case1 a b c rest ih => simpa [encode, isUrlChar_charOf] using ih
  | case2 a b => simp [encode, isUrlChar_charOf]
  | case3 a => simp [encode, isUrlChar_charOf]
  | case4 => simp [encode]

theorem length_encode_le (bytes : List UInt8) : 3 * (encode bytes).length ≤ 4 * bytes.length + 2 := by
  induction bytes using encode.induct with
  | case1 a b c rest ih =>
    simp only [encode, List.length_cons]
    omega
  | case2 a b => simp [encode]
  | case3 a => simp [encode]
  | case4 => simp [encode]

theorem encode_ne_nil {bytes : List UInt8} (h : bytes ≠ []) : encode bytes ≠ [] := by
  intro hnil
  apply h
  rw [← decode_encode bytes, hnil]
  rfl

-- An example of the specification of JSON Web Signatures.
example : encode [3, 236, 255, 224, 193] = "A-z_4ME".toList := by
  decide

end ChecksAndBalances.Lib.Base64
