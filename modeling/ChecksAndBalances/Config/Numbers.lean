import ChecksAndBalances.Verus.Json
import Mathlib.Data.Int.Log
import Mathlib.Data.List.DropRight
import Mathlib.Data.Rat.Floor

/-!
# Numbers of texts

`Number(text)`: decimal numerals with an exponent, hexadecimal, octal and binary ones, and the empty
text as zero, rounded to a double.  It is absent where the result is `NaN` or infinite.
-/

namespace ChecksAndBalances

/-! ## Rounding -/

/-- The next integer, the even one of two that are equally near. -/
def roundHalfEven (v : ℚ) : ℤ :=
  if v - ⌊v⌋ < 1 / 2 ∨ (v - ⌊v⌋ = 1 / 2 ∧ ⌊v⌋ % 2 = 0) then ⌊v⌋ else ⌊v⌋ + 1

/-- The double next to a number that is not negative. -/
def nearestDouble (v : ℚ) : Option ℚ :=
  let exponent := max (Int.log 2 v - 52) (-1074)
  let double : ℚ := roundHalfEven (v / 2 ^ exponent) * 2 ^ exponent
  if double < 2 ^ 1024 then some double else none

/-! ## Numerals -/

def decimalDigits (chars : List Char) : Option ℕ :=
  if chars ≠ [] ∧ chars.all Char.isDigit then some (Nat.ofDigitChars 10 chars 0) else none

def decimalExponent : List Char → Option ℤ
  | '+' :: digits => (decimalDigits digits).map fun n => n
  | '-' :: digits => (decimalDigits digits).map fun n => -n
  | digits => (decimalDigits digits).map fun n => n

/-- A decimal numeral without a sign: digits with at most one point, and an exponent. -/
def unsignedDecimal (chars : List Char) : Option ℚ :=
  let mantissa := chars.takeWhile fun c => c != 'e' && c != 'E'
  let exponent := match chars.dropWhile fun c => c != 'e' && c != 'E' with
    | [] => some 0
    | _ :: rest => decimalExponent rest
  let fraction := (mantissa.dropWhile fun c => c != '.').drop 1
  exponent.bind fun exponent =>
    (decimalDigits (mantissa.takeWhile (fun c => c != '.') ++ fraction)).map fun digits : ℕ =>
      (digits : ℚ) * 10 ^ (exponent - fraction.length)

/-- The value of a digit; 16 for any other character. -/
def digitValue (c : Char) : ℕ :=
  if c.isDigit then c.toNat - 48 else if 'a' ≤ c ∧ c ≤ 'f' then c.toNat - 87
  else if 'A' ≤ c ∧ c ≤ 'F' then c.toNat - 55 else 16

def radixDigits (base : ℕ) (chars : List Char) : Option ℚ :=
  if chars ≠ [] ∧ chars.all (fun c => digitValue c < base) then
    some (chars.foldl (fun value c => value * base + digitValue c) 0 : ℕ)
  else none

/-- The value of a numeral. -/
def numeralValue : List Char → Option ℚ
  | [] => some 0
  | '0' :: 'x' :: digits | '0' :: 'X' :: digits => radixDigits 16 digits
  | '0' :: 'o' :: digits | '0' :: 'O' :: digits => radixDigits 8 digits
  | '0' :: 'b' :: digits | '0' :: 'B' :: digits => radixDigits 2 digits
  | '+' :: rest => unsignedDecimal rest
  | '-' :: rest => (unsignedDecimal rest).map fun v => -v
  | chars => unsignedDecimal chars

/-- `trim`. -/
def trimSpace (chars : List Char) : List Char := (chars.dropWhile isJsSpace).rdropWhile isJsSpace

/-- `Number(text)`. -/
def number (text : String) : Option ℚ :=
  (numeralValue (trimSpace text.toList)).bind fun v =>
    if v < 0 then (nearestDouble (-v)).map fun double => -double else nearestDouble v

/-- `Number.isInteger`. -/
def isInteger (v : ℚ) : Bool := v.den = 1

/-! ## Decimal integers -/

theorem roundHalfEven_intCast (m : ℤ) : roundHalfEven m = m := by
  unfold roundHalfEven
  rw [Int.floor_intCast, sub_self, if_pos (Or.inl (by norm_num))]

/-- Small integers are doubles. -/
theorem nearestDouble_natCast {n : ℕ} (h : n < 2 ^ 53) : nearestDouble n = some (n : ℚ) := by
  have hlog : Nat.log 2 n ≤ 52 := by
    have hlt := Nat.log_lt_of_lt_pow' (by decide : 53 ≠ 0) h
    omega
  obtain ⟨k, hk⟩ := Nat.exists_eq_add_of_le hlog
  have hexponent : max (Int.log 2 (n : ℚ) - 52) (-1074) = -(k : ℤ) := by
    rw [Int.log_natCast]
    omega
  have hscaled : (n : ℚ) / 2 ^ (-(k : ℤ)) = ((n * 2 ^ k : ℕ) : ℤ) := by
    rw [zpow_neg, zpow_natCast, div_inv_eq_mul]
    push_cast
    rfl
  unfold nearestDouble
  simp only [hexponent, hscaled, roundHalfEven_intCast]
  have hdouble : (((n * 2 ^ k : ℕ) : ℤ) : ℚ) * 2 ^ (-(k : ℤ)) = n := by
    rw [zpow_neg, zpow_natCast]
    push_cast
    rw [mul_assoc, mul_inv_cancel₀ (by positivity), mul_one]
  rw [hdouble, if_pos]
  have hbound : (n : ℚ) < 2 ^ 53 := by exact_mod_cast h
  exact hbound.trans (pow_lt_pow_right₀ (by norm_num) (by norm_num))

section Digits

variable {chars : List Char}

theorem toNat_of_isDigit {c : Char} (h : c.isDigit = true) : 48 ≤ c.toNat ∧ c.toNat ≤ 57 := by
  simp only [Char.isDigit, Bool.and_eq_true, decide_eq_true_eq] at h
  exact h

theorem ne_of_isDigit {c d : Char} (h : c.isDigit = true) (hd : d.isDigit = false) : c ≠ d := by
  rintro rfl
  rw [h] at hd
  cases hd

theorem isJsSpace_of_isDigit {c : Char} (h : c.isDigit = true) : isJsSpace c = false := by
  obtain ⟨hlow, hhigh⟩ := toNat_of_isDigit h
  simp [isJsSpace]
  omega

theorem trimSpace_of_digits (h : ∀ c ∈ chars, c.isDigit = true) : trimSpace chars = chars := by
  have hdrop : ∀ l : List Char, (∀ c ∈ l, c.isDigit = true) → l.dropWhile isJsSpace = l := by
    intro l hl
    cases l with
    | nil => rfl
    | cons c l =>
      rw [List.dropWhile_cons_of_neg]
      simp [isJsSpace_of_isDigit (hl c List.mem_cons_self)]
  unfold trimSpace List.rdropWhile
  rw [hdrop chars h, hdrop chars.reverse (fun c hc => h c (List.mem_reverse.1 hc)),
    List.reverse_reverse]

theorem unsignedDecimal_of_digits (hne : chars ≠ []) (h : ∀ c ∈ chars, c.isDigit = true) :
    unsignedDecimal chars = some (Nat.ofDigitChars 10 chars 0 : ℚ) := by
  have hmantissa : chars.takeWhile (fun c => c != 'e' && c != 'E') = chars ∧
      chars.dropWhile (fun c => c != 'e' && c != 'E') = [] := by
    have hall : ∀ c ∈ chars, (c != 'e' && c != 'E') = true := by
      intro c hc
      simp [ne_of_isDigit (h c hc) (d := 'e') (by decide), ne_of_isDigit (h c hc) (d := 'E') (by decide)]
    exact ⟨List.takeWhile_eq_self_iff.2 hall, List.dropWhile_eq_nil_iff.2 hall⟩
  have hwhole : chars.takeWhile (fun c => c != '.') = chars ∧
      chars.dropWhile (fun c => c != '.') = [] := by
    have hall : ∀ c ∈ chars, (c != '.') = true := by
      intro c hc
      simp [ne_of_isDigit (h c hc) (d := '.') (by decide)]
    exact ⟨List.takeWhile_eq_self_iff.2 hall, List.dropWhile_eq_nil_iff.2 hall⟩
  unfold unsignedDecimal
  simp only [hmantissa, hwhole, List.drop_nil, List.append_nil, Option.bind_some, decimalDigits,
    if_pos (And.intro hne (List.all_eq_true.2 h)), Option.map_some, List.length_nil, Nat.cast_zero,
    sub_zero, zpow_zero, mul_one]

theorem numeralValue_of_digits (hne : chars ≠ []) (h : ∀ c ∈ chars, c.isDigit = true) :
    numeralValue chars = unsignedDecimal chars := by
  unfold numeralValue
  split
  · exact absurd rfl hne
  all_goals first
    | rfl
    | exact absurd (List.forall_mem_cons.1 h).1 (by decide)
    | exact absurd (List.forall_mem_cons.1 (List.forall_mem_cons.1 h).2).1 (by decide)

end Digits

/-- A decimal integer is read back. -/
theorem number_repr {n : ℕ} (hn : n < 2 ^ 53) : number n.repr = some (n : ℚ) := by
  have hdigits : ∀ c ∈ Nat.toDigits 10 n, c.isDigit = true :=
    fun c hc => Nat.isDigit_of_mem_toDigits (by decide) (by decide) hc
  have hne : Nat.toDigits 10 n ≠ [] := List.ne_nil_of_length_pos Nat.length_toDigits_pos
  have hvalue : numeralValue (Nat.toDigits 10 n) = some (n : ℚ) := by
    rw [numeralValue_of_digits hne hdigits, unsignedDecimal_of_digits hne hdigits,
      Nat.ofDigitChars_ten_toDigits]
  unfold number
  rw [Nat.toList_repr, trimSpace_of_digits hdigits, hvalue, Option.bind_some,
    if_neg (not_lt.2 (Nat.cast_nonneg n)), nearestDouble_natCast hn]

end ChecksAndBalances
