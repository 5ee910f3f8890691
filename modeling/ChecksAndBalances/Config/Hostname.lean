import ChecksAndBalances.Config.Numbers
import ChecksAndBalances.Lib.IpAddress

/-!
# Private host names

`isPrivateHostname` of `packages/config/src/index.ts`.  Of the addresses of version 4 it accepts only
loopback and private ones; it accepts every address of version 6, since there is no point in its
text.
-/

namespace ChecksAndBalances

open Lib

/-- `text.endsWith(suffix)`. -/
def endsWith (text suffix : String) : Bool := suffix.toList.isSuffixOf text.toList

/-- `text.split(".").map(Number)`. -/
def octetsOf (text : String) : List (Option ℚ) :=
  (text.toList.splitOn '.').map fun part => number (String.ofList part)

/-- `isPrivateHostname`; a host name has ASCII characters only. -/
def isPrivateHostname (hostname : String) : Bool :=
  let normalized := hostname.toLower
  if normalized = "localhost" || normalized = "127.0.0.1" || normalized = "::1" ||
      !decide ('.' ∈ normalized.toList) || endsWith normalized ".internal" ||
      endsWith normalized ".local" || endsWith normalized ".svc" then true
  else
    match octetsOf normalized with
    | [some a, some b, some c, some d] =>
      [a, b, c, d].all isInteger &&
        (a = 10 || (a = 172 && 16 ≤ b && b ≤ 31) || (a = 192 && b = 168))
    | _ => false

/-! ## Addresses of version 6 -/

theorem toLower_eq_point {c : Char} (h : c.toLower = '.') : c = '.' := by
  by_cases hupper : c.val ≥ 'A'.val ∧ c.val ≤ 'Z'.val
  · exfalso
    have hlow : c.toLower = ⟨c.val + ('a'.val - 'A'.val), _⟩ := dif_pos hupper
    rw [hlow] at h
    have hval := congrArg (fun c => c.val.toNat) h
    simp only [ge_iff_le, UInt32.le_iff_toNat_le] at hupper
    simp at hval hupper
    omega
  · have hlow : c.toLower = c := dif_neg hupper
    rwa [hlow] at h

/-- Every address of version 6 passes for a private host name. -/
theorem isPrivateHostname_v6 (pieces : Fin 8 → Fin 65536) :
    isPrivateHostname (IpAddress.v6 pieces).host = true := by
  have hpoint : '.' ∉ (IpAddress.v6 pieces).host.toLower.toList := by
    change '.' ∉ ((IpAddress.v6 pieces).host.map Char.toLower).toList
    rw [String.toList_map, List.mem_map]
    rintro ⟨c, hc, h⟩
    rw [toLower_eq_point h] at hc
    exact IpAddress.point_not_mem_host_v6 pieces hc
  simp only [isPrivateHostname, hpoint, decide_false, Bool.not_false, Bool.or_true, Bool.true_or,
    if_true]

/-! ## Addresses of version 4 -/

section V4

variable {a b c d : Fin 256}

theorem toList_host_v4 : (IpAddress.v4 a b c d).host.toList = ['.'].intercalate
    [Nat.toDigits 10 a.val, Nat.toDigits 10 b.val, Nat.toDigits 10 c.val, Nat.toDigits 10 d.val] := by
  rw [IpAddress.host, String.toList_intercalate]
  simp

theorem isDigit_of_mem_toDigits {n : ℕ} {x : Char} (h : x ∈ Nat.toDigits 10 n) :
    x.isDigit = true :=
  Nat.isDigit_of_mem_toDigits (by decide) (by decide) h

/-- The characters of the text are digits and points. -/
theorem mem_host_v4 {x : Char} (h : x ∈ (IpAddress.v4 a b c d).host.toList) :
    x.isDigit = true ∨ x = '.' := by
  rw [toList_host_v4] at h
  simp only [List.intercalate, List.intersperse, List.flatten_cons, List.flatten_nil,
    List.mem_append, List.mem_singleton, List.not_mem_nil, or_false] at h
  rcases h with h | h | h | h | h | h | h
  all_goals first
    | exact Or.inr h
    | exact Or.inl (isDigit_of_mem_toDigits h)

theorem toLower_host_v4 :
    (IpAddress.v4 a b c d).host.toLower = (IpAddress.v4 a b c d).host := by
  change (IpAddress.v4 a b c d).host.map Char.toLower = _
  rw [← String.toList_inj, String.toList_map]
  refine Eq.trans (List.map_congr_left fun x hx => ?_) (List.map_id _)
  refine dif_neg ?_
  rintro ⟨hlow, hhigh⟩
  rcases mem_host_v4 hx with hdigit | rfl
  · have hrange := toNat_of_isDigit hdigit
    simp only [ge_iff_le, UInt32.le_iff_toNat_le] at hlow
    simp at hlow
    omega
  · exact absurd hlow (by decide)

theorem splitOn_host_v4 : (IpAddress.v4 a b c d).host.toList.splitOn '.' =
    [Nat.toDigits 10 a.val, Nat.toDigits 10 b.val, Nat.toDigits 10 c.val, Nat.toDigits 10 d.val] := by
  rw [toList_host_v4, List.splitOn_intercalate]
  · intro text htext hpoint
    simp only [List.mem_cons, List.not_mem_nil, or_false] at htext
    rcases htext with rfl | rfl | rfl | rfl <;>
      exact absurd (isDigit_of_mem_toDigits hpoint) (by decide)
  · simp

theorem octetsOf_host_v4 : octetsOf (IpAddress.v4 a b c d).host =
    [some (a.val : ℚ), some (b.val : ℚ), some (c.val : ℚ), some (d.val : ℚ)] := by
  have hnumber : ∀ n : Fin 256, number (String.ofList (Nat.toDigits 10 n.val)) = some (n.val : ℚ) := by
    intro n
    rw [← Nat.repr_eq_ofList_toDigits]
    exact number_repr (by omega)
  rw [octetsOf, splitOn_host_v4]
  simp only [List.map_cons, List.map_nil, hnumber]

/-- A text with another character is not that of the address. -/
theorem not_endsWith_host_v4 (suffix : String) (x : Char) (hx : x ∈ suffix.toList)
    (hdigit : x.isDigit = false) (hpoint : x ≠ '.') :
    endsWith (IpAddress.v4 a b c d).host suffix = false := by
  rw [endsWith, Bool.eq_false_iff]
  intro h
  rcases mem_host_v4 ((List.isSuffixOf_iff_suffix.1 h).subset hx) with hx | hx
  · rw [hx] at hdigit
    cases hdigit
  · exact hpoint hx

theorem host_v4_ne (text : String) (x : Char) (hx : x ∈ text.toList) (hdigit : x.isDigit = false)
    (hpoint : x ≠ '.') : (IpAddress.v4 a b c d).host ≠ text := by
  rintro rfl
  rcases mem_host_v4 hx with hx | hx
  · rw [hx] at hdigit
    cases hdigit
  · exact hpoint hx

/-- An address of version 4 passes only as a loopback or a private one. -/
theorem isLocal_of_isPrivateHostname_v4
    (h : isPrivateHostname (IpAddress.v4 a b c d).host = true) :
    (IpAddress.v4 a b c d).isLocal = true := by
  have hpoint : '.' ∈ (IpAddress.v4 a b c d).host.toList := by
    rw [toList_host_v4]
    simp [List.intercalate]
  unfold isPrivateHostname at h
  simp only [toLower_host_v4, octetsOf_host_v4, hpoint, decide_true, Bool.not_true, Bool.or_false,
    host_v4_ne "localhost" 'l' (by decide) (by decide) (by decide),
    host_v4_ne "::1" ':' (by decide) (by decide) (by decide),
    not_endsWith_host_v4 ".internal" 'l' (by decide) (by decide) (by decide),
    not_endsWith_host_v4 ".local" 'l' (by decide) (by decide) (by decide),
    not_endsWith_host_v4 ".svc" 's' (by decide) (by decide) (by decide),
    decide_false, Bool.false_or] at h
  simp only [IpAddress.isLocal, IpAddress.isLocalV4, Bool.or_eq_true, Bool.and_eq_true,
    decide_eq_true_eq]
  by_cases hloopback : (IpAddress.v4 a b c d).host = "127.0.0.1"
  · -- The text tells the octets.
    have hsplit : (IpAddress.v4 127 0 0 1).host = "127.0.0.1" := by decide
    have hdigits := congrArg (fun text => text.toList.splitOn '.') (hloopback.trans hsplit.symm)
    simp only [splitOn_host_v4] at hdigits
    have hvalue := congrArg (fun digits => Nat.ofDigitChars 10 digits 0) (List.cons.inj hdigits).1
    simp only [Nat.ofDigitChars_ten_toDigits] at hvalue
    exact Or.inl (Or.inl (Or.inl hvalue))
  · simp only [hloopback, decide_false, Bool.false_eq_true, if_false, Bool.and_eq_true,
      Bool.or_eq_true, decide_eq_true_eq] at h
    rcases h.2 with (ha | ⟨⟨ha, hlow⟩, hhigh⟩) | ⟨ha, hb⟩
    · exact Or.inl (Or.inl (Or.inr (by exact_mod_cast ha)))
    · refine Or.inl (Or.inr ⟨⟨?_, ?_⟩, ?_⟩)
      · exact_mod_cast ha
      · exact_mod_cast hlow
      · exact_mod_cast hhigh
    · refine Or.inr ⟨?_, ?_⟩
      · exact_mod_cast ha
      · exact_mod_cast hb

end V4

end ChecksAndBalances
