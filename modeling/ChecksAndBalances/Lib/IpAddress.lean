import Mathlib.Data.Fin.VecNotation
import Mathlib.Tactic.SplitIfs

/-!
# Addresses of the Internet protocol

An address with its text as the host of a URL: four decimal numbers, or eight hexadecimal ones in
brackets whose longest run of zeros is compressed.
-/

namespace ChecksAndBalances.Lib

/-- An address: four octets, or eight pieces of 16 bits. -/
inductive IpAddress where
  | v4 (a b c d : Fin 256)
  | v6 (pieces : Fin 8 → Fin 65536)

namespace IpAddress

/-! ## Ranges -/

/-- The loopback network 127.0.0.0/8 and the private ones 10.0.0.0/8, 172.16.0.0/12 and
192.168.0.0/16. -/
def isLocalV4 (a b : ℕ) : Bool :=
  a = 127 || a = 10 || (a = 172 && 16 ≤ b && b ≤ 31) || (a = 192 && b = 168)

/-- Loopback or private: for version 6 the address ::1, the unique local ones fc00::/7, and the mapped
addresses of version 4 that are. -/
def isLocal : IpAddress → Bool
  | v4 a b _ _ => isLocalV4 a b
  | v6 p =>
    (p 0 = 0 && p 1 = 0 && p 2 = 0 && p 3 = 0 && p 4 = 0 && p 5 = 0 && p 6 = 0 && p 7 = 1) ||
      (p 0).val / 512 = 126 ||
      (p 0 = 0 && p 1 = 0 && p 2 = 0 && p 3 = 0 && p 4 = 0 && p 5 = 65535 &&
        isLocalV4 ((p 6).val / 256) ((p 6).val % 256))

/-! ## Texts -/

/-- A piece in hexadecimal, without leading zeros. -/
def hexPiece (n : ℕ) : List Char :=
  (if n < 16 then [n] else if n < 256 then [n / 16, n] else if n < 4096 then [n / 256, n / 16, n]
    else [n / 4096, n / 256, n / 16, n]).map fun digit => Nat.digitChar (digit % 16)

/-- The length of the run of zeros at an index. -/
def zeroRun (pieces : List ℕ) (i : ℕ) : ℕ := ((pieces.drop i).takeWhile fun n => n = 0).length

/-- The first longest run of at least two zeros, by its index and length. -/
def compressed (pieces : List ℕ) : Option (ℕ × ℕ) :=
  ((List.range pieces.length).map fun i => (i, zeroRun pieces i)).foldl
    (fun best run => if 2 ≤ run.2 ∧ best.all fun b => b.2 < run.2 then some run else best) none

/-- The pieces with colons between them. -/
def joined (pieces : List ℕ) : List Char := [':'].intercalate (pieces.map hexPiece)

/-- The text of eight pieces. -/
def v6Text (pieces : List ℕ) : List Char :=
  match compressed pieces with
  | none => joined pieces
  | some (i, length) => joined (pieces.take i) ++ ':' :: ':' :: joined (pieces.drop (i + length))

/-- The address as the host of a URL. -/
def host : IpAddress → String
  | v4 a b c d => ".".intercalate [toString a.val, toString b.val, toString c.val, toString d.val]
  | v6 pieces => String.ofList ('[' :: v6Text (List.ofFn fun i => (pieces i).val) ++ [']'])

example : (v6 ![0x2606, 0x4700, 0x4700, 0, 0, 0, 0, 0x1111]).host = "[2606:4700:4700::1111]" := by
  decide +kernel

/-! ## The characters of a text -/

theorem point_not_mem_hexPiece (n : ℕ) : '.' ∉ hexPiece n := by
  have hdigit : ∀ digit < 16, Nat.digitChar digit ≠ '.' := by decide
  unfold hexPiece
  rw [List.mem_map]
  rintro ⟨digit, -, h⟩
  exact hdigit _ (Nat.mod_lt digit (by decide)) h

theorem point_not_mem_joined (pieces : List ℕ) : '.' ∉ joined pieces := by
  unfold joined
  induction pieces with
  | nil => simp [List.intercalate]
  | cons n pieces ih =>
    cases pieces with
    | nil => simpa [List.intercalate] using point_not_mem_hexPiece n
    | cons next pieces =>
      rw [List.map_cons, List.map_cons, List.intercalate_cons_cons, ← List.map_cons]
      simp only [List.mem_append, List.mem_singleton, not_or]
      exact ⟨⟨point_not_mem_hexPiece n, by decide⟩, ih⟩

/-- No point is in an address of version 6. -/
theorem point_not_mem_host_v6 (pieces : Fin 8 → Fin 65536) : '.' ∉ (v6 pieces).host.toList := by
  have htext : '.' ∉ v6Text (List.ofFn fun i => (pieces i).val) := by
    unfold v6Text
    split
    · exact point_not_mem_joined _
    · simp only [List.mem_append, List.mem_cons, not_or]
      exact ⟨point_not_mem_joined _, by decide, by decide, point_not_mem_joined _⟩
  simp only [host, String.toList_ofList, List.mem_cons, List.mem_append, not_or]
  exact ⟨⟨by decide, htext⟩, by decide, by simp⟩

end IpAddress

end ChecksAndBalances.Lib
