import Mathlib.Algebra.Group.Nat.Defs
import Mathlib.Data.List.Basic

/-!
# SHA-256

The hash of FIPS 180-4 over byte lists and the message authentication code HMAC over it, printed as
lowercase hexadecimal.  Words are naturals below `2 ^ 32`, so that digests of short inputs evaluate
in the kernel.
-/

namespace ChecksAndBalances.Lib.Sha256

def word (n : ℕ) : ℕ := n % 2 ^ 32

def rotr (x n : ℕ) : ℕ := (x >>> n) ||| word (x <<< (32 - n))

def smallSigma0 (x : ℕ) : ℕ := rotr x 7 ^^^ rotr x 18 ^^^ (x >>> 3)

def smallSigma1 (x : ℕ) : ℕ := rotr x 17 ^^^ rotr x 19 ^^^ (x >>> 10)

def bigSigma0 (x : ℕ) : ℕ := rotr x 2 ^^^ rotr x 13 ^^^ rotr x 22

def bigSigma1 (x : ℕ) : ℕ := rotr x 6 ^^^ rotr x 11 ^^^ rotr x 25

def ch (x y z : ℕ) : ℕ := (x &&& y) ^^^ ((x ^^^ 0xffffffff) &&& z)

def maj (x y z : ℕ) : ℕ := (x &&& y) ^^^ (x &&& z) ^^^ (y &&& z)

/-- The round constants. -/
def constants : List ℕ := [
  0x428a2f98, 0x71374491, 0xb5c0fbcf, 0xe9b5dba5, 0x3956c25b, 0x59f111f1, 0x923f82a4, 0xab1c5ed5,
  0xd807aa98, 0x12835b01, 0x243185be, 0x550c7dc3, 0x72be5d74, 0x80deb1fe, 0x9bdc06a7, 0xc19bf174,
  0xe49b69c1, 0xefbe4786, 0x0fc19dc6, 0x240ca1cc, 0x2de92c6f, 0x4a7484aa, 0x5cb0a9dc, 0x76f988da,
  0x983e5152, 0xa831c66d, 0xb00327c8, 0xbf597fc7, 0xc6e00bf3, 0xd5a79147, 0x06ca6351, 0x14292967,
  0x27b70a85, 0x2e1b2138, 0x4d2c6dfc, 0x53380d13, 0x650a7354, 0x766a0abb, 0x81c2c92e, 0x92722c85,
  0xa2bfe8a1, 0xa81a664b, 0xc24b8b70, 0xc76c51a3, 0xd192e819, 0xd6990624, 0xf40e3585, 0x106aa070,
  0x19a4c116, 0x1e376c08, 0x2748774c, 0x34b0bcb5, 0x391c0cb3, 0x4ed8aa4a, 0x5b9cca4f, 0x682e6ff3,
  0x748f82ee, 0x78a5636f, 0x84c87814, 0x8cc70208, 0x90befffa, 0xa4506ceb, 0xbef9a3f7, 0xc67178f2]

/-- The initial hash value. -/
def initial : List ℕ := [
  0x6a09e667, 0xbb67ae85, 0x3c6ef372, 0xa54ff53a, 0x510e527f, 0x9b05688c, 0x1f83d9ab, 0x5be0cd19]

/-- The next `n` words of the message schedule, from a window of its last sixteen words. -/
def schedule : ℕ → List ℕ → List ℕ
  | 0, _ => []
  | _ + 1, [] => []
  | n + 1, w :: rest =>
    w :: schedule n (rest ++ [word (w + smallSigma0 (rest.getD 0 0) + rest.getD 8 0 +
      smallSigma1 (rest.getD 13 0))])

/-- One round, on the sum of its constant and its schedule word. -/
def round (state : List ℕ) (kw : ℕ) : List ℕ :=
  match state with
  | [a, b, c, d, e, f, g, h] =>
    let t := h + bigSigma1 e + ch e f g + kw
    [word (t + bigSigma0 a + maj a b c), a, b, c, word (d + t), e, f, g]
  | _ => state

def compress (state block : List ℕ) : List ℕ :=
  let rounds := List.zipWith (· + ·) constants (schedule 64 block)
  List.zipWith (fun a b => word (a + b)) state (rounds.foldl round state)

/-- The message with its length mark, a multiple of 64 bytes. -/
def pad (bytes : List ℕ) : List ℕ :=
  let length := (List.range 8).map fun i => bytes.length * 8 / 2 ^ (8 * (7 - i)) % 256
  bytes ++ [0x80] ++ List.replicate ((119 - bytes.length % 64) % 64) 0 ++ length

def toWords : List ℕ → List ℕ
  | a :: b :: c :: d :: rest => (a * 2 ^ 24 + b * 2 ^ 16 + c * 2 ^ 8 + d) :: toWords rest
  | _ => []

def toBlocks : ℕ → List ℕ → List (List ℕ)
  | 0, _ => []
  | n + 1, words => words.take 16 :: toBlocks n (words.drop 16)

def hexDigit (n : ℕ) : Char := if n < 10 then Char.ofNat (48 + n) else Char.ofNat (87 + n)

def hexWord (w : ℕ) : List Char := (List.range 8).map fun i => hexDigit (w / 16 ^ (7 - i) % 16)

/-- The words of the digest. -/
def hash (bytes : List ℕ) : List ℕ :=
  let message := pad bytes
  let blocks := toBlocks (message.length / 64) (toWords message)
  blocks.foldl compress initial

/-- The digest of a byte list, in lowercase hexadecimal. -/
def digest (bytes : List UInt8) : String :=
  String.ofList ((hash (bytes.map UInt8.toNat)).flatMap hexWord)

/-- The bytes of a word, the highest first. -/
def wordBytes (w : ℕ) : List ℕ := (List.range 4).map fun i => w / 256 ^ (3 - i) % 256

/-- The key as one block: a long one is hashed first. -/
def keyBlock (key : List ℕ) : List ℕ :=
  let key := if 64 < key.length then (hash key).flatMap wordBytes else key
  key ++ List.replicate (64 - key.length) 0

/-- HMAC of a byte list under a key, in lowercase hexadecimal. -/
def hmac (key bytes : List UInt8) : String :=
  let block := keyBlock (key.map UInt8.toNat)
  let inner := hash (block.map (· ^^^ 0x36) ++ bytes.map UInt8.toNat)
  let outer := hash (block.map (· ^^^ 0x5c) ++ inner.flatMap wordBytes)
  String.ofList (outer.flatMap hexWord)

/-- HMAC of a byte list under a key, as bytes. -/
def hmacBytes (key bytes : List UInt8) : List UInt8 :=
  let block := keyBlock (key.map UInt8.toNat)
  let inner := hash (block.map (· ^^^ 0x36) ++ bytes.map UInt8.toNat)
  let outer := hash (block.map (· ^^^ 0x5c) ++ inner.flatMap wordBytes)
  (outer.flatMap wordBytes).map UInt8.ofNat

-- The one-block example of the standard.
example : digest "abc".toUTF8.data.toList =
    "ba7816bf8f01cfea414140de5dae2223b00361a396177a9cb410ff61f20015ad" := by
  decide +kernel

example : hmac "Jefe".toUTF8.data.toList "what do ya want for nothing?".toUTF8.data.toList =
    "5bdcc146bf60754e6a042426089575c75a003f089d2739839dec58b964ec3843" := by
  decide +kernel

/-! ## Lengths -/

theorem length_foldl {β : Type} {f : List ℕ → β → List ℕ}
    (h : ∀ state b, (f state b).length = state.length) (bs : List β) (state : List ℕ) :
    (bs.foldl f state).length = state.length := by
  induction bs generalizing state with
  | nil => rfl
  | cons b bs ih => rw [List.foldl_cons, ih, h]

theorem length_round (state : List ℕ) (kw : ℕ) : (round state kw).length = state.length := by
  unfold round
  split <;> rfl

theorem length_compress (state block : List ℕ) : (compress state block).length = state.length := by
  simp [compress, length_foldl length_round]

theorem length_hash (bytes : List ℕ) : (hash bytes).length = 8 :=
  length_foldl length_compress _ initial

/-- A digest of bytes has 32 of them. -/
theorem length_hmacBytes (key bytes : List UInt8) : (hmacBytes key bytes).length = 32 := by
  simp [hmacBytes, wordBytes, List.length_flatMap, length_hash]

theorem length_hexWords (words : List ℕ) : (words.flatMap hexWord).length = 8 * words.length := by
  simp [hexWord, List.length_flatMap, Nat.mul_comm]

theorem exists_of_mem_hexWords {words : List ℕ} {c : Char} (h : c ∈ words.flatMap hexWord) :
    ∃ n < 16, c = hexDigit n := by
  obtain ⟨w, -, hw⟩ := List.mem_flatMap.1 h
  obtain ⟨i, -, rfl⟩ := List.mem_map.1 hw
  exact ⟨_, Nat.mod_lt _ (by decide), rfl⟩

end ChecksAndBalances.Lib.Sha256
