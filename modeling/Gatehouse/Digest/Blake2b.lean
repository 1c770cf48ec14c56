/-!
# BLAKE2b

The unkeyed BLAKE2b hash with a digest of 1 to 64 bytes, on lists of bytes.  It is the hash under
Argon2: it digests the inputs, seeds the memory and folds the last block into the tag.

Sixteen 64-bit words are the working vector of a compression.  They are one structure with
unboxed fields, so a round reads and writes machine words.  The same structure serves as a row of
an Argon2 memory block.
-/

namespace Gatehouse.Digest

set_option autoImplicit false

/-- Sixteen 64-bit words. -/
structure Words where
  w0 : UInt64
  w1 : UInt64
  w2 : UInt64
  w3 : UInt64
  w4 : UInt64
  w5 : UInt64
  w6 : UInt64
  w7 : UInt64
  w8 : UInt64
  w9 : UInt64
  w10 : UInt64
  w11 : UInt64
  w12 : UInt64
  w13 : UInt64
  w14 : UInt64
  w15 : UInt64
  deriving DecidableEq

/-- Sixteen zero words. -/
def Words.zero : Words :=
  ⟨0, 0, 0, 0, 0, 0, 0, 0, 0, 0, 0, 0, 0, 0, 0, 0⟩

/-- The words in order. -/
def Words.toList (words : Words) : List UInt64 :=
  [words.w0, words.w1, words.w2, words.w3, words.w4, words.w5, words.w6, words.w7,
   words.w8, words.w9, words.w10, words.w11, words.w12, words.w13, words.w14, words.w15]

/-- The first sixteen words of a list, padded with zero words. -/
def Words.ofList (words : List UInt64) : Words :=
  let word (index : Nat) : UInt64 := words.getD index 0
  ⟨word 0, word 1, word 2, word 3, word 4, word 5, word 6, word 7,
   word 8, word 9, word 10, word 11, word 12, word 13, word 14, word 15⟩

/-- Rotates a 64-bit word to the right by `count` places. -/
@[inline] def rotateRight64 (word count : UInt64) : UInt64 :=
  (word >>> count) ||| (word <<< (64 - count))

/-- Reads a little-endian word from the first eight bytes. -/
def word64OfBytes (bytes : List UInt8) : UInt64 :=
  (bytes.take 8).foldr (fun byte word => (word <<< 8) ||| byte.toUInt64) 0

/-- Reads little-endian words from consecutive groups of eight bytes. -/
def words64OfBytes : List UInt8 → List UInt64
  | a :: b :: c :: d :: e :: f :: g :: h :: rest =>
      word64OfBytes [a, b, c, d, e, f, g, h] :: words64OfBytes rest
  | _ => []

/-- The eight bytes of a word, least significant first. -/
def bytesOfWord64 (word : UInt64) : List UInt8 :=
  [word.toUInt8, (word >>> 8).toUInt8, (word >>> 16).toUInt8, (word >>> 24).toUInt8,
   (word >>> 32).toUInt8, (word >>> 40).toUInt8, (word >>> 48).toUInt8, (word >>> 56).toUInt8]

/-- The four bytes of a number below 2^32, least significant first. -/
def bytesOfNat32 (value : Nat) : List UInt8 :=
  [UInt8.ofNat value, UInt8.ofNat (value >>> 8), UInt8.ofNat (value >>> 16),
   UInt8.ofNat (value >>> 24)]

namespace Blake2b

/-! ## Compression -/

/-- The initialization vector. -/
def initialWords : List UInt64 :=
  [0x6a09e667f3bcc908, 0xbb67ae8584caa73b, 0x3c6ef372fe94f82b, 0xa54ff53a5f1d36f1,
   0x510e527fade682d1, 0x9b05688c2b3e6c1f, 0x1f83d9abfb41bd6b, 0x5be0cd19137e2179]

/-- The order in which each of the twelve rounds takes the message words. -/
def messageOrders : List (List Nat) :=
  [[0, 1, 2, 3, 4, 5, 6, 7, 8, 9, 10, 11, 12, 13, 14, 15],
   [14, 10, 4, 8, 9, 15, 13, 6, 1, 12, 0, 2, 11, 7, 5, 3],
   [11, 8, 12, 0, 5, 2, 15, 13, 10, 14, 3, 6, 7, 1, 9, 4],
   [7, 9, 3, 1, 13, 12, 11, 14, 2, 6, 5, 10, 4, 0, 15, 8],
   [9, 0, 5, 7, 2, 4, 10, 15, 14, 1, 11, 12, 6, 8, 3, 13],
   [2, 12, 6, 10, 0, 11, 8, 3, 4, 13, 7, 5, 15, 14, 1, 9],
   [12, 5, 1, 15, 14, 13, 4, 10, 0, 7, 6, 3, 9, 2, 8, 11],
   [13, 11, 7, 14, 12, 1, 3, 9, 5, 0, 15, 4, 8, 6, 2, 10],
   [6, 15, 14, 9, 11, 3, 0, 8, 12, 2, 13, 7, 1, 4, 10, 5],
   [10, 2, 8, 4, 7, 6, 1, 5, 15, 11, 9, 14, 3, 12, 13, 0],
   [0, 1, 2, 3, 4, 5, 6, 7, 8, 9, 10, 11, 12, 13, 14, 15],
   [14, 10, 4, 8, 9, 15, 13, 6, 1, 12, 0, 2, 11, 7, 5, 3]]

/-- Mixes two message words into four words of the working vector. -/
@[inline] def mix (a b c d x y : UInt64) : UInt64 × UInt64 × UInt64 × UInt64 :=
  let a := a + b + x
  let d := rotateRight64 (d ^^^ a) 32
  let c := c + d
  let b := rotateRight64 (b ^^^ c) 24
  let a := a + b + y
  let d := rotateRight64 (d ^^^ a) 16
  let c := c + d
  let b := rotateRight64 (b ^^^ c) 63
  (a, b, c, d)

/-- One round: the columns of the working vector are mixed, then its diagonals. -/
def round (message : List UInt64) (v : Words) (order : List Nat) : Words :=
  let m := Words.ofList (order.map fun index => message.getD index 0)
  let (v0, v4, v8, v12) := mix v.w0 v.w4 v.w8 v.w12 m.w0 m.w1
  let (v1, v5, v9, v13) := mix v.w1 v.w5 v.w9 v.w13 m.w2 m.w3
  let (v2, v6, v10, v14) := mix v.w2 v.w6 v.w10 v.w14 m.w4 m.w5
  let (v3, v7, v11, v15) := mix v.w3 v.w7 v.w11 v.w15 m.w6 m.w7
  let (v0, v5, v10, v15) := mix v0 v5 v10 v15 m.w8 m.w9
  let (v1, v6, v11, v12) := mix v1 v6 v11 v12 m.w10 m.w11
  let (v2, v7, v8, v13) := mix v2 v7 v8 v13 m.w12 m.w13
  let (v3, v4, v9, v14) := mix v3 v4 v9 v14 m.w14 m.w15
  ⟨v0, v1, v2, v3, v4, v5, v6, v7, v8, v9, v10, v11, v12, v13, v14, v15⟩

/-- Folds one block of 128 bytes into the eight chaining words; `count` bytes have been taken so
far, this block included. -/
def compress (chain : List UInt64) (block : List UInt8) (count : Nat) (isLast : Bool) :
    List UInt64 :=
  let message := words64OfBytes block
  let low := initialWords.getD 4 0 ^^^ UInt64.ofNat count
  let high := initialWords.getD 5 0 ^^^ UInt64.ofNat (count / UInt64.size)
  let flag := if isLast then ~~~ (initialWords.getD 6 0) else initialWords.getD 6 0
  let start := Words.ofList
    (chain ++ initialWords.take 4 ++ [low, high, flag, initialWords.getD 7 0])
  let mixed := (messageOrders.foldl (round message) start).toList
  List.zipWith (· ^^^ ·) chain (List.zipWith (· ^^^ ·) (mixed.take 8) (mixed.drop 8))

/-- There are eight chaining words after a block if there were eight before. -/
theorem length_compress {chain : List UInt64} (eight : chain.length = 8) (block : List UInt8)
    (count : Nat) (isLast : Bool) : (compress chain block count isLast).length = 8 := by
  simp [compress, Words.toList, eight]

/-- Folds a whole message into the chaining words.  The last block, which may be short or empty,
is padded with zero bytes and marked as last. -/
def absorb : Nat → List UInt64 → List UInt8 → Nat → List UInt64
  | 0, chain, rest, taken =>
      compress chain (rest ++ List.replicate (128 - rest.length) 0) (taken + rest.length) true
  | blocks + 1, chain, rest, taken =>
      absorb blocks (compress chain (rest.take 128) (taken + 128) false) (rest.drop 128)
        (taken + 128)

/-- There are eight chaining words after a message if there were eight before. -/
theorem length_absorb {chain : List UInt64} (eight : chain.length = 8) (blocks : Nat)
    (rest : List UInt8) (taken : Nat) : (absorb blocks chain rest taken).length = 8 := by
  induction blocks generalizing chain rest taken with
  | zero => exact length_compress eight _ _ _
  | succ blocks ih => exact ih (length_compress eight _ _ _) _ _

/-! ## Digest -/

/-- The unkeyed digest of `size` bytes, for `size` from 1 to 64. -/
def digest (size : Nat) (message : List UInt8) : List UInt8 :=
  let parameters := 0x01010000 ^^^ UInt64.ofNat size
  let chain := (initialWords.getD 0 0 ^^^ parameters) :: initialWords.drop 1
  ((absorb ((message.length - 1) / 128) chain message 0).flatMap bytesOfWord64).take size

/-- A digest has as many bytes as were asked for. -/
theorem length_digest {size : Nat} (isDigestSize : size ≤ 64) (message : List UInt8) :
    (digest size message).length = size := by
  have eachWord : ∀ word : UInt64, (bytesOfWord64 word).length = 8 := fun _ => rfl
  rw [digest, List.length_take, List.length_flatMap, funext eachWord, List.map_const',
    List.sum_replicate_nat, length_absorb rfl]
  exact Nat.min_eq_left isDigestSize

end Blake2b

end Gatehouse.Digest
