/-!
# SHA-256

Token plaintexts are never stored; what is stored is the SHA-256 digest of their bytes.  This
module computes that digest on lists of bytes: the message is padded to whole blocks of 64 bytes,
each block is folded into the eight-word chaining state by sixty-four rounds, and the final state
is written out in big-endian order.

The sixteen-word message window slides by one word per round, so the message schedule is never
built as a table.  `length_digest` says that every digest has 32 bytes.
-/

namespace Gatehouse.Digest.Sha256

set_option autoImplicit false

/-! ## State and round functions -/

/-- The eight chaining words. -/
structure State where
  a : UInt32
  b : UInt32
  c : UInt32
  d : UInt32
  e : UInt32
  f : UInt32
  g : UInt32
  h : UInt32
  deriving DecidableEq

/-- The chaining state before the first block. -/
def State.initial : State :=
  ⟨0x6a09e667, 0xbb67ae85, 0x3c6ef372, 0xa54ff53a, 0x510e527f, 0x9b05688c, 0x1f83d9ab, 0x5be0cd19⟩

/-- The constants of the sixty-four rounds. -/
def roundConstants : List UInt32 :=
  [0x428a2f98, 0x71374491, 0xb5c0fbcf, 0xe9b5dba5, 0x3956c25b, 0x59f111f1, 0x923f82a4, 0xab1c5ed5,
   0xd807aa98, 0x12835b01, 0x243185be, 0x550c7dc3, 0x72be5d74, 0x80deb1fe, 0x9bdc06a7, 0xc19bf174,
   0xe49b69c1, 0xefbe4786, 0x0fc19dc6, 0x240ca1cc, 0x2de92c6f, 0x4a7484aa, 0x5cb0a9dc, 0x76f988da,
   0x983e5152, 0xa831c66d, 0xb00327c8, 0xbf597fc7, 0xc6e00bf3, 0xd5a79147, 0x06ca6351, 0x14292967,
   0x27b70a85, 0x2e1b2138, 0x4d2c6dfc, 0x53380d13, 0x650a7354, 0x766a0abb, 0x81c2c92e, 0x92722c85,
   0xa2bfe8a1, 0xa81a664b, 0xc24b8b70, 0xc76c51a3, 0xd192e819, 0xd6990624, 0xf40e3585, 0x106aa070,
   0x19a4c116, 0x1e376c08, 0x2748774c, 0x34b0bcb5, 0x391c0cb3, 0x4ed8aa4a, 0x5b9cca4f, 0x682e6ff3,
   0x748f82ee, 0x78a5636f, 0x84c87814, 0x8cc70208, 0x90befffa, 0xa4506ceb, 0xbef9a3f7, 0xc67178f2]

/-- Rotates a word to the right by `count` places. -/
@[inline] def rotateRight (word count : UInt32) : UInt32 :=
  (word >>> count) ||| (word <<< (32 - count))

/-- The schedule function that mixes the word fifteen places back. -/
@[inline] def scheduleLow (word : UInt32) : UInt32 :=
  rotateRight word 7 ^^^ rotateRight word 18 ^^^ (word >>> 3)

/-- The schedule function that mixes the word two places back. -/
@[inline] def scheduleHigh (word : UInt32) : UInt32 :=
  rotateRight word 17 ^^^ rotateRight word 19 ^^^ (word >>> 10)

/-- One round: the state after mixing in the round constant and the message word. -/
def round (constant word : UInt32) (state : State) : State :=
  let choice := (state.e &&& state.f) ^^^ ((~~~ state.e) &&& state.g)
  let majority := (state.a &&& state.b) ^^^ (state.a &&& state.c) ^^^ (state.b &&& state.c)
  let sumHigh := rotateRight state.e 6 ^^^ rotateRight state.e 11 ^^^ rotateRight state.e 25
  let sumLow := rotateRight state.a 2 ^^^ rotateRight state.a 13 ^^^ rotateRight state.a 22
  let first := state.h + sumHigh + choice + constant + word
  let second := sumLow + majority
  ⟨first + second, state.a, state.b, state.c, state.d + first, state.e, state.f, state.g⟩

/-- Runs one round for each constant, sliding the sixteen-word window as it goes. -/
def rounds : List UInt32 → List UInt32 → State → State
  | constant :: constants, word :: window, state =>
      let next := scheduleHigh (window.getD 13 0) + window.getD 8 0
        + scheduleLow (window.getD 0 0) + word
      rounds constants (window ++ [next]) (round constant word state)
  | _, _, state => state

/-! ## Blocks -/

/-- Reads big-endian words from consecutive groups of four bytes. -/
def wordsOfBytes : List UInt8 → List UInt32
  | a :: b :: c :: d :: rest =>
      ((a.toUInt32 <<< 24) ||| (b.toUInt32 <<< 16) ||| (c.toUInt32 <<< 8) ||| d.toUInt32)
        :: wordsOfBytes rest
  | _ => []

/-- The four bytes of a word, most significant first. -/
def bytesOfWord (word : UInt32) : List UInt8 :=
  [(word >>> 24).toUInt8, (word >>> 16).toUInt8, (word >>> 8).toUInt8, word.toUInt8]

/-- Folds one block of 64 bytes into the chaining state. -/
def compress (state : State) (block : List UInt8) : State :=
  let mixed := rounds roundConstants (wordsOfBytes block) state
  ⟨state.a + mixed.a, state.b + mixed.b, state.c + mixed.c, state.d + mixed.d,
   state.e + mixed.e, state.f + mixed.f, state.g + mixed.g, state.h + mixed.h⟩

/-- Folds the first `count` blocks of a message into the chaining state. -/
def compressBlocks : Nat → List UInt8 → State → State
  | 0, _, state => state
  | count + 1, message, state =>
      compressBlocks count (message.drop 64) (compress state (message.take 64))

/-- The eight bytes of a message's length in bits, most significant first. -/
def lengthBytes (size : Nat) : List UInt8 :=
  let bits := size * 8
  [56, 48, 40, 32, 24, 16, 8, 0].map fun shift => UInt8.ofNat (bits >>> shift)

/-- The message followed by a one bit, zero bits up to eight bytes short of a block, and its
length. -/
def pad (message : List UInt8) : List UInt8 :=
  let size := message.length
  message ++ 0x80 :: List.replicate ((119 - size % 64) % 64) 0 ++ lengthBytes size

/-! ## Digest -/

/-- The bytes of a chaining state. -/
def State.bytes (state : State) : List UInt8 :=
  bytesOfWord state.a ++ bytesOfWord state.b ++ bytesOfWord state.c ++ bytesOfWord state.d
    ++ bytesOfWord state.e ++ bytesOfWord state.f ++ bytesOfWord state.g ++ bytesOfWord state.h

/-- The SHA-256 digest of a byte string. -/
def digest (message : List UInt8) : List UInt8 :=
  let padded := pad message
  (compressBlocks (padded.length / 64) padded State.initial).bytes

/-- Every digest has 32 bytes. -/
theorem length_digest (message : List UInt8) : (digest message).length = 32 := rfl

end Gatehouse.Digest.Sha256
