import Gatehouse.Digest.Blake2b

/-!
# Argon2

The memory-hard password hash in its three variants and both versions, as a pure function of its
inputs.  The memory is an array of blocks, and a block is eight rows of sixteen words: mixing a
block runs the same permutation over its rows and then over its columns, where a column takes two
neighbouring words from each row.

The memory is filled pass by pass, slice by slice and lane by lane.  Inside a slice a block may
refer to any finished block of its own lane and to blocks of the other lanes in finished slices
only, so the lanes of a slice may be filled one after the other.

Inputs are assumed to be in range; `Parameters.inRange` is the range, and callers check it first.
A password may have any length, and `tag?` gives nothing for one that is too long to be hashed.
-/

namespace Gatehouse.Digest.Argon2

set_option autoImplicit false

/-! ## Inputs -/

/-- How the place of a reference block is chosen. -/
inductive Variant where
  /-- From the block before, so access follows the data. -/
  | dependent
  /-- From a counter, so access does not follow the data. -/
  | independent
  /-- From a counter in the first half of the first pass, from the block before afterwards. -/
  | hybrid
  deriving DecidableEq, Repr

/-- The number that stands for the variant in the digest of the inputs. -/
def Variant.code : Variant → Nat
  | .dependent => 0
  | .independent => 1
  | .hybrid => 2

/-- The two published versions, which differ in how later passes treat the old block. -/
inductive Version where
  /-- A new block overwrites the old one. -/
  | overwriting
  /-- A new block is combined with the old one. -/
  | combining
  deriving DecidableEq, Repr

/-- The number that stands for the version. -/
def Version.code : Version → Nat
  | .overwriting => 0x10
  | .combining => 0x13

/-- The costs and the shape of the memory. -/
structure Parameters where
  /-- Memory in kibibytes, that is, in blocks. -/
  memory : Nat
  /-- Passes over the memory. -/
  passes : Nat
  /-- Lanes. -/
  lanes : Nat
  deriving DecidableEq, Repr

/-- The costs for which the hash is defined. -/
def Parameters.inRange (parameters : Parameters) : Bool :=
  decide (8 ≤ parameters.memory) && decide (parameters.memory < UInt32.size) &&
  decide (1 ≤ parameters.passes) && decide (parameters.passes < UInt32.size) &&
  decide (1 ≤ parameters.lanes) && decide (parameters.lanes < 0x1000000) &&
  decide (8 * parameters.lanes ≤ parameters.memory)

/-- Blocks in a quarter of a lane. -/
def Parameters.segmentLength (parameters : Parameters) : Nat :=
  parameters.memory / (4 * parameters.lanes)

/-- Blocks in a lane. -/
def Parameters.laneLength (parameters : Parameters) : Nat :=
  4 * parameters.segmentLength

/-- Everything a tag depends on, apart from its length. -/
structure Input where
  variant : Variant
  version : Version
  parameters : Parameters
  password : List UInt8
  salt : List UInt8
  associated : List UInt8

/-! ## Blocks -/

/-- A block of 1024 bytes: eight rows of sixteen words. -/
structure Block where
  r0 : Words
  r1 : Words
  r2 : Words
  r3 : Words
  r4 : Words
  r5 : Words
  r6 : Words
  r7 : Words
  deriving DecidableEq

/-- The block of zero words. -/
def Block.zero : Block :=
  ⟨.zero, .zero, .zero, .zero, .zero, .zero, .zero, .zero⟩

/-- Combines two rows word by word with exclusive or. -/
def xorWords (x y : Words) : Words :=
  ⟨x.w0 ^^^ y.w0, x.w1 ^^^ y.w1, x.w2 ^^^ y.w2, x.w3 ^^^ y.w3,
   x.w4 ^^^ y.w4, x.w5 ^^^ y.w5, x.w6 ^^^ y.w6, x.w7 ^^^ y.w7,
   x.w8 ^^^ y.w8, x.w9 ^^^ y.w9, x.w10 ^^^ y.w10, x.w11 ^^^ y.w11,
   x.w12 ^^^ y.w12, x.w13 ^^^ y.w13, x.w14 ^^^ y.w14, x.w15 ^^^ y.w15⟩

/-- Combines two blocks word by word with exclusive or. -/
def Block.xor (x y : Block) : Block :=
  ⟨xorWords x.r0 y.r0, xorWords x.r1 y.r1, xorWords x.r2 y.r2, xorWords x.r3 y.r3,
   xorWords x.r4 y.r4, xorWords x.r5 y.r5, xorWords x.r6 y.r6, xorWords x.r7 y.r7⟩

/-- The block with the given 1024 bytes. -/
def Block.ofBytes (bytes : List UInt8) : Block :=
  let words := words64OfBytes bytes
  let row (index : Nat) : Words := Words.ofList (words.drop (16 * index))
  ⟨row 0, row 1, row 2, row 3, row 4, row 5, row 6, row 7⟩

/-- The 1024 bytes of a block. -/
def Block.bytes (block : Block) : List UInt8 :=
  [block.r0, block.r1, block.r2, block.r3, block.r4, block.r5, block.r6, block.r7].flatMap
    fun row => row.toList.flatMap bytesOfWord64

/-- Addition strengthened by twice the product of the low halves. -/
@[inline] def blend (x y : UInt64) : UInt64 :=
  x + y + 2 * (x &&& 0xFFFFFFFF) * (y &&& 0xFFFFFFFF)

/-- Mixes four words. -/
@[inline] def mix (a b c d : UInt64) : UInt64 × UInt64 × UInt64 × UInt64 :=
  let a := blend a b
  let d := rotateRight64 (d ^^^ a) 32
  let c := blend c d
  let b := rotateRight64 (b ^^^ c) 24
  let a := blend a b
  let d := rotateRight64 (d ^^^ a) 16
  let c := blend c d
  let b := rotateRight64 (b ^^^ c) 63
  (a, b, c, d)

/-- Permutes sixteen words: columns of the four-by-four square first, then its diagonals. -/
def permute (v : Words) : Words :=
  let (v0, v4, v8, v12) := mix v.w0 v.w4 v.w8 v.w12
  let (v1, v5, v9, v13) := mix v.w1 v.w5 v.w9 v.w13
  let (v2, v6, v10, v14) := mix v.w2 v.w6 v.w10 v.w14
  let (v3, v7, v11, v15) := mix v.w3 v.w7 v.w11 v.w15
  let (v0, v5, v10, v15) := mix v0 v5 v10 v15
  let (v1, v6, v11, v12) := mix v1 v6 v11 v12
  let (v2, v7, v8, v13) := mix v2 v7 v8 v13
  let (v3, v4, v9, v14) := mix v3 v4 v9 v14
  ⟨v0, v1, v2, v3, v4, v5, v6, v7, v8, v9, v10, v11, v12, v13, v14, v15⟩

/-- Exchanges rows and columns, where a column is two neighbouring words of each row. -/
def Block.transpose (b : Block) : Block :=
  ⟨⟨b.r0.w0, b.r0.w1, b.r1.w0, b.r1.w1, b.r2.w0, b.r2.w1, b.r3.w0, b.r3.w1,
    b.r4.w0, b.r4.w1, b.r5.w0, b.r5.w1, b.r6.w0, b.r6.w1, b.r7.w0, b.r7.w1⟩,
   ⟨b.r0.w2, b.r0.w3, b.r1.w2, b.r1.w3, b.r2.w2, b.r2.w3, b.r3.w2, b.r3.w3,
    b.r4.w2, b.r4.w3, b.r5.w2, b.r5.w3, b.r6.w2, b.r6.w3, b.r7.w2, b.r7.w3⟩,
   ⟨b.r0.w4, b.r0.w5, b.r1.w4, b.r1.w5, b.r2.w4, b.r2.w5, b.r3.w4, b.r3.w5,
    b.r4.w4, b.r4.w5, b.r5.w4, b.r5.w5, b.r6.w4, b.r6.w5, b.r7.w4, b.r7.w5⟩,
   ⟨b.r0.w6, b.r0.w7, b.r1.w6, b.r1.w7, b.r2.w6, b.r2.w7, b.r3.w6, b.r3.w7,
    b.r4.w6, b.r4.w7, b.r5.w6, b.r5.w7, b.r6.w6, b.r6.w7, b.r7.w6, b.r7.w7⟩,
   ⟨b.r0.w8, b.r0.w9, b.r1.w8, b.r1.w9, b.r2.w8, b.r2.w9, b.r3.w8, b.r3.w9,
    b.r4.w8, b.r4.w9, b.r5.w8, b.r5.w9, b.r6.w8, b.r6.w9, b.r7.w8, b.r7.w9⟩,
   ⟨b.r0.w10, b.r0.w11, b.r1.w10, b.r1.w11, b.r2.w10, b.r2.w11, b.r3.w10, b.r3.w11,
    b.r4.w10, b.r4.w11, b.r5.w10, b.r5.w11, b.r6.w10, b.r6.w11, b.r7.w10, b.r7.w11⟩,
   ⟨b.r0.w12, b.r0.w13, b.r1.w12, b.r1.w13, b.r2.w12, b.r2.w13, b.r3.w12, b.r3.w13,
    b.r4.w12, b.r4.w13, b.r5.w12, b.r5.w13, b.r6.w12, b.r6.w13, b.r7.w12, b.r7.w13⟩,
   ⟨b.r0.w14, b.r0.w15, b.r1.w14, b.r1.w15, b.r2.w14, b.r2.w15, b.r3.w14, b.r3.w15,
    b.r4.w14, b.r4.w15, b.r5.w14, b.r5.w15, b.r6.w14, b.r6.w15, b.r7.w14, b.r7.w15⟩⟩

/-- Permutes every row. -/
def Block.permuteRows (b : Block) : Block :=
  ⟨permute b.r0, permute b.r1, permute b.r2, permute b.r3,
   permute b.r4, permute b.r5, permute b.r6, permute b.r7⟩

/-- The compression of two blocks into one. -/
def compress (x y : Block) : Block :=
  let sum := x.xor y
  sum.xor sum.permuteRows.transpose.permuteRows.transpose

/-! ## Variable-length hash -/

/-- The blocks of 64 bytes after the first, each the digest of the one before; all but the last
contribute their first half. -/
def longDigest : Nat → Nat → List UInt8 → List UInt8
  | 0, last, previous => Blake2b.digest last previous
  | more + 1, last, previous =>
      let current := Blake2b.digest 64 previous
      current.take 32 ++ longDigest more last current

/-- The digest of `size` bytes of a message, for any positive `size`. -/
def variableDigest (size : Nat) (message : List UInt8) : List UInt8 :=
  let labelled := bytesOfNat32 size ++ message
  if size ≤ 64 then
    Blake2b.digest size labelled
  else
    let halves := (size + 31) / 32 - 2
    longDigest halves (size - 32 * halves) labelled

theorem length_longDigest {last : Nat} (isDigestSize : last ≤ 64) (more : Nat)
    (previous : List UInt8) : (longDigest more last previous).length = 32 * more + last := by
  induction more generalizing previous with
  | zero => rw [longDigest, Blake2b.length_digest isDigestSize, Nat.mul_zero, Nat.zero_add]
  | succ more ih =>
      rw [longDigest, List.length_append, List.length_take, Blake2b.length_digest (Nat.le_refl 64),
        ih]
      omega

/-- A digest of any size has as many bytes as were asked for. -/
theorem length_variableDigest (size : Nat) (message : List UInt8) :
    (variableDigest size message).length = size := by
  rw [variableDigest]
  split
  next small => exact Blake2b.length_digest small _
  next large =>
    rw [length_longDigest (by omega)]
    omega

/-! ## Filling the memory -/

/-- The digest of all inputs, including the length of the tag asked for. -/
def seed (input : Input) (tagLength : Nat) : List UInt8 :=
  let field (bytes : List UInt8) : List UInt8 := bytesOfNat32 bytes.length ++ bytes
  Blake2b.digest 64 <|
    bytesOfNat32 input.parameters.lanes ++ bytesOfNat32 tagLength
      ++ bytesOfNat32 input.parameters.memory ++ bytesOfNat32 input.parameters.passes
      ++ bytesOfNat32 input.version.code ++ bytesOfNat32 input.variant.code
      ++ field input.password ++ field input.salt ++ field [] ++ field input.associated

/-- The memory with the first two blocks of each lane set and the others zero. -/
def startMemory (input : Input) (seedBytes : List UInt8) : Array Block :=
  let laneLength := input.parameters.laneLength
  let first (lane column : Nat) : Block :=
    Block.ofBytes (variableDigest 1024 (seedBytes ++ bytesOfNat32 column ++ bytesOfNat32 lane))
  (List.range input.parameters.lanes).foldl
    (fun memory lane =>
      (memory.setIfInBounds (lane * laneLength) (first lane 0)).setIfInBounds
        (lane * laneLength + 1) (first lane 1))
    (Array.replicate (input.parameters.lanes * laneLength) Block.zero)

/-- Where the filling stands: which pass, which quarter of it and which lane. -/
structure Place where
  pass : Nat
  slice : Nat
  lane : Nat

/-- The block of pseudo-random words number `counter` of a segment whose references do not
follow the data. -/
def addressBlock (input : Input) (place : Place) (counter : Nat) : Block :=
  let header := Words.ofList
    [UInt64.ofNat place.pass, UInt64.ofNat place.lane, UInt64.ofNat place.slice,
     UInt64.ofNat (input.parameters.lanes * input.parameters.laneLength),
     UInt64.ofNat input.parameters.passes, UInt64.ofNat input.variant.code,
     UInt64.ofNat counter]
  compress .zero (compress .zero { Block.zero with r0 := header })

/-- Whether the references of a segment are taken from a counter. -/
def usesCounter (variant : Variant) (place : Place) : Bool :=
  match variant with
  | .dependent => false
  | .independent => true
  | .hybrid => place.pass == 0 && decide (place.slice < 2)

/-- The words a segment draws its references from, when they are taken from a counter. -/
def addressWords (input : Input) (place : Place) : Array UInt64 :=
  if usesCounter input.variant place then
    let blocks := (input.parameters.segmentLength + 127) / 128
    (List.range blocks).foldl
      (fun words index =>
        let block := addressBlock input place (index + 1)
        [block.r0, block.r1, block.r2, block.r3, block.r4, block.r5, block.r6, block.r7].foldl
          (fun words row => words ++ row.toList.toArray) words)
      #[]
  else #[]

/-- The place in memory of the block that block number `index` of a segment refers to, chosen by
the pseudo-random word. -/
def referenceIndex (parameters : Parameters) (place : Place) (index : Nat) (random : UInt64) :
    Nat :=
  let segmentLength := parameters.segmentLength
  let laneLength := parameters.laneLength
  let lane :=
    if place.pass == 0 && place.slice == 0 then place.lane
    else (random >>> 32).toNat % parameters.lanes
  let sameLane := lane == place.lane
  let finished := if place.pass == 0 then place.slice * segmentLength else 3 * segmentLength
  let available :=
    if sameLane then finished + index - 1
    else if index == 0 then finished - 1 else finished
  let position := random &&& 0xFFFFFFFF
  let squared := (position * position) >>> 32
  let offset := available - 1 - ((UInt64.ofNat available * squared) >>> 32).toNat
  let start := if place.pass == 0 || place.slice == 3 then 0 else (place.slice + 1) * segmentLength
  lane * laneLength + (start + offset) % laneLength

/-- Fills `count` blocks of a segment, beginning with block number `index` of it. -/
def fillBlocks (input : Input) (place : Place) (addresses : Array UInt64) :
    Nat → Nat → Array Block → Array Block
  | 0, _, memory => memory
  | count + 1, index, memory =>
      let parameters := input.parameters
      let laneLength := parameters.laneLength
      let column := place.slice * parameters.segmentLength + index
      let current := place.lane * laneLength + column
      let before := place.lane * laneLength + (if column == 0 then laneLength - 1 else column - 1)
      let previous := memory.getD before Block.zero
      let random :=
        if usesCounter input.variant place then addresses.getD index 0 else previous.r0.w0
      let reference := memory.getD (referenceIndex parameters place index random) Block.zero
      let mixed := compress previous reference
      let block :=
        if place.pass == 0 || input.version == Version.overwriting then mixed
        else mixed.xor (memory.getD current Block.zero)
      fillBlocks input place addresses count (index + 1) (memory.setIfInBounds current block)

/-- Fills one segment; the first two blocks of the first pass are already there. -/
def fillSegment (input : Input) (memory : Array Block) (place : Place) : Array Block :=
  let first := if place.pass == 0 && place.slice == 0 then 2 else 0
  fillBlocks input place (addressWords input place)
    (input.parameters.segmentLength - first) first memory

/-- The segments of a whole run, in the order in which they are filled. -/
def places (parameters : Parameters) : List Place :=
  (List.range parameters.passes).flatMap fun pass =>
    [0, 1, 2, 3].flatMap fun slice =>
      (List.range parameters.lanes).map fun lane => ⟨pass, slice, lane⟩

/-! ## Tag -/

/-- The tag of `size` bytes for an input. -/
def tag (input : Input) (size : Nat) : List UInt8 :=
  let laneLength := input.parameters.laneLength
  let start := startMemory input (seed input size)
  let memory := (places input.parameters).foldl (fillSegment input) start
  let last := (List.range input.parameters.lanes).foldl
    (fun sum lane => sum.xor (memory.getD (lane * laneLength + laneLength - 1) Block.zero))
    Block.zero
  variableDigest size last.bytes

/-- A tag has as many bytes as were asked for. -/
theorem length_tag (input : Input) (size : Nat) : (tag input size).length = size :=
  length_variableDigest size _

/-- The tag, which a password has only if its length fits in four bytes. -/
def tag? (input : Input) (size : Nat) : Option (List UInt8) :=
  if input.password.length < UInt32.size then some (tag input size) else none

end Gatehouse.Digest.Argon2
