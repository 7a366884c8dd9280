/-
**BLAKE2b with a digest of 256 bits and no key.**

The message is cut into blocks of 128 bytes, the last one padded with zeros; each block is mixed into
a state of eight words together with the number of bytes read so far.

* `blocks` — the blocks of a message; the empty message has one.
* `hash256` — the digest of a message, 32 bytes.
-/

import StaticElf.Bytes

namespace StaticElf.Blake2b

/-- The initial words, which also fill the lower half of every mixing state. -/
def initial : Vector UInt64 8 :=
  #v[0x6a09e667f3bcc908, 0xbb67ae8584caa73b, 0x3c6ef372fe94f82b, 0xa54ff53a5f1d36f1,
    0x510e527fade682d1, 0x9b05688c2b3e6c1f, 0x1f83d9abfb41bd6b, 0x5be0cd19137e2179]

/-- The order in which each of the twelve rounds takes the words of a block. -/
def schedule : List (List Nat) := [
  [0, 1, 2, 3, 4, 5, 6, 7, 8, 9, 10, 11, 12, 13, 14, 15],
  [14, 10, 4, 8, 9, 15, 13, 6, 1, 12, 0, 2, 11, 7, 5, 3],
  [11, 8, 12, 0, 5, 2, 15, 13, 10, 14, 3, 6, 7, 1, 9, 4],
  [7, 9, 3, 1, 13, 12, 11, 14, 2, 6, 5, 10, 4, 0, 15, 8],
  [9, 0, 5, 7, 2, 4, 10, 15, 14, 1, 11, 12, 6, 8, 3, 13],
  [2, 12, 6, 10, 0, 11, 8, 3, 4, 13, 7, 5, 15, 14, 1, 9],
  [12, 5, 1, 15, 14, 13, 4, 10, 0, 7, 6, 3, 9, 2, 8, 11],
  [13, 11, 7, 14, 12, 1, 3, 9, 5, 0, 15, 4, 8, 6, 2, 10],
  [6, 15, 14, 9, 11, 3, 0, 8, 12, 2, 13, 7, 1, 4, 10, 5],
  [10, 2, 8, 4, 7, 6, 1, 5, 15, 11, 9, 14, 3, 12, 13, 0],
  [0, 1, 2, 3, 4, 5, 6, 7, 8, 9, 10, 11, 12, 13, 14, 15],
  [14, 10, 4, 8, 9, 15, 13, 6, 1, 12, 0, 2, 11, 7, 5, 3]]

/-- The eight mixing steps of a round: four columns, then four diagonals. -/
def lanes : List (Nat × Nat × Nat × Nat) :=
  [(0, 4, 8, 12), (1, 5, 9, 13), (2, 6, 10, 14), (3, 7, 11, 15),
    (0, 5, 10, 15), (1, 6, 11, 12), (2, 7, 8, 13), (3, 4, 9, 14)]

/-- A word turned right by `amount` bits, `amount` between 1 and 63. -/
def rotateRight (word amount : UInt64) : UInt64 :=
  word >>> amount ||| word <<< (64 - amount)

/-- The word at a place, zero outside. -/
def word {size : Nat} (words : Vector UInt64 size) (place : Nat) : UInt64 := words[place]?.getD 0

/-- One mixing step on four words of the state with two words of the block. -/
def mix (state : Vector UInt64 16) (lane : Nat × Nat × Nat × Nat) (x y : UInt64) :
    Vector UInt64 16 :=
  let (i, j, k, l) := lane
  let a := word state i + word state j + x
  let d := rotateRight (word state l ^^^ a) 32
  let c := word state k + d
  let b := rotateRight (word state j ^^^ c) 24
  let a := a + b + y
  let d := rotateRight (d ^^^ a) 16
  let c := c + d
  let b := rotateRight (b ^^^ c) 63
  (((state.setIfInBounds i a).setIfInBounds j b).setIfInBounds k c).setIfInBounds l d

/-- One round: the words of the block are taken two by two in the round's order. -/
def round (block : Vector UInt64 16) (state : Vector UInt64 16) (order : List Nat) :
    Vector UInt64 16 :=
  (lanes.zip (List.range 8)).foldl
    (fun state (lane, step) =>
      mix state lane (word block (order.getD (2 * step) 0)) (word block (order.getD (2 * step + 1) 0)))
    state

/-- Mixes one block into the state. `count` is the number of message bytes up to its end. -/
def compress (state : Vector UInt64 8) (block : Vector UInt64 16) (count : Nat) (last : Bool) :
    Vector UInt64 8 :=
  let lower := initial.setIfInBounds 4 (word initial 4 ^^^ UInt64.ofNat count)
  let lower := lower.setIfInBounds 5 (word lower 5 ^^^ UInt64.ofNat (count >>> 64))
  let lower := if last then lower.setIfInBounds 6 (word lower 6 ^^^ 0xffffffffffffffff) else lower
  let mixed := schedule.foldl (round block) (state ++ lower)
  Vector.ofFn fun i => word state i.val ^^^ word mixed i.val ^^^ word mixed (i.val + 8)

/-- The words of a block, with zeros after its last byte. -/
def blockWords (block : Bytes) : Vector UInt64 16 :=
  Vector.ofFn fun i => UInt64.ofNat (leValue ((block.drop (8 * i.val)).take 8))

/-- The blocks of a message: 128 bytes each but the last, which has at least one byte unless the
message is empty. -/
def blocks (message : Bytes) : List Bytes :=
  if (message.drop 128).isEmpty then [message]
  else message.take 128 :: blocks (message.drop 128)
  termination_by message.length
  decreasing_by
    rename_i more
    simp only [List.isEmpty_iff, List.drop_eq_nil_iff] at more
    rw [List.length_drop]
    omega

/-- Mixes all blocks into the state, `count` bytes having been read before. -/
def absorb (state : Vector UInt64 8) (count : Nat) : List Bytes → Vector UInt64 8
  | [] => state
  | [block] => compress state (blockWords block) (count + block.length) true
  | block :: rest =>
    absorb (compress state (blockWords block) (count + block.length) false)
      (count + block.length) rest

/-- The first state for a digest of 32 bytes without a key. -/
def start : Vector UInt64 8 := initial.setIfInBounds 0 (word initial 0 ^^^ 0x01010020)

/-- The 32-byte digest of a message. -/
def hash256 (message : Bytes) : Bytes :=
  ((absorb start 0 (blocks message)).toList.flatMap u64Bytes).take 32

end StaticElf.Blake2b
