/-!
# BLAKE3

The 32-byte BLAKE3 hash. The input is cut into chunks of 1024 bytes and a chunk into blocks of 64;
a chunk's blocks are compressed one after the other, and the chunks are joined by a binary tree in
which every left side is a full one.

## Algorithm

`compress` runs seven rounds over sixteen words, permuting the message between them. `tree` joins
the chunks by recursion on their number: the left side is the largest power of two below it.
The last compression of all carries the flag of the root.
-/

namespace Emend.Digest.Blake3

/-- The eight words of a chaining value. -/
abbrev Words := Vector UInt32 8

/-- The sixteen words of a message block. -/
abbrev Block := Vector UInt32 16

/-- The initial chaining value. -/
def start : Words := #v[0x6a09e667, 0xbb67ae85, 0x3c6ef372, 0xa54ff53a,
  0x510e527f, 0x9b05688c, 0x1f83d9ab, 0x5be0cd19]

/-- Marks the first block of a chunk. -/
def chunkStart : UInt32 := 1

/-- Marks the last block of a chunk. -/
def chunkEnd : UInt32 := 2

/-- Marks the join of two subtrees. -/
def parent : UInt32 := 4

/-- Marks the last compression. -/
def root : UInt32 := 8

/-- Turns a word to the right. -/
def rotate (x n : UInt32) : UInt32 := (x >>> n) ||| (x <<< (32 - n))

/-- Mixes two message words into four words of the state. -/
def mix (v : Block) (a b c d : Fin 16) (x y : UInt32) : Block :=
  let va := v[a] + v[b] + x
  let vd := rotate (v[d] ^^^ va) 16
  let vc := v[c] + vd
  let vb := rotate (v[b] ^^^ vc) 12
  let va := va + vb + y
  let vd := rotate (vd ^^^ va) 8
  let vc := vc + vd
  let vb := rotate (vb ^^^ vc) 7
  (((v.set a va).set b vb).set c vc).set d vd

/-- One round: the columns, then the diagonals. -/
def round (v m : Block) : Block :=
  let v := mix v 0 4 8 12 m[0] m[1]
  let v := mix v 1 5 9 13 m[2] m[3]
  let v := mix v 2 6 10 14 m[4] m[5]
  let v := mix v 3 7 11 15 m[6] m[7]
  let v := mix v 0 5 10 15 m[8] m[9]
  let v := mix v 1 6 11 12 m[10] m[11]
  let v := mix v 2 7 8 13 m[12] m[13]
  mix v 3 4 9 14 m[14] m[15]

/-- The message as the next round takes it. -/
def permute (m : Block) : Block :=
  #v[m[2], m[6], m[3], m[10], m[7], m[0], m[4], m[13],
    m[1], m[11], m[12], m[5], m[9], m[14], m[15], m[8]]

/-- `n` rounds. -/
def rounds : Nat → Block → Block → Block
  | 0, v, _ => v
  | n + 1, v, m => rounds n (round v m) (permute m)

/-- Compresses a block of `length` bytes into a chaining value. -/
def compress (h : Words) (m : Block) (counter : UInt64) (length flags : UInt32) : Words :=
  let v : Block := #v[h[0], h[1], h[2], h[3], h[4], h[5], h[6], h[7],
    start[0], start[1], start[2], start[3],
    counter.toUInt32, (counter >>> 32).toUInt32, length, flags]
  let v := rounds 7 v m
  #v[v[0] ^^^ v[8], v[1] ^^^ v[9], v[2] ^^^ v[10], v[3] ^^^ v[11],
    v[4] ^^^ v[12], v[5] ^^^ v[13], v[6] ^^^ v[14], v[7] ^^^ v[15]]

/-- The byte at an index, zero behind the end. -/
def byteAt (bytes : ByteArray) (i : Nat) : UInt32 :=
  (bytes[i]?.getD 0).toUInt32

/-- The word whose four bytes start at an index, the lowest first. -/
def wordAt (bytes : ByteArray) (i : Nat) : UInt32 :=
  byteAt bytes i ||| (byteAt bytes (i + 1) <<< 8) ||| (byteAt bytes (i + 2) <<< 16) |||
    (byteAt bytes (i + 3) <<< 24)

/-- The block that starts at an index, filled up with zeros. -/
def blockAt (bytes : ByteArray) (i : Nat) : Block :=
  .ofFn fun k => wordAt bytes (i + 4 * k.val)

/-- The compression that gives a node of the tree, waiting for its last flags. -/
abbrev Node := UInt32 → Words

/-- The blocks of the chunk with the given number, from `offset` to `stop`. The last block is left
to be compressed; `left` bounds the number of blocks. -/
def chunk (bytes : ByteArray) (counter : UInt64) (stop : Nat) :
    (left offset : Nat) → (flags : UInt32) → Words → Node
  | 0, offset, flags, h => fun last =>
    compress h (blockAt bytes offset) counter (stop - offset).toUInt32 (flags ||| chunkEnd ||| last)
  | left + 1, offset, flags, h =>
    if stop ≤ offset + 64 then chunk bytes counter stop 0 offset flags h
    else chunk bytes counter stop left (offset + 64) 0
      (compress h (blockAt bytes offset) counter 64 flags)

/-- The join of two subtrees. -/
def join (l r : Words) : Node := fun last =>
  compress start
    #v[l[0], l[1], l[2], l[3], l[4], l[5], l[6], l[7],
      r[0], r[1], r[2], r[3], r[4], r[5], r[6], r[7]] 0 64 (parent ||| last)

/-- The largest power of two below `n`, which is above 1. -/
def leftSize (n : Nat) : Nat := Nat.pow 2 (Nat.log2 (n - 1))

theorem leftSize_lt {n : Nat} (h : 1 < n) : leftSize n < n := by
  have : leftSize n ≤ n - 1 := Nat.log2_self_le (by omega)
  omega

theorem leftSize_pos (n : Nat) : 0 < leftSize n := Nat.pow_pos (by decide)

/-- The tree over `count` chunks from the chunk `first`. -/
def tree (bytes : ByteArray) (first count : Nat) : Node :=
  if h : 1 < count then
    let left := leftSize count
    join (tree bytes first left 0) (tree bytes (first + left) (count - left) 0)
  else
    let stop := min bytes.size (1024 * (first + 1))
    chunk bytes first.toUInt64 stop 15 (1024 * first) chunkStart start
termination_by count
decreasing_by
  · exact leftSize_lt h
  · exact Nat.sub_lt (Nat.lt_of_succ_lt h) (leftSize_pos count)

/-- The bytes of a word, the lowest first. -/
def wordBytes (w : UInt32) : List UInt8 :=
  [w.toUInt8, (w >>> 8).toUInt8, (w >>> 16).toUInt8, (w >>> 24).toUInt8]

/-- The hash of the bytes. -/
def hash (bytes : ByteArray) : List UInt8 :=
  let chunks := max 1 ((bytes.size + 1023) / 1024)
  (tree bytes 0 chunks root).toList.flatMap wordBytes

end Emend.Digest.Blake3
