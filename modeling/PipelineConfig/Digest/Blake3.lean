/-!
# BLAKE3

The unkeyed BLAKE3 digest of 32 bytes. The input is cut into chunks of 1024 bytes and those into
blocks of 64; the chunks are the leaves of a binary tree whose root gives the digest.
-/

namespace PipelineConfig.Blake3

/-- One column of the four by four state. -/
structure Column where
  /-- Word of the first row. -/
  a : UInt32
  /-- Word of the second row. -/
  b : UInt32
  /-- Word of the third row. -/
  c : UInt32
  /-- Word of the fourth row. -/
  d : UInt32

/-- The words every chunk starts from. -/
def initialWords : List UInt32 :=
  [0x6a09e667, 0xbb67ae85, 0x3c6ef372, 0xa54ff53a, 0x510e527f, 0x9b05688c, 0x1f83d9ab, 0x5be0cd19]

/-- Which word of a block stands at each place in the next round. -/
def schedule : List Nat := [2, 6, 3, 10, 7, 0, 4, 13, 1, 11, 12, 5, 9, 14, 15, 8]

/-- The bytes of a chunk. -/
def chunkSize : Nat := 1024

/-- The bytes of a block. -/
def blockSize : Nat := 64

/-- Marks of a block: the first of its chunk, the last, an inner node, and the root. -/
def chunkStart : UInt32 := 1

@[inherit_doc chunkStart]
def chunkEnd : UInt32 := 2

@[inherit_doc chunkStart]
def parent : UInt32 := 4

@[inherit_doc chunkStart]
def root : UInt32 := 8

/-- Rotate a word to the right. -/
def rotateRight (word : UInt32) (count : UInt32) : UInt32 :=
  (word >>> count) ||| (word <<< (32 - count))

/-- Mix two words of the block into one column. -/
def Column.mix (column : Column) (x y : UInt32) : Column :=
  let a := column.a + column.b + x
  let d := rotateRight (column.d ^^^ a) 16
  let c := column.c + d
  let b := rotateRight (column.b ^^^ c) 12
  let a := a + b + y
  let d := rotateRight (d ^^^ a) 8
  let c := c + d
  let b := rotateRight (b ^^^ c) 7
  ⟨a, b, c, d⟩

/-- Mix the words of a block into the columns, two words each. -/
def mixColumns : List Column → List UInt32 → List Column
  | column :: columns, x :: y :: words => column.mix x y :: mixColumns columns words
  | columns, _ => columns

/-- Put columns together from four rows. -/
def columnsOfRows : List UInt32 → List UInt32 → List UInt32 → List UInt32 → List Column
  | a :: as, b :: bs, c :: cs, d :: ds => ⟨a, b, c, d⟩ :: columnsOfRows as bs cs ds
  | _, _, _, _ => []

/-- Turn the second, third and fourth row to the left by one, two and three times `step`. -/
def turnRows (step : Nat) (columns : List Column) : List Column :=
  columnsOfRows (columns.map Column.a) ((columns.map Column.b).rotateLeft step)
    ((columns.map Column.c).rotateLeft (2 * step)) ((columns.map Column.d).rotateLeft (3 * step))

/-- One round: mix the columns, then the diagonals. -/
def mixRound (columns : List Column) (words : List UInt32) : List Column :=
  turnRows 3 (mixColumns (turnRows 1 (mixColumns columns (words.take 8))) (words.drop 8))

/-- The words of a block in the order of the next round. -/
def permute (words : List UInt32) : List UInt32 := schedule.map fun place => words.getD place 0

/-- A number of rounds over a block. -/
def mixRounds : Nat → List Column → List UInt32 → List Column
  | 0, columns, _ => columns
  | rounds + 1, columns, words => mixRounds rounds (mixRound columns words) (permute words)

/-- Four bytes, the least significant first, make a word. -/
def wordsOfBytes : List UInt8 → List UInt32
  | a :: b :: c :: d :: rest =>
    (a.toUInt32 ||| (b.toUInt32 <<< 8) ||| (c.toUInt32 <<< 16) ||| (d.toUInt32 <<< 24)) ::
      wordsOfBytes rest
  | _ => []

/-- The four bytes of a word, the least significant first. -/
def bytesOfWord (word : UInt32) : List UInt8 :=
  [word.toUInt8, (word >>> 8).toUInt8, (word >>> 16).toUInt8, (word >>> 24).toUInt8]

/-- Everything that goes into the compression of one block. -/
structure Block where
  /-- The chaining words before the block. -/
  chaining : List UInt32
  /-- The sixteen words of the block. -/
  words : List UInt32
  /-- The number of the chunk. -/
  chunk : Nat
  /-- The number of bytes that are input. -/
  size : Nat
  /-- The marks of the block. -/
  marks : UInt32

/-- The chaining words after a block. -/
def Block.compress (block : Block) : List UInt32 :=
  let low := UInt32.ofNat block.chunk
  let high := UInt32.ofNat (block.chunk >>> 32)
  let columns := columnsOfRows (block.chaining.take 4) (block.chaining.drop 4)
    (initialWords.take 4) [low, high, UInt32.ofNat block.size, block.marks]
  let mixed := mixRounds 7 columns block.words
  (mixed.map fun column => column.a ^^^ column.c) ++ (mixed.map fun column => column.b ^^^ column.d)

/-- Cut a list into pieces of `size + 1` members; the last piece may be shorter. -/
def pieces {α : Type} (size : Nat) : List α → List (List α)
  | [] => []
  | head :: rest => (head :: rest.take size) :: pieces size (rest.drop size)
termination_by members => members.length
decreasing_by simp only [List.length_drop, List.length_cons]; omega

/-- The block of input bytes, filled up with zeros. -/
def blockOfBytes (chaining : List UInt32) (chunk : Nat) (marks : UInt32) (bytes : List UInt8) :
    Block :=
  ⟨chaining, wordsOfBytes (bytes ++ List.replicate (blockSize - bytes.length) 0), chunk,
    bytes.length, marks⟩

/-- Run through the blocks of a chunk and leave the last one open. -/
def chunkBlocks (chaining : List UInt32) (chunk : Nat) (marks : UInt32) :
    List (List UInt8) → Block
  | [] => blockOfBytes chaining chunk (marks ||| chunkEnd) []
  | [bytes] => blockOfBytes chaining chunk (marks ||| chunkEnd) bytes
  | bytes :: rest => chunkBlocks (blockOfBytes chaining chunk marks bytes).compress chunk 0 rest

/-- The last block of a chunk. -/
def chunkBlock (chunk : Nat) (bytes : List UInt8) : Block :=
  chunkBlocks initialWords chunk chunkStart (pieces (blockSize - 1) bytes)

/-- The block of an inner node over two chaining values. -/
def parentBlock (marks : UInt32) (left right : List UInt32) : Block :=
  ⟨initialWords, left ++ right, 0, blockSize, marks ||| parent⟩

/-- Join neighbouring nodes; a last one without a neighbour moves up as it is. -/
def joinPairs : List (List UInt32) → List (List UInt32)
  | left :: right :: rest => (parentBlock 0 left right).compress :: joinPairs rest
  | rest => rest

theorem length_joinPairs_le (nodes : List (List UInt32)) :
    (joinPairs nodes).length ≤ nodes.length := by
  fun_induction joinPairs nodes with
  | case1 left right rest ih => simp only [List.length_cons]; omega
  | case2 rest => exact Nat.le_refl _

/-- The root words of a tree, level by level. -/
def rootWords : List (List UInt32) → List UInt32
  | [] => []
  | [node] => node
  | [left, right] => (parentBlock root left right).compress
  | first :: second :: third :: rest => rootWords (joinPairs (first :: second :: third :: rest))
termination_by nodes => nodes.length
decreasing_by
  have bound := length_joinPairs_le (third :: rest)
  simp only [joinPairs, List.length_cons] at *
  omega

/-- The digest as eight words. -/
def digestWords (bytes : List UInt8) : List UInt32 :=
  match pieces (chunkSize - 1) bytes with
  | [] => let block := chunkBlock 0 []; { block with marks := block.marks ||| root }.compress
  | [chunk] =>
    let block := chunkBlock 0 chunk
    { block with marks := block.marks ||| root }.compress
  | chunks => rootWords (chunks.mapIdx fun position chunk => (chunkBlock position chunk).compress)

/-- The digest of a byte string. -/
def digest (bytes : List UInt8) : List UInt8 := (digestWords bytes).flatMap bytesOfWord

/-- The lower-case hexadecimal digit of a number below sixteen. -/
def hexDigit (value : UInt8) : Char :=
  if value < 10 then Char.ofNat (48 + value.toNat) else Char.ofNat (87 + value.toNat)

/-- The two lower-case hexadecimal digits of a byte. -/
def hexDigits (byte : UInt8) : List Char := [hexDigit (byte >>> 4), hexDigit (byte &&& 15)]

/-- The digest in lower-case hexadecimal digits. -/
def hex (bytes : List UInt8) : String := String.ofList ((digest bytes).flatMap hexDigits)

end PipelineConfig.Blake3
