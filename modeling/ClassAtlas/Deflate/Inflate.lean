import ClassAtlas.Deflate.Inflater

/-!
# Decompression

A stream is a sequence of blocks. A block is stored as it is, or written in
literals and copies of earlier output under two prefix codes, which are fixed or
given at the start of the block, themselves compressed.
-/

namespace ClassAtlas
namespace Deflate

def copyLengths : Array (Nat × Nat) :=
  #[(3, 0), (4, 0), (5, 0), (6, 0), (7, 0), (8, 0), (9, 0), (10, 0), (11, 1), (13, 1), (15, 1),
    (17, 1), (19, 2), (23, 2), (27, 2), (31, 2), (35, 3), (43, 3), (51, 3), (59, 3), (67, 4),
    (83, 4), (99, 4), (115, 4), (131, 5), (163, 5), (195, 5), (227, 5), (258, 0)]

def copyDistances : Array (Nat × Nat) :=
  #[(1, 0), (2, 0), (3, 0), (4, 0), (5, 1), (7, 1), (9, 2), (13, 2), (17, 3), (25, 3), (33, 4),
    (49, 4), (65, 5), (97, 5), (129, 6), (193, 6), (257, 7), (385, 7), (513, 8), (769, 8),
    (1025, 9), (1537, 9), (2049, 10), (3073, 10), (4097, 11), (6145, 11), (8193, 12),
    (12289, 12), (16385, 13), (24577, 13)]

def extended (table : Array (Nat × Nat)) (row : Nat) : Inflater Nat := do
  let (least, bits) ← Inflater.ofOption table[row]?
  return least + (← Inflater.number bits)

def endOfBlock : Nat :=
  256

/-- Literals and copies up to the end of a block. Each takes a bit at least, so
the bits of the stream bound their number. -/
def items (literals distances : PrefixCode) : Nat → Inflater Unit
  | 0 => Inflater.corrupt
  | bound + 1 => do
      let symbol ← Inflater.symbol literals
      if symbol < endOfBlock then
        Inflater.emit (UInt8.ofNat symbol)
        items literals distances bound
      else if symbol = endOfBlock then
        return ()
      else
        let length ← extended copyLengths (symbol - endOfBlock - 1)
        let distance ← extended copyDistances (← Inflater.symbol distances)
        Inflater.copy distance length
        items literals distances bound

def storedBlock : Inflater Unit := do
  Inflater.alignToByte
  let length ← Inflater.number 16
  let inverted ← Inflater.number 16
  if length + inverted = 0xFFFF then Inflater.verbatim length else Inflater.corrupt

def fixedLiterals : PrefixCode :=
  .ofLengths (List.replicate 144 8 ++ List.replicate 112 9 ++ List.replicate 24 7 ++
    List.replicate 8 8)

def fixedDistances : PrefixCode :=
  .ofLengths (List.replicate 32 5)

def lengthOrder : List Nat :=
  [16, 17, 18, 0, 8, 7, 9, 6, 10, 5, 11, 4, 12, 3, 13, 2, 14, 1, 15]

/-- The code for code lengths leaves no room. Without any string it is not corrupt
yet: each bit then stands for the length zero. -/
def lengthCode (count : Nat) : Inflater PrefixCode := do
  let given ← (lengthOrder.take count).mapM fun symbol => do
    return (symbol, ← Inflater.number 3)
  let lengths := (List.range 19).map fun symbol => (given.lookup symbol).getD 0
  if PrefixCode.isComplete lengths then return .ofLengths lengths
  else if lengths.all (· = 0) then return .constant 0
  else Inflater.corrupt

/-- So many code lengths; those known so far come last one first. A run repeats
the last length, or zero. -/
def codeLengths (code : PrefixCode) (count : Nat) : Nat → List Nat → Inflater (List Nat)
  | 0, _ => Inflater.corrupt
  | bound + 1, known => do
      if known.length = count then return known.reverse
      else if count < known.length then Inflater.corrupt
      else
        let symbol ← Inflater.symbol code
        if symbol < 16 then codeLengths code count bound (symbol :: known)
        else if symbol = 16 then
          let run := 3 + (← Inflater.number 2)
          let last ← Inflater.ofOption known.head?
          codeLengths code count bound (List.replicate run last ++ known)
        else
          let run ← if symbol = 17 then (3 + ·) <$> Inflater.number 3
            else (11 + ·) <$> Inflater.number 7
          codeLengths code count bound (List.replicate run 0 ++ known)

/-- The two codes at the start of a block that has its own. The end of the block
must have a string. -/
def givenCodes : Inflater (PrefixCode × PrefixCode) := do
  let literalCount := 257 + (← Inflater.number 5)
  let distanceCount := 1 + (← Inflater.number 5)
  let lengthCount := 4 + (← Inflater.number 4)
  if literalCount > 286 || distanceCount > 30 then Inflater.corrupt
  else
    let code ← lengthCode lengthCount
    let count := literalCount + distanceCount
    let lengths ← codeLengths code count (count + 1) []
    if lengths[endOfBlock]? = some 0 then Inflater.corrupt
    else
      return (← Inflater.ofOption (PrefixCode.ofLengths? (lengths.take literalCount)),
        ← Inflater.ofOption (PrefixCode.ofLengths? (lengths.drop literalCount)))

def blocks (bits : Nat) : Nat → Inflater Unit
  | 0 => Inflater.corrupt
  | bound + 1 => do
      let last ← Inflater.bit
      match ← Inflater.number 2 with
      | 0 => storedBlock
      | 1 => items fixedLiterals fixedDistances bits
      | 2 => do
          let (literals, distances) ← givenCodes
          items literals distances bits
      | _ => Inflater.corrupt
      if last = 1 then return () else blocks bits bound

/-- The output of a stream; what follows the last block is ignored. -/
def inflate (bytes : ByteArray) : Except Stop ByteArray :=
  let bits := 8 * bytes.size + 1
  ((blocks bits bits bytes).run ⟨0, ByteArray.empty⟩).map fun (_, progress) => progress.output

end Deflate
end ClassAtlas
