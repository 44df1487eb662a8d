import ApiDiscovery.Compression.PrefixCode

/-!
# Deflated data

Deflated data comes in blocks. A block holds bytes as they are, or symbols of two prefix codes,
which are fixed or stand at its start: a symbol is a byte, the end of the block, or a length, which
is followed by a distance and stands for bytes that were written before.
-/

namespace ApiDiscovery.Compression.Deflate

open Reading

/-! ## Lengths and distances -/

/-- The least length and the number of further bits of a length symbol, counted from the first. -/
def lengths : List (Nat × Nat) :=
  [(3, 0), (4, 0), (5, 0), (6, 0), (7, 0), (8, 0), (9, 0), (10, 0), (11, 1), (13, 1), (15, 1),
   (17, 1), (19, 2), (23, 2), (27, 2), (31, 2), (35, 3), (43, 3), (51, 3), (59, 3), (67, 4),
   (83, 4), (99, 4), (115, 4), (131, 5), (163, 5), (195, 5), (227, 5), (258, 0)]

/-- The least distance and the number of further bits of a distance symbol. -/
def distances : List (Nat × Nat) :=
  [(1, 0), (2, 0), (3, 0), (4, 0), (5, 1), (7, 1), (9, 2), (13, 2), (17, 3), (25, 3), (33, 4),
   (49, 4), (65, 5), (97, 5), (129, 6), (193, 6), (257, 7), (385, 7), (513, 8), (769, 8),
   (1025, 9), (1537, 9), (2049, 10), (3073, 10), (4097, 11), (6145, 11), (8193, 12), (12289, 12),
   (16385, 13), (24577, 13)]

/-- The number that a symbol and the bits after it stand for. -/
def extended (table : List (Nat × Nat)) (symbol : Nat) : Reading Nat :=
  match table[symbol]? with
  | none => throw .broken
  | some (least, count) => do return least + (← number count)

/-! ## Blocks of symbols -/

/-- The symbol that ends a block. -/
def endOfBlock : Nat := 256

/-- Reads the symbols of a block up to its end. -/
def readSymbols (literals backwards : PrefixCode) : Nat → Reading Unit
  | 0 => throw .cut
  | fuel + 1 => do
    let symbol ← literals.read
    if symbol < endOfBlock then
      write (UInt8.ofNat symbol)
      readSymbols literals backwards fuel
    else if symbol = endOfBlock then return
    else
      let length ← extended lengths (symbol - endOfBlock - 1)
      let distance ← extended distances (← backwards.read)
      require (distance ≤ (← get).written.size)
      times (writeAgain distance) length
      readSymbols literals backwards fuel

/-- The fixed code of bytes and lengths. -/
def fixedLiterals : Option PrefixCode :=
  PrefixCode.ofLengths? true
    (List.replicate 144 8 ++ List.replicate 112 9 ++ List.replicate 24 7 ++ List.replicate 8 8)

/-- The fixed code of distances. -/
def fixedDistances : Option PrefixCode := PrefixCode.ofLengths? true (List.replicate 32 5)

/-- Reads the symbols of a block with these codes, if they are codes. -/
def readCoded (literals backwards : Option PrefixCode) : Reading Unit := do
  match literals, backwards with
  | some literals, some backwards =>
    readSymbols literals backwards ((← get).bits.length + 1)
  | _, _ => throw .broken

/-! ## Codes at the start of a block -/

/-- The order in which the lengths of the words for lengths are given. -/
def lengthOrder : List Nat :=
  [16, 17, 18, 0, 8, 7, 9, 6, 10, 5, 11, 4, 12, 3, 13, 2, 14, 1, 15]

/-- Reads numbers of three bits. -/
def shortNumbers : Nat → Reading (List Nat)
  | 0 => return []
  | count + 1 => do
    let n ← number 3
    return n :: (← shortNumbers count)

/-- Reads the next length, which stands for none if the code has no words. -/
def lengthSymbol (code : PrefixCode) : Reading Nat := do
  if code.counts.isEmpty then
    let _ ← bit
    return 0
  else code.read

/-- Reads lengths until there are `wanted`; those read so far are in reverse. A symbol above
fifteen repeats the last length or zero. -/
def readLengths (code : PrefixCode) (wanted : Nat) : Nat → List Nat → Reading (List Nat)
  | 0, _ => throw .cut
  | fuel + 1, read => do
    if wanted ≤ read.length then return read.reverse
    let symbol ← lengthSymbol code
    let more ←
      if symbol < 16 then pure [symbol]
      else if symbol = 16 then do
        let count ← number 2
        match read with
        | [] => throw .broken
        | last :: _ => pure (List.replicate (3 + count) last)
      else if symbol = 17 then do pure (List.replicate (3 + (← number 3)) 0)
      else do pure (List.replicate (11 + (← number 7)) 0)
    require (read.length + more.length ≤ wanted)
    readLengths code wanted fuel (more ++ read)

/-- Reads a block that starts with its codes. -/
def readOwnCodes : Reading Unit := do
  let literalCount := 257 + (← number 5)
  let distanceCount := 1 + (← number 5)
  let lengthCount := 4 + (← number 4)
  require (literalCount ≤ 286 && distanceCount ≤ 30)
  let given ← shortNumbers lengthCount
  let lengthOf := fun symbol => ((lengthOrder.zip given).lookup symbol).getD 0
  match PrefixCode.ofLengths? false ((List.range 19).map lengthOf) with
  | none => throw .broken
  | some code =>
    let all ← readLengths code (literalCount + distanceCount) ((← get).bits.length + 1) []
    require ((all[endOfBlock]?).getD 0 ≠ 0)
    readCoded (PrefixCode.ofLengths? true (all.take literalCount))
      (PrefixCode.ofLengths? true (all.drop literalCount))

/-! ## Blocks -/

/-- Reads a block of bytes as they are. -/
def readStored : Reading Unit := do
  align
  let length ← number 16
  let complement ← number 16
  require (length + complement = 0xffff)
  times (do write (UInt8.ofNat (← number 8))) length

/-- Reads blocks up to the last one. -/
def readBlocks : Nat → Reading Unit
  | 0 => throw .cut
  | fuel + 1 => do
    let isLast ← bit
    match ← number 2 with
    | 0 => readStored
    | 1 => readCoded fixedLiterals fixedDistances
    | 2 => readOwnCodes
    | _ => throw .broken
    if isLast then return else readBlocks fuel

/-- Reads deflated data. -/
def read : Reading Unit := do readBlocks ((← get).bits.length + 1)

end ApiDiscovery.Compression.Deflate
