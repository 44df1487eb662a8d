import ApiDiscovery.Compression.Deflate

/-!
# Frames around deflated data

Deflated data is sent bare or in one of two frames, which say how it is compressed and have a check
sum of the bytes behind it. What follows a frame is not read.
-/

namespace ApiDiscovery.Compression

open Reading

/-! ## Check sums -/

/-- The check sum of two sums modulo 65521, of the bytes and of those sums. -/
def adler (bytes : Array UInt8) : Nat :=
  let (a, b) := bytes.foldl (fun (a, b) byte =>
    let a := (a + byte.toNat) % 65521
    (a, (b + a) % 65521)) (1, 0)
  b * 65536 + a

/-- The remainder after one more bit. -/
def cyclicStep (n : UInt32) : UInt32 :=
  if n % 2 = 1 then (n / 2) ^^^ 0xedb88320 else n / 2

/-- The remainder after one more byte. -/
def cyclicByte (n : UInt32) (b : UInt8) : UInt32 :=
  (List.range 8).foldl (fun n _ => cyclicStep n) (n ^^^ b.toUInt32)

/-- The cyclic check sum. -/
def cyclic (bytes : List UInt8) : Nat :=
  (bytes.foldl cyclicByte 0xffffffff ^^^ 0xffffffff).toNat

/-! ## Frames -/

/-- The number of the next bytes, the highest first. -/
def bigNumber : (count value : Nat) → Reading Nat
  | 0, value => return value
  | count + 1, value => do bigNumber count (256 * value + (← number 8))

/-- Reads the frame of two bytes, in which no data may be presupposed. -/
def readShortFrame : Reading Unit := do
  let method ← number 8
  let flags ← number 8
  require ((method * 256 + flags) % 31 = 0 && method % 16 = 8 && method / 16 ≤ 7)
  if flags / 32 % 2 = 1 then
    let _ ← number 32
    throw .broken
  Deflate.read
  align
  let sum ← bigNumber 4 0
  require (sum = adler (← get).written)

/-- Passes over bytes up to a zero. -/
def skipText : Nat → Reading Unit
  | 0 => throw .cut
  | fuel + 1 => do if (← number 8) = 0 then return else skipText fuel

/-- The check sum of what was read of the data since its start. -/
def sumSince (start : List Bool) : Reading Nat := do
  let count := (start.length - (← get).bits.length) / 8
  let byte := fun i =>
    UInt8.ofNat (((start.drop (8 * i)).take 8).foldr (fun b n => b.toNat + 2 * n) 0)
  return cyclic ((List.range count).map byte)

/-- Reads the frame of a file. Flags say whether there are further fields, a name, a comment, and a
check sum of the frame. -/
def readFileFrame : Reading Unit := do
  let start := (← get).bits
  let fuel := start.length + 1
  let mark ← number 16
  require (mark = 0x8b1f)
  let method ← number 8
  let flags ← number 8
  require (method = 8 && flags < 32)
  let _ ← number 48
  if flags.testBit 2 then
    let length ← number 16
    times (do let _ ← number 8) length
  if flags.testBit 3 then skipText fuel
  if flags.testBit 4 then skipText fuel
  if flags.testBit 1 then
    let sum ← sumSince start
    let given ← number 16
    require (given = sum % 65536)
  Deflate.read
  align
  let sum ← number 32
  require (sum = cyclic (← get).written.toList)
  let length ← number 32
  require (length = (← get).written.size % 4294967296)

/-! ## Decompression -/

/-- What a reading writes for some bytes; none if they are broken. Cut off data stands for what was
written up to there. -/
def decompress? (reading : Reading Unit) (bytes : List UInt8) : Option (List UInt8) :=
  match (reading.run).run ⟨bitsOf bytes, #[]⟩ with
  | (.error .broken, _) => none
  | (_, progress) => some progress.written.toList

/-- The bytes of a file that was compressed. -/
def fileBytes? (bytes : List UInt8) : Option (List UInt8) := decompress? readFileFrame bytes

/-- The bytes of deflated data, in the short frame or bare. -/
def deflatedBytes? (bytes : List UInt8) : Option (List UInt8) :=
  (decompress? readShortFrame bytes).or (decompress? Deflate.read bytes)

end ApiDiscovery.Compression
