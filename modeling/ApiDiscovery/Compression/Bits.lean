/-!
# Reading bits

Compressed data is a stream of bits, the lowest bit of each byte first. Data may end early: what was
written up to there stands, and it is not a fault. Reading therefore stops for one of two reasons.
-/

namespace ApiDiscovery.Compression

/-- Why reading stops before its end: the data is cut off, or it is no compressed data. -/
inductive Halt where
  | cut
  | broken
  deriving DecidableEq, Repr

/-- The bits still to be read and the bytes written so far. -/
structure Progress where
  bits : List Bool
  written : Array UInt8

/-- A reading step; what was written before it stops is kept. -/
abbrev Reading (α : Type) := ExceptT Halt (StateM Progress) α

/-- The bits of a byte, the lowest first. -/
def bitsOfByte (b : UInt8) : List Bool := (List.range 8).map fun i => b.toNat.testBit i

/-- The bits of some bytes. -/
def bitsOf (bytes : List UInt8) : List Bool := bytes.flatMap bitsOfByte

namespace Reading

/-- The next bit. -/
def bit : Reading Bool := do
  match (← get).bits with
  | [] => throw .cut
  | b :: rest =>
    modify fun p => { p with bits := rest }
    return b

/-- The number of the next bits, the lowest first. -/
def number : Nat → Reading Nat
  | 0 => return 0
  | count + 1 => do
    let b ← bit
    return b.toNat + 2 * (← number count)

/-- Goes on at the next whole byte. -/
def align : Reading Unit :=
  modify fun p => { p with bits := p.bits.drop (p.bits.length % 8) }

/-- Data that does not have this property is broken. -/
def require (holds : Bool) : Reading Unit := if holds then return else throw .broken

/-- Writes a byte. -/
def write (b : UInt8) : Reading Unit := modify fun p => { p with written := p.written.push b }

/-- Writes the byte that stands some way back. -/
def writeAgain (distance : Nat) : Reading Unit := do
  let written := (← get).written
  write ((written[written.size - distance]?).getD 0)

/-- Does a step a number of times. -/
def times (step : Reading Unit) : Nat → Reading Unit
  | 0 => return
  | count + 1 => do
    step
    times step count

end Reading
end ApiDiscovery.Compression
