import ApiDiscovery.Compression.Bits

/-!
# Prefix codes

A code gives each symbol a word of at most fifteen bits, none of which starts another. The lengths
of the words are enough to know it: words of one length follow one another in the order of their
symbols, and shorter words come before longer ones.
-/

namespace ApiDiscovery.Compression

/-- A prefix code: how many words there are of each length from one on, and the symbols in the order
of their words. -/
structure PrefixCode where
  counts : List Nat
  symbols : List Nat
  deriving DecidableEq, Repr

namespace PrefixCode

/-- The symbols whose words have the given length. -/
def symbolsOfLength (lengths : List Nat) (length : Nat) : List Nat :=
  lengths.zipIdx.filterMap fun (n, symbol) => if n = length then some symbol else none

/-- How many words of the longest length are still free after the words of each length, if there is
room for all of them. -/
def room? : (free : Nat) → (counts : List Nat) → Option Nat
  | free, [] => some free
  | free, count :: rest => if 2 * free < count then none else room? (2 * free - count) rest

/-- The code in which the words have these lengths; a symbol of length zero has none. The words fill
a code, but for one that has no word at all, and for one of a single bit where `single` allows
it. -/
def ofLengths? (single : Bool) (lengths : List Nat) : Option PrefixCode :=
  let longest := lengths.foldl max 0
  let groups := (List.range longest).map fun i => symbolsOfLength lengths (i + 1)
  let counts := groups.map List.length
  match room? 1 counts with
  | none => none
  | some free =>
    if free = 0 ∨ longest = 0 ∨ single ∧ longest = 1 then some ⟨counts, groups.flatten⟩ else none

/-- Reads the rest of a word: `word` are the bits read, `first` is the first word of the length, and
`skipped` symbols have shorter words. -/
def readFrom (symbols : List Nat) (word first skipped : Nat) : List Nat → Reading Nat
  | [] => throw .broken
  | count :: rest => do
    let word := 2 * word + (← Reading.bit).toNat
    let first := 2 * first
    if word < first + count then
      return (symbols[skipped + (word - first)]?).getD 0
    else readFrom symbols word (first + count) (skipped + count) rest

/-- Reads a symbol. A code without words takes a bit before it fails. -/
def read (code : PrefixCode) : Reading Nat := do
  if code.counts.isEmpty then
    let _ ← Reading.bit
    throw .broken
  else readFrom code.symbols 0 0 0 code.counts

end PrefixCode
end ApiDiscovery.Compression
