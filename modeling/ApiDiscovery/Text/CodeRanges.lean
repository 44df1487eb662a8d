/-!
# Sets of code points as ranges

A set of characters is a list of inclusive ranges of code points; a case mapping is a list of
runs that move every second or every code point by one distance. Membership and application
are the only operations, so a table can be read as data.
-/

namespace ApiDiscovery.Text

/-- Inclusive ranges of code points. -/
abbrev CodeRanges := List (Nat × Nat)

/-- Some range holds the code point. -/
def CodeRanges.contains (ranges : CodeRanges) (code : Nat) : Bool :=
  ranges.any fun r => r.1 ≤ code && code ≤ r.2

/-- The code points `first`, `first + step`, …, `last`, each mapped to itself plus `delta`. -/
structure CaseRun where
  first : Nat
  last : Nat
  step : Nat
  delta : Int

/-- The code point lies on the run. -/
def CaseRun.covers (run : CaseRun) (code : Nat) : Bool :=
  run.first ≤ code && code ≤ run.last && (code - run.first) % run.step == 0

/-- The image of `code` under the first run that covers it. -/
def mapCode (runs : List CaseRun) (code : Nat) : Nat :=
  match runs.find? fun run => run.covers code with
  | some run => (Int.ofNat code + run.delta).toNat
  | none => code

/-- The code points other than `code` itself that some run maps to `code`. -/
def preimages (runs : List CaseRun) (code : Nat) : List Nat :=
  runs.filterMap fun run =>
    let source := (Int.ofNat code - run.delta).toNat
    if run.covers source && source != code && mapCode runs source == code then some source
    else none

end ApiDiscovery.Text
