import ApiDiscovery.Pattern.Fault

/-!
# Widths of patterns

The least and the greatest number of characters a pattern can take, bounded above. A look-behind
needs a body for which the two are equal.
-/

namespace ApiDiscovery.Pattern

/-- The greatest number that a repetition may have, plus one; it stands for no bound. -/
def repeatBound : Nat := Nat.pow 2 32 - 1

/-- The least width of a look-behind that is too wide. -/
def lookbehindBound : Nat := Nat.pow 2 31

mutual

/-- The width of a node, given those of the groups. -/
def Node.width (groups : List (Option (Nat × Nat))) : Node → Nat × Nat
  | .single _ => (1, 1)
  | .anchor _ => (0, 0)
  | .branch alternatives => branchWidth groups alternatives
  | .group _ _ _ body => width groups body
  | .atomic body => width groups body
  | .repetition _ least most body =>
    let (low, high) := width groups body
    (low * least, high * most.getD repeatBound)
  | .backReference index => (groups[index]?.getD none).getD (0, 0)
  | .conditional _ yes no =>
    let (low, high) := width groups yes
    match no with
    | none => (0, high)
    | some no =>
      let (low', high') := width groups no
      (min low low', max high high')
  | .look _ _ _ => (0, 0)

/-- The width of a sequence. -/
def width (groups : List (Option (Nat × Nat))) : List Node → Nat × Nat
  | [] => (0, 0)
  | node :: rest =>
    let (low, high) := node.width groups
    let (low', high') := width groups rest
    (min (low + low') (repeatBound - 1), min (high + high') repeatBound)

/-- The width of alternatives. -/
def branchWidth (groups : List (Option (Nat × Nat))) : List (List Node) → Nat × Nat
  | [] => (repeatBound - 1, 0)
  | body :: rest =>
    let (low, high) := width groups body
    let (low', high') := branchWidth groups rest
    (min low low', max high high')

end

mutual

/-- The first fault that comes from widths or from a repetition where none is allowed. -/
def Node.widthFault (groups : List (Option (Nat × Nat))) (flags : Flags) : Node → Option Fault
  | .branch alternatives => branchFault groups flags alternatives
  | .group _ on off body => widthFault groups (flags.inside on off) body
  | .atomic body => widthFault groups flags body
  | .repetition greed _ _ body =>
    if flags.template then some (.templateRepeat greed) else widthFault groups flags body
  | .conditional _ yes no =>
    (widthFault groups flags yes).or
      (match no with
      | none => none
      | some no => widthFault groups flags no)
  | .look ahead _ body =>
    if ahead then widthFault groups flags body
    else
      let (low, high) := width groups body
      if low ≠ high then some .variableLookbehind
      else widthFault groups flags body
  | _ => none

/-- The first such fault of a sequence. -/
def widthFault (groups : List (Option (Nat × Nat))) (flags : Flags) : List Node → Option Fault
  | [] => none
  | node :: rest => (node.widthFault groups flags).or (widthFault groups flags rest)

/-- The first such fault of alternatives. -/
def branchFault (groups : List (Option (Nat × Nat))) (flags : Flags) :
    List (List Node) → Option Fault
  | [] => none
  | body :: rest => (widthFault groups flags body).or (branchFault groups flags rest)

end

end ApiDiscovery.Pattern
