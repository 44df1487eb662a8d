import ApiDiscovery.Pattern.Step

/-!
# How a pattern opens

A search passes over the places where a pattern cannot start. A pattern that opens with a code point
starts only at it. One that opens with a set is looked for at the members of that set, of which the
classes have the alphabet of the whole pattern, even if a group around the set has another.
-/

namespace ApiDiscovery.Pattern

/-- Whether the nodes open with a code point that is matched as it is, and whether they take no
character at all. -/
def opensWithCode (flags : Flags) : List Node → Bool × Bool
  | [] => (false, true)
  | .single (.code n) :: _ => (!codeFolds flags n, false)
  | .group _ on off body :: rest =>
    match opensWithCode (flags.inside on off) body with
    | (false, true) => opensWithCode flags rest
    | (opens, _) => (opens, false)
  | _ => (false, false)

/-- The code points that alternatives open with, if each opens with one as it is. -/
def openingCodes? (flags : Flags) : List (List Node) → Option (List SetItem)
  | [] => some []
  | (.single (.code n) :: _) :: rest =>
    if codeFolds flags n then none else (openingCodes? flags rest).map (.code n :: ·)
  | _ => none

/-- A member of a set that keeps a search from using the set. -/
def SetItem.hinders (flags : Flags) (item : SetItem) : Bool :=
  flags.ignoreCase &&
    match item with
    | .code n => hasCase flags n
    | .range first last => basicLast < last || rangeHasCase flags first last
    | .category _ _ => false

/-- The set that the nodes open with. -/
def openingSet? (flags : Flags) : List Node → Option (Bool × List SetItem)
  | .single (.code n) :: _ => if codeFolds flags n then none else some (false, [.code n])
  | .single (.set negated members) :: _ =>
    if members.any (SetItem.hinders flags) then none else some (negated, members)
  | .branch alternatives :: _ => (openingCodes? flags alternatives).map fun codes => (false, codes)
  | .group _ on off body :: _ => openingSet? (flags.inside on off) body
  | _ => none

/-- How a pattern opens, as far as a search makes use of it. -/
inductive Opening where
  | anyhow
  | code
  | set (negated : Bool) (members : List SetItem)
  deriving DecidableEq, Repr

/-- How the nodes open; a search makes no use of it if they can match the empty text. -/
def Opening.ofNodes (flags : Flags) (least : Nat) (nodes : List Node) : Opening :=
  if least = 0 then .anyhow
  else if (opensWithCode flags nodes).1 then .code
  else
    match openingSet? flags nodes with
    | some (negated, members) => .set negated members
    | none => .anyhow

/-- The places of a text where a pattern with this opening and least width is tried. -/
def Opening.places (opening : Opening) (flags : Flags) (least : Nat) (text : Array Char) :
    List Nat :=
  if text.size < least then []
  else
    match opening with
    | .anyhow => List.range (text.size - (least - 1) + 1)
    | .code => List.range text.size
    | .set negated members =>
      let plain := { flags with ignoreCase := false }
      (List.range text.size).filter fun position =>
        (text[position]?.map fun c => acceptsSet plain negated members c.toNat).getD false

end ApiDiscovery.Pattern
