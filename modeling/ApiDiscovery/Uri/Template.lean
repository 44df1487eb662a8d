import ApiDiscovery.Uri.Percent
import ApiDiscovery.Text.Quoted

/-!
# Path templates

A template is literal text with placeholders: `{name}` takes a value with every reserved
character escaped, `{+name}` keeps the reserved characters of its value. Text in braces that is
empty or holds a brace is literal. Writing the segments back gives the template.
-/

namespace ApiDiscovery.Uri

/-- A part of a template. -/
inductive Segment where
  | literal (text : List Char)
  | simple (name : List Char)
  | reserved (name : List Char)
  deriving DecidableEq, Repr

namespace Segment

/-- The name of a placeholder. -/
def name? : Segment → Option String
  | literal _ => none
  | simple name => some (String.ofList name)
  | reserved name => some (String.ofList name)

/-- The segment as it stands in a template. -/
def source : Segment → List Char
  | literal text => text
  | simple name => '\x7b' :: (name ++ ['\x7d'])
  | reserved name => '\x7b' :: '+' :: (name ++ ['\x7d'])

/-- The text of a value for a placeholder whose value may keep its reserved characters. -/
def encodeReserved (value : String) : List Char :=
  Percent.encode (fun c => Percent.isUnreserved c || Percent.isReserved c) value.toList

/-- The text of a value for a placeholder that stands for one part of a path. -/
def encodeSimple (value : String) : List Char := Percent.encode Percent.isUnreserved value.toList

end Segment

namespace Template

/-- The character may stand in the name of a placeholder. -/
def isNameChar (c : Char) : Bool := c != '\x7b' && c != '\x7d'

/-- The placeholder with the text between two braces as its inside. -/
def placeholder (inside : List Char) : Segment :=
  match inside with
  | '+' :: c :: rest => .reserved (c :: rest)
  | _ => .simple inside

/-- The placeholder that an opening brace before this text starts, and the text after it. -/
def placeholder? (s : List Char) : Option (Segment × List Char) :=
  let inside := s.takeWhile isNameChar
  match s.drop inside.length with
  | '\x7d' :: rest => if inside.isEmpty then none else some (placeholder inside, rest)
  | _ => none

/-- A placeholder takes at least one character of the text. -/
theorem placeholder?_length {s rest : List Char} {segment : Segment}
    (h : placeholder? s = some (segment, rest)) : rest.length < s.length := by
  unfold placeholder? at h
  simp only at h
  split at h
  · next heq =>
    split at h
    · simp at h
    · simp only [Option.some.injEq, Prod.mk.injEq] at h
      obtain ⟨-, rfl⟩ := h
      have := congrArg List.length heq
      simp at this
      omega
  · simp at h

/-- The segments with a character before them. -/
def addLiteral (c : Char) : List Segment → List Segment
  | .literal text :: others => .literal (c :: text) :: others
  | segments => .literal [c] :: segments

/-- The segments of a template. -/
def parse : List Char → List Segment
  | [] => []
  | c :: rest =>
    if c = '\x7b' then
      match _h : placeholder? rest with
      | some (segment, after) => segment :: parse after
      | none => addLiteral c (parse rest)
    else addLiteral c (parse rest)
termination_by s => s.length
decreasing_by
  · have := placeholder?_length _h
    simp only [List.length_cons]
    omega
  · simp
  · simp

end Template

/-- A path template: its text and its segments. -/
structure Template where
  text : String
  segments : List Segment
  deriving DecidableEq, Repr

namespace Template

/-- The template with this text. -/
def ofText (text : String) : Template := ⟨text, parse text.toList⟩

/-- The names of the placeholders in template order. -/
def placeholders (t : Template) : List String := t.segments.filterMap Segment.name?

/-- The placeholders for which `values` has no value. -/
def missing (t : Template) (values : List (String × String)) : List String :=
  t.placeholders.filter fun name => (values.lookup name).isNone

/-- The text a segment becomes; the name of the placeholder if it has no value. -/
def expandSegment (values : List (String × String)) : Segment → Except String (List Char)
  | .literal text => .ok text
  | .simple name =>
    match values.lookup (String.ofList name) with
    | some value => .ok (Segment.encodeSimple value)
    | none => .error (String.ofList name)
  | .reserved name =>
    match values.lookup (String.ofList name) with
    | some value => .ok (Segment.encodeReserved value)
    | none => .error (String.ofList name)

/-- The text the segments become; the name of the first placeholder without a value. -/
def expandSegments (values : List (String × String)) : List Segment → Except String (List Char)
  | [] => .ok []
  | segment :: rest =>
    match expandSegment values segment with
    | .error name => .error name
    | .ok text =>
      match expandSegments values rest with
      | .error name => .error name
      | .ok others => .ok (text ++ others)

/-- The template with its placeholders replaced by values; the name of the first placeholder
without a value. -/
def expand (t : Template) (values : List (String × String)) : Except String String :=
  (expandSegments values t.segments).map String.ofList

/-- How a template shows itself. -/
def describe (t : Template) : String := "PathTemplate(" ++ Text.quoted t.text ++ ")"

end Template
end ApiDiscovery.Uri
