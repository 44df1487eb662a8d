import ApiDiscovery.Text.Blank

/-!
# Descriptions without markup

Descriptions in a document may hold tags. A tag is an angle bracket, at least one character that
is no closing bracket, and a closing bracket; tags are removed and white space is collapsed.
-/

namespace ApiDiscovery.Schema

open ApiDiscovery.Text

/-- The text after the tag that an opening bracket before this text starts. -/
def afterTag? (s : List Char) : Option (List Char) :=
  let inside := s.takeWhile (· != '>')
  match s.drop inside.length with
  | _ :: rest => if inside.isEmpty then none else some rest
  | [] => none

/-- A tag takes at least one character of the text. -/
theorem afterTag?_length {s rest : List Char} (h : afterTag? s = some rest) :
    rest.length < s.length := by
  unfold afterTag? at h
  simp only at h
  split at h
  · next heq =>
    split at h
    · simp at h
    · simp only [Option.some.injEq] at h
      subst h
      have := congrArg List.length heq
      simp at this
      omega
  · simp at h

/-- The text without its tags. -/
def withoutTags : List Char → List Char
  | [] => []
  | c :: rest =>
    if c = '<' then
      match _h : afterTag? rest with
      | some after => withoutTags after
      | none => c :: withoutTags rest
    else c :: withoutTags rest
termination_by s => s.length
decreasing_by
  · have := afterTag?_length _h
    simp only [List.length_cons]
    omega
  · simp
  · simp

/-- The text without tags, with single spaces between its words and none around them. -/
def stripMarkup (s : String) : String :=
  joinWith " " ((words (withoutTags s.toList)).map String.ofList)

end ApiDiscovery.Schema
