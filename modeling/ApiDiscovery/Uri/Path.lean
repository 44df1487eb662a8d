import ApiDiscovery.Text.Pieces

/-!
# Segments of paths

The segments `.` and `..` of a path stand for the segment itself and the one above it. They can be
removed: `..` takes the segment before it with it, and at the root it is dropped.
-/

namespace ApiDiscovery.Uri.Path

open ApiDiscovery.Text

/-- A list of segments without `.` and `..`; the segments kept so far are in reverse order. The
root, a first empty segment alone, stays. -/
def collapse (kept : List (List Char)) : List (List Char) → List (List Char)
  | [] => kept.reverse
  | segment :: rest =>
    if segment = ['.'] then collapse kept rest
    else if segment = ['.', '.'] then
      if kept = [[]] then collapse kept rest else collapse (kept.drop 1) rest
    else collapse (segment :: kept) rest

/-- The path has a segment that stands for a place relative to it. -/
def isRelative (segments : List (List Char)) : Bool :=
  segments.contains ['.'] || segments.contains ['.', '.']

/-- The path without `.` and `..`. -/
def normalize (path : List Char) : List Char :=
  let segments := pieces (· == '/') path
  if isRelative segments then List.intercalate ['/'] (collapse [] segments) else path

/-- Segments without `.` and `..`, for a reference that is resolved: `..` takes away whatever
segment is before it. -/
def resolve (kept : List (List Char)) : List (List Char) → List (List Char)
  | [] => kept.reverse
  | segment :: rest =>
    if segment = ['.'] then resolve kept rest
    else if segment = ['.', '.'] then resolve (kept.drop 1) rest
    else resolve (segment :: kept) rest

/-- The last segment stands for a place relative to the path, which is then a directory. -/
def endsRelative (segments : List (List Char)) : Bool :=
  match segments.getLast? with
  | some segment => segment == ['.'] || segment == ['.', '.']
  | none => false

end ApiDiscovery.Uri.Path
