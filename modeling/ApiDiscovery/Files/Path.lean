import ApiDiscovery.Text.Pieces

/-!
# Paths

A path is a list of names, from the root of the file system or from the working directory. Empty
names and single dots say nothing and are left out; two dots stay, since what they lead to depends
on the file system. A path that starts with exactly two slashes keeps both.
-/

namespace ApiDiscovery.Files

/-- Where a path starts. -/
inductive Start where
  | working
  | root
  | doubleRoot
  deriving DecidableEq, Repr

/-- A path: where it starts and the names on it. -/
structure Path where
  start : Start
  names : List String
  deriving DecidableEq, Repr

namespace Path

/-- Where the path with this text starts. -/
def startOf (s : List Char) : Start :=
  match (s.takeWhile (· == '/')).length with
  | 0 => .working
  | 2 => .doubleRoot
  | _ => .root

/-- The path with this text. -/
def ofText (text : String) : Path :=
  ⟨startOf text.toList, (Text.splitAt '/' text).filter fun name => name ≠ "" && name ≠ "."⟩

/-- The text of a path. -/
def text (p : Path) : String :=
  let names := Text.joinWith "/" p.names
  match p.start with
  | .working => if p.names.isEmpty then "." else names
  | .root => "/" ++ names
  | .doubleRoot => "//" ++ names

/-- The path of a file in the directory at a path. -/
def child (p : Path) (name : String) : Path := { p with names := p.names ++ [name] }

/-- The path without its last name. -/
def parent (p : Path) : Path := { p with names := p.names.dropLast }

end Path
end ApiDiscovery.Files
