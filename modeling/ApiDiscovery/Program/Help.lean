import ApiDiscovery.Files.Path
import ApiDiscovery.Program.Option

/-!
# Help

The forms of the command line in one line, and a table of what its words are for.
-/

namespace ApiDiscovery.Program

namespace Choice

/-- A form of an option with its value. -/
def withValue (c : Choice) (form : String) : String :=
  match c.valueName? with
  | none => form
  | some name => form ++ " " ++ name

/-- What an option is for, where modules are written to a directory without it. -/
def about (outputDir : Files.Path) : Choice → String
  | help => "show this help message and exit"
  | .outputDir => "directory to write the module to (default: " ++ outputDir.text ++ ")"
  | templateDir => "directory holding service.py.j2"
  | verbose => "log debug output"

end Choice

/-- The forms of the command line. -/
def usageText : String :=
  "usage: discogen " ++
    String.join (Choice.all.map fun c => "[" ++ c.withValue c.short ++ "] ") ++ "document"

/-- A line of a table, or two if the left column is too narrow. -/
def tableEntry (left right : String) : String :=
  let gap (column : Nat) := String.ofList (List.replicate column ' ')
  if left.length ≤ 20 then "  " ++ left ++ gap (22 - left.length) ++ right ++ "\n"
  else "  " ++ left ++ "\n" ++ gap 24 ++ right ++ "\n"

/-- What the program is for and what the words of the command line are for. -/
def helpText (outputDir : Files.Path) : String :=
  usageText ++ "\n\nGenerate a Python client module from an API discovery document.\n\n" ++
    "positional arguments:\n" ++
    tableEntry "document" "path to the discovery document (JSON)" ++
    "\noptions:\n" ++
    String.join (Choice.all.map fun c =>
      tableEntry (c.withValue c.short ++ ", " ++ c.withValue c.long) (c.about outputDir))

end ApiDiscovery.Program
