import ApiDiscovery.Files.Store
import ApiDiscovery.Source.Writer
import ApiDiscovery.Text.Utf8

/-!
# Writing modules

A module is written as one file into a directory, which is made if it is not there. The text of the
file is complete before anything is done to the store.
-/

namespace ApiDiscovery.Program

/-- Why the program does not write a module. -/
inductive Fault where
  | unknownLevel (level : String)
  | source (fault : Source.Fault)
  | noTemplate (directory : Files.Path)
  | noDirectory
  | file (fault : Files.Fault)

/-- The name of the template that modules are written by. -/
def templateName : String := "service.py.j2"

/-- The words for a fault. -/
def Fault.message : Fault → String
  | unknownLevel level => "Unknown level: " ++ Text.quoted level
  | source fault => fault.message
  | noTemplate directory =>
    Text.quoted templateName ++ " not found in search path: " ++ Text.quoted directory.text
  | noDirectory => "there is no directory to write to"
  | file fault => fault.message

/-- What is said about a module that was written: its path, the notice and the log. -/
structure Written where
  path : Files.Path
  notice : String
  log : List Log.Record

/-- The source text of a module by the built-in template, or by that of another directory, which has
none. -/
def render (source : Source.Module) (templateDir : Option Files.Path) : Except Fault String :=
  match templateDir with
  | some directory => .error (.noTemplate directory)
  | none => source.text.mapError .source

/-- The path of the file of a module in a directory. -/
def pathOf (source : Source.Module) (outputDir : Files.Path) : Files.Path :=
  outputDir.child (source.fileName ++ ".py")

/-- What is said about a module with this source text in the file at a path. -/
def written (source : Source.Module) (text : String) (path : Files.Path) : Written where
  path := path
  notice := "Generated " ++ path.text ++ " (" ++ toString source.methodCount ++ " methods)\n"
  log := [⟨.debug, "discogen.codegen",
    "wrote " ++ toString text.length ++ " bytes to " ++ path.text⟩]

/-- Writes a module into a directory of a store, if there is one to write to. -/
def write {m : Type → Type} [Monad m] (store : Files.Store m) (source : Source.Module)
    (outputDir templateDir : Option Files.Path) : m (Except Fault Written) := do
  match render source templateDir, outputDir with
  | .error fault, _ => return .error fault
  | .ok _, none => return .error .noDirectory
  | .ok text, some directory =>
    -- The text is complete, so a fault in it leaves the store as it was.
    match ← store.makeDirectories directory with
    | .error fault => return .error (.file fault)
    | .ok () =>
      let path := pathOf source directory
      match ← store.write path (Text.Utf8.encode text.toList) with
      | .error reason => return .error (.file ⟨reason, path⟩)
      | .ok () => return .ok (written source text path)

end ApiDiscovery.Program
