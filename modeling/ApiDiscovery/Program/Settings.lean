import ApiDiscovery.Files.Path
import ApiDiscovery.Ordered
import ApiDiscovery.Text.Case

/-!
# Settings

Three settings come from the environment: where modules are written, where the template is taken
from, and what is logged. An empty value counts as none.
-/

namespace ApiDiscovery.Program

/-- The settings of the program; without a directory for templates the built-in one is used. -/
structure Settings where
  outputDir : Files.Path
  templateDir : Option Files.Path
  logLevel : String
  deriving DecidableEq, Repr

namespace Settings

/-- The value of a variable that is not empty. -/
def valueOf (environment : Ordered String) (name : String) : Option String :=
  (Ordered.get? environment name).filter fun value => value ≠ ""

/-- The variable for the directory of modules. -/
def outputDirName : String := "DISCOGEN_OUTPUT_DIR"

/-- The variable for the directory of templates. -/
def templateDirName : String := "DISCOGEN_TEMPLATE_DIR"

/-- The variable for what is logged. -/
def logLevelName : String := "DISCOGEN_LOG_LEVEL"

/-- The variables that settings come from. -/
def names : List String := [outputDirName, templateDirName, logLevelName]

/-- The settings that an environment gives. -/
def ofEnvironment (environment : Ordered String) : Settings where
  outputDir := Files.Path.ofText ((valueOf environment outputDirName).getD "generated")
  templateDir := (valueOf environment templateDirName).map Files.Path.ofText
  logLevel := Text.upper ((valueOf environment logLevelName).getD "INFO")

end Settings
end ApiDiscovery.Program
