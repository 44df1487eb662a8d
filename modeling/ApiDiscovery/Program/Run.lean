import ApiDiscovery.Discovery.File
import ApiDiscovery.Program.Arguments
import ApiDiscovery.Program.Help
import ApiDiscovery.Program.Output

/-!
# The program

The program reads the document that the command line names, makes its module and writes it. Faults
that a document or the file system accounts for are logged and end the program with status 1;
faults in the command line end it with status 2; all others escape.
-/

namespace ApiDiscovery.Program

/-- How the program ends: with a status, or with a fault that escapes. -/
inductive Ending where
  | status (code : Nat)
  | escaped (fault : Fault)

/-- What a run leads to: how it ends, what it prints, and the texts that it reports. -/
structure Outcome where
  ending : Ending
  printed : String
  reported : List String

/-! ## Levels -/

/-- The least importance of a record that is reported under the name of a level. -/
def thresholdOf? (level : String) : Option Nat :=
  ([("CRITICAL", 50), ("FATAL", 50), ("ERROR", 40), ("WARN", 30), ("WARNING", 30), ("INFO", 20),
    ("DEBUG", 10), ("NOTSET", 0)] : List (String × Nat)).lookup level

/-- The importance of a level. -/
def importance : Log.Level → Nat
  | .debug => 10
  | .info => 20
  | .warning => 30
  | .error => 40
  | .critical => 50

/-- The texts of the records that are important enough. -/
def reports (threshold : Nat) (log : List Log.Record) : List String :=
  (log.filter fun r => threshold ≤ importance r.level).map Log.Record.line

/-! ## Faults -/

/-- The fault is logged and does not escape. -/
def isReported : Fault → Bool
  | .unknownLevel _ => false
  | .noDirectory => false
  | .source (.document .shape) => false
  | .source (.document .outside) => false
  | .source (.document .beyondDoubles) => false
  | .source (.document (.patternLimit .repetitionTooLarge)) => false
  | .source (.document (.patternLimit .codeTooLarge)) => false
  | .source (.document (.patternLimit .wideLookbehind)) => false
  | _ => true

/-- The record of a fault that is logged. -/
def faultRecord (fault : Fault) : Log.Record := ⟨.error, "discogen", fault.message⟩

/-! ## Running -/

variable {m : Type → Type} [Monad m]

/-- The module for a document, given by the bytes of the file at a path, and the log. -/
def moduleOf (path : Files.Path) (bytes : List UInt8) :
    Except Fault Source.Module × List Log.Record :=
  match Discovery.readDocument path.text bytes with
  | .error fault => (.error (.source (.document fault)), [])
  | .ok document =>
    let (outcome, log) := Source.Module.ofDocument document
    (outcome.mapError .source, log)

/-- Makes and writes the module that the arguments ask for, and logs it. -/
def generate (store : Files.Store m) (arguments : Arguments) :
    m (Except Fault Written × List Log.Record) := do
  let path := Files.Path.ofText arguments.document
  match ← store.read path with
  | .error reason => return (.error (.file ⟨reason, path⟩), [])
  | .ok bytes =>
    match moduleOf path bytes with
    | (.error fault, log) => return (.error fault, log)
    | (.ok source, log) =>
      match ← write store source arguments.outputDir arguments.templateDir with
      | .error fault => return (.error fault, log)
      | .ok written => return (.ok written, log ++ written.log)

/-- The outcome of a run that got as far as a document. -/
def finish (threshold : Nat) : Except Fault Written × List Log.Record → Outcome
  | (.ok written, log) => ⟨.status 0, written.notice, reports threshold log⟩
  | (.error fault, log) =>
    if isReported fault then ⟨.status 1, "", reports threshold (log ++ [faultRecord fault])⟩
    else ⟨.escaped fault, "", reports threshold log⟩

/-- Runs the program on a store. -/
def run (store : Files.Store m) (environment : Ordered String) (commandLine : List String) :
    m Outcome :=
  let settings := Settings.ofEnvironment environment
  match Arguments.ofTexts settings commandLine with
  | .error .help => return ⟨.status 0, helpText settings.outputDir, []⟩
  | .error (.usage fault) =>
    return ⟨.status 2, "", [usageText, "discogen: error: " ++ fault.message]⟩
  | .ok arguments =>
    match thresholdOf? arguments.logLevel with
    | none => return ⟨.escaped (.unknownLevel arguments.logLevel), "", []⟩
    | some threshold => return finish threshold (← generate store arguments)

end ApiDiscovery.Program
