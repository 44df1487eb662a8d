import ApiDiscovery.Program.Run

/-!
# Command line

The program on the files of the system: the operations of the store are those of the system, the
settings come from its environment, and what the outcome says is printed.
-/

namespace ApiDiscovery

/-- The reasons that have numbers of their own, and the words for one that the system spells
differently. -/
def numberedReasons : List (Nat × Files.Reason) :=
  [(2, .missing), (13, .other 13 "Permission denied"), (17, .taken), (20, .noDirectory),
    (21, .directory), (36, .nameTooLong)]

/-- The reason that the system gives with a number, which may be negative, and words. -/
def reasonOf (number : UInt32) (words : String) : Files.Reason :=
  let positive := number.toInt32.toInt.natAbs
  (numberedReasons.lookup positive).getD (.other positive words)

/-- Why an action failed. -/
def failureOf : IO.Error → Files.Reason
  | .alreadyExists _ number words => reasonOf number words
  | .otherError number words => reasonOf number words
  | .resourceBusy number words => reasonOf number words
  | .resourceVanished number words => reasonOf number words
  | .unsupportedOperation number words => reasonOf number words
  | .hardwareFault number words => reasonOf number words
  | .unsatisfiedConstraints number words => reasonOf number words
  | .illegalOperation number words => reasonOf number words
  | .protocolError number words => reasonOf number words
  | .timeExpired number words => reasonOf number words
  | .interrupted _ number words => reasonOf number words
  | .noFileOrDirectory _ number words => reasonOf number words
  | .invalidArgument _ number words => reasonOf number words
  | .permissionDenied _ number words => reasonOf number words
  | .resourceExhausted _ number words => reasonOf number words
  | .inappropriateType _ number words => reasonOf number words
  | .noSuchThing _ number words => reasonOf number words
  | .unexpectedEof => .other 5 "Input/output error"
  | .userError words => .other 5 words

/-- What comes of an action. -/
def attempt {α : Type} (action : IO α) : IO (Except Files.Reason α) :=
  return (← action.toBaseIO).mapError failureOf

/-- The files of the system. -/
def systemStore : Files.Store IO where
  read path := attempt do return (← IO.FS.readBinFile path.text).toList
  write path bytes := attempt (IO.FS.writeBinFile path.text ⟨bytes.toArray⟩)
  makeDirectory path := attempt (IO.FS.createDir path.text)
  isDirectory path := do
    match ← attempt (IO.FS.realPath path.text) with
    | .ok place => place.isDir
    | .error _ => return false

/-- The variables of the environment that the settings come from. -/
def environment : IO (Ordered String) :=
  Program.Settings.names.filterMapM fun name =>
    return (← IO.getEnv name).map fun value => (name, value)

end ApiDiscovery

/-- Runs the program on the words of a command line. -/
def main (words : List String) : IO UInt32 := do
  let outcome ← ApiDiscovery.Program.run ApiDiscovery.systemStore (← ApiDiscovery.environment) words
  outcome.reported.forM fun text => IO.eprintln text
  match outcome.ending with
  | .status code =>
    IO.print outcome.printed
    return code.toUInt32
  | .escaped fault =>
    IO.eprintln fault.message
    return 1
