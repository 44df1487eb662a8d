import ApiDiscovery.Files.Path
import ApiDiscovery.Text.Quoted

/-!
# Stores of files

What can be done with files is given by four operations, in whatever monad has them. Directories are
made with those above them that are missing by these operations alone, so that it is done in one way
in every store.
-/

namespace ApiDiscovery.Files

/-! ## Faults -/

/-- Why something cannot be done with a path; a reason without a name of its own has the number and
the words of the system. -/
inductive Reason where
  | missing
  | taken
  | noDirectory
  | directory
  | nameTooLong
  | nullCharacter
  | other (number : Nat) (words : String)
  deriving DecidableEq, Repr

/-- A path with which something cannot be done, and why. -/
structure Fault where
  reason : Reason
  path : Path
  deriving DecidableEq, Repr

/-- The words for a fault. -/
def Fault.message (f : Fault) : String :=
  let about (number : Nat) (what : String) :=
    "[Errno " ++ toString number ++ "] " ++ what ++ ": " ++ Text.quoted f.path.text
  match f.reason with
  | .missing => about 2 "No such file or directory"
  | .taken => about 17 "File exists"
  | .noDirectory => about 20 "Not a directory"
  | .directory => about 21 "Is a directory"
  | .nameTooLong => about 36 "File name too long"
  | .nullCharacter => "embedded null byte"
  | .other number words => about number words

/-! ## Stores -/

/-- The operations on files: reading a file, writing one over what is there, making a directory in
one that is there, and asking if a path leads to a directory. -/
structure Store (m : Type → Type) where
  read : Path → m (Except Reason (List UInt8))
  write : Path → List UInt8 → m (Except Reason Unit)
  makeDirectory : Path → m (Except Reason Unit)
  isDirectory : Path → m Bool

namespace Store

variable {m : Type → Type} [Monad m]

/-- What it comes to that a directory was made or not: it does not matter if it is there already. -/
def settle (store : Store m) (path : Path) : Except Reason Unit → m (Except Fault Unit)
  | .ok () => return .ok ()
  | .error .missing => return .error ⟨.missing, path⟩
  | .error reason => do
    if ← store.isDirectory path then return .ok () else return .error ⟨reason, path⟩

/-- Makes a directory and those above it that are missing, at most `depth` of them. -/
def makeDown (store : Store m) (path : Path) : Nat → m (Except Fault Unit)
  | 0 => do store.settle path (← store.makeDirectory path)
  | depth + 1 => do
    match ← store.makeDirectory path with
    | .error .missing =>
      match ← store.makeDown path.parent depth with
      | .error fault => return .error fault
      | .ok () => store.settle path (← store.makeDirectory path)
    | outcome => store.settle path outcome

/-- Makes a directory and those above it that are missing. -/
def makeDirectories (store : Store m) (path : Path) : m (Except Fault Unit) :=
  store.makeDown path path.names.length

end Store
end ApiDiscovery.Files
