import ApiDiscovery.Proofs.Program.Run
import ApiDiscovery.Proofs.Source.Shape

/-!
# What a run reports about its document

The bytes of a document file may be anything. Where they hold no JSON, or a document whose values
have the shapes that are needed, a run ends with status 0, or it reports one error and ends with
status 1 (`run_reports_document`). A value of another shape may escape as a fault
(`escapes_sampleMisshapen`), and no run on a document with one ends with status 0.
-/

namespace ApiDiscovery.Program

open Files ApiDiscovery.Outcome
open Discovery (Document Service)

/-! ## Faults that are reported -/

/-- The limits of patterns that escape from the program. -/
def limitEscapes (fault : Pattern.Fault) : Bool :=
  !isReported (.source (.document (.patternLimit fault)))

/-- The document fault is logged and does not escape. -/
def IsReportedOfDocument (fault : Discovery.Fault) : Prop :=
  isReported (.source (.document fault)) = true

theorem areExpected_reported : Discovery.Fault.AreExpected limitEscapes IsReportedOfDocument where
  descriptive fault h := by
    cases fault <;> first | rfl | cases h
  limit fault _ h := by
    rw [limitEscapes, Bool.not_eq_false'] at h
    exact h

theorem areExpected_descriptive :
    Discovery.Fault.AreExpected Pattern.Fault.isLimit fun fault => fault.isDescriptive = true where
  descriptive _ h := h
  limit fault hlimit hnot := by
    rw [hlimit] at hnot
    cases hnot

theorem isReported_source {fault : Source.Fault} (h : fault.IsExpected IsReportedOfDocument) :
    isReported (.source fault) = true := by
  cases fault with
  | document fault => exact h
  | _ => rfl

theorem isReported_readDocument {file : String} {bytes : List UInt8} {fault : Discovery.Fault}
    (h : Discovery.readDocument file bytes = .error fault) :
    isReported (.source (.document fault)) = true := by
  unfold Discovery.readDocument at h
  split at h
  · cases h
    rfl
  · dsimp only at h
    split at h
    · cases h
    · cases h
      rfl
    · cases h
      rfl

/-! ## Documents -/

/-- The values of a document, if it is one, have the shapes that the program needs. -/
def IsWellShaped (document : Json) : Prop :=
  ∀ described, Document.ofJson document = .ok described →
    Source.Module.HasForm limitEscapes described.body ∧ Source.Module.HasTitle described.body

/-- Writing a module tells what its text tells: a fault of the file system is always reported. -/
theorem tells_write {source : Source.Module} {p : Prop}
    (htext : Tells (Source.Fault.IsExpected IsReportedOfDocument) p source.text)
    (directory : Path) (t : Tree) :
    Tells (fun fault => isReported fault = true) p
      (write Tree.store source (some directory) none t).1 := by
  cases hsource : source.text with
  | error fault =>
    have hrender : render source none = .error (.source fault) := by
      rw [render, hsource]
      rfl
    unfold write
    rw [hrender]
    exact .failed fun hp => isReported_source (htext.expected hp fault hsource)
  | ok text =>
    have hrender : render source none = .ok text := by
      rw [render, hsource]
      rfl
    -- The text is complete, so what can still go wrong is a matter of the files.
    rw [write_eq hrender]
    split
    · exact .error rfl
    · split
      · exact .error rfl
      · exact .ok (htext.holds text hsource) _

/-- Making and writing a module tells whether the document that the bytes hold, if they hold one, is
well shaped. -/
theorem tells_generate {arguments : Arguments} {t : Tree} {bytes : List UInt8} {directory : Path}
    (hread : t.read (Path.ofText arguments.document) = .ok bytes)
    (htemplate : arguments.templateDir = none) (hdirectory : arguments.outputDir = some directory) :
    Tells (fun fault => isReported fault = true)
      (∀ document, Discovery.readDocument (Path.ofText arguments.document).text bytes = .ok document →
        IsWellShaped document)
      (generate Tree.store arguments t).1.1 := by
  rw [generate_eq, hread]
  dsimp only
  rw [moduleOf]
  cases hdocument : Discovery.readDocument (Path.ofText arguments.document).text bytes with
  | error fault => exact .error (isReported_readDocument hdocument)
  | ok document =>
    have hmodule := Source.Module.tells_ofDocument areExpected_reported document
    dsimp only
    cases hmade : Source.Module.ofDocument document with
    | mk outcome log =>
      rw [hmade] at hmodule
      cases outcome with
      | error fault =>
        refine .failed fun hshaped => isReported_source ?_
        refine hmodule.expected (fun described hdescribed => ?_) fault rfl
        exact (hshaped document rfl described hdescribed).1
      | ok source =>
        obtain ⟨-, described, -, -, hdescribed, -⟩ := Source.Module.ofDocument_eq_ok hmade
        have hform := hmodule.holds source rfl described hdescribed
        have htext := Source.Module.tells_text_of_ofDocument (E := IsReportedOfDocument) hmade hdescribed
        -- The module was made, so the title is all that is left to tell.
        have hshaped : Source.Module.HasTitle described.body ↔
            ∀ found, (Except.ok document : Except Discovery.Fault Json) = .ok found →
              IsWellShaped found := by
          constructor
          · intro htitle found hfound other hother
            cases hfound
            rw [hdescribed] at hother
            cases hother
            exact ⟨hform, htitle⟩
          · exact fun h => (h document rfl described hdescribed).2
        have hwrite := (tells_write htext directory t).congr hshaped
        simp only [Except.mapError, hdirectory, htemplate]
        generalize write Tree.store source (some directory) none t = o at hwrite
        obtain ⟨_ | written, t'⟩ := o
        · exact hwrite
        · exact .ok (hwrite.holds written rfl) written

/-! ## The log -/

/-- No record is as important as an error. -/
def IsQuiet (log : List Log.Record) : Prop := ∀ r ∈ log, importance r.level < importance .error

theorem isQuiet_resourceClasses (body : Json) (chain : List Source.ResourceDecoration)
    (seen : List String) (tree : List (String × Json.Members)) :
    IsQuiet (Source.Module.resourceClasses body chain seen tree).2 := by
  induction tree generalizing seen with
  | nil => exact fun r hr => absurd hr List.not_mem_nil
  | cons first tree ih =>
    rw [Source.Module.resourceClasses]
    split
    · exact fun r hr => absurd hr List.not_mem_nil
    · next c _ =>
      split
      · exact fun r hr => absurd hr List.not_mem_nil
      · exact List.forall_mem_cons.2 ⟨show (10 : Nat) < 40 by decide, ih (c.name :: seen)⟩

theorem isQuiet_ofDocument (document : Json) : IsQuiet (Source.Module.ofDocument document).2 := by
  rw [Source.Module.ofDocument, Source.Module.build]
  dsimp only
  split
  · exact fun r hr => absurd hr List.not_mem_nil
  · next described c tree _ =>
    have hclasses := isQuiet_resourceClasses (.obj described.body) Source.ResourceDecoration.usual
      [c.name] tree
    split
    · next heq =>
      rw [heq] at hclasses
      exact hclasses
    · next heq =>
      rw [heq] at hclasses
      refine List.forall_mem_append.2 ⟨hclasses, List.forall_mem_singleton.2 ?_⟩
      exact show (20 : Nat) < 40 by decide

theorem isQuiet_write (source : Source.Module) (outputDir templateDir : Option Path) (t : Tree) :
    ∀ w, (write Tree.store source outputDir templateDir t).1 = .ok w → IsQuiet w.log := by
  intro w h
  cases hrender : render source templateDir with
  | error fault =>
    unfold write at h
    rw [hrender] at h
    cases h
  | ok text =>
    cases outputDir with
    | none =>
      unfold write at h
      rw [hrender] at h
      cases h
    | some directory =>
      rw [write_eq hrender] at h
      split at h
      · cases h
      · split at h
        · cases h
        · cases h
          exact List.forall_mem_singleton.2 (show (10 : Nat) < 40 by decide)

theorem isQuiet_generate (arguments : Arguments) (t : Tree) :
    IsQuiet (generate Tree.store arguments t).1.2 := by
  have hnone : IsQuiet [] := fun r hr => absurd hr List.not_mem_nil
  have hmodule (path : Path) (bytes : List UInt8) : IsQuiet (moduleOf path bytes).2 := by
    unfold moduleOf
    split
    · exact hnone
    · exact isQuiet_ofDocument _
  rw [generate_eq]
  split
  · exact hnone
  · next bytes _ =>
    have hlog := hmodule (Path.ofText arguments.document) bytes
    split
    · next heq =>
      rw [heq] at hlog
      exact hlog
    · next source log heq =>
      rw [heq] at hlog
      have hwrite := isQuiet_write source arguments.outputDir arguments.templateDir t
      split
      · exact hlog
      · next written t' hdone =>
        rw [hdone] at hwrite
        exact List.forall_mem_append.2 ⟨hlog, hwrite written rfl⟩

/-! ## Runs -/

/-- The run ends with status 0 and reports no error, or it ends with status 1 after one error, which
is the last that it reports. -/
inductive Reports (threshold : Nat) : Outcome → Prop where
  | done {notice : String} {log : List Log.Record} (hlog : IsQuiet log) :
      Reports threshold ⟨.status 0, notice, reports threshold log⟩
  | failed {fault : Fault} {log : List Log.Record} (hlog : IsQuiet log)
      (hfault : isReported fault = true) :
      Reports threshold ⟨.status 1, "", reports threshold (log ++ [faultRecord fault])⟩

theorem reports_finish {outcome : Except Fault Written} {log : List Log.Record}
    (hlog : IsQuiet log) (hreported : ∀ fault, outcome = .error fault → isReported fault = true)
    (threshold : Nat) : Reports threshold (finish threshold (outcome, log)) := by
  cases outcome with
  | ok written => exact .done hlog
  | error fault =>
    have hfault := hreported fault rfl
    rw [finish, if_pos hfault]
    exact .failed hlog hfault

theorem exists_written_of_finish {threshold : Nat} {o : Except Fault Written × List Log.Record}
    (h : (finish threshold o).ending = .status 0) : ∃ written, o.1 = .ok written := by
  obtain ⟨_ | written, log⟩ := o
  · exact absurd h (finish_error_ne_done threshold _ log)
  · exact ⟨written, rfl⟩

theorem exists_document_of_generate {arguments : Arguments} {t : Tree} {bytes : List UInt8}
    {written : Written} (hread : t.read (Path.ofText arguments.document) = .ok bytes)
    (h : (generate Tree.store arguments t).1.1 = .ok written) :
    ∃ document,
      Discovery.readDocument (Path.ofText arguments.document).text bytes = .ok document := by
  cases hdocument : Discovery.readDocument (Path.ofText arguments.document).text bytes with
  | ok document => exact ⟨document, rfl⟩
  | error fault =>
    rw [generate_eq, hread] at h
    dsimp only at h
    rw [moduleOf, hdocument] at h
    cases h

/-- A run with a directory to write to, the built-in template and a known level reads the bytes of its
document. If they hold no JSON, or a document whose values have the shapes that are needed, it ends
with status 0, or reports one error and ends with status 1: no fault escapes. It ends with status 0
only for a document whose values have these shapes. In the same way every value that is no document,
or one whose values have the shapes that reading needs, gives a service or a fault that says what is
wrong with what it describes, and no other value gives a service. -/
theorem run_reports_document {environment : Ordered String} {commandLine : List String}
    {arguments : Arguments} {threshold : Nat} {directory : Path} {t : Tree} {bytes : List UInt8}
    (harguments : Arguments.ofTexts (Settings.ofEnvironment environment) commandLine = .ok arguments)
    (hlevel : thresholdOf? arguments.logLevel = some threshold)
    (htemplate : arguments.templateDir = none) (hdirectory : arguments.outputDir = some directory)
    (hread : t.read (Path.ofText arguments.document) = .ok bytes) :
    let document? := Discovery.readDocument (Path.ofText arguments.document).text bytes
    let outcome := (run Tree.store environment commandLine t).1
    ((∀ document, document? = .ok document → IsWellShaped document) → Reports threshold outcome) ∧
      (outcome.ending = .status 0 → ∃ document, document? = .ok document ∧ IsWellShaped document) ∧
      ∀ value,
        ((∀ described, Document.ofJson value = .ok described →
            Service.IsReadable Pattern.Fault.isLimit described.body) →
          (∃ service, Service.ofJson value = .ok service) ∨
            ∃ fault, Service.ofJson value = .error fault ∧ fault.isDescriptive = true) ∧
        ∀ service, Service.ofJson value = .ok service →
          ∃ described, Document.ofJson value = .ok described ∧
            Service.IsReadable Pattern.Fault.isLimit described.body := by
  intro document? outcome
  have htells := tells_generate hread htemplate hdirectory
  have houtcome : outcome = finish threshold (generate Tree.store arguments t).1 := by
    show (run Tree.store environment commandLine t).1 = _
    rw [run_eq harguments hlevel t]
  refine ⟨fun hshaped => ?_, fun hdone => ?_, fun value => ?_⟩
  · rw [houtcome]
    have hquiet := isQuiet_generate arguments t
    have hexpected := htells.expected hshaped
    generalize (generate Tree.store arguments t).1 = made at hquiet hexpected ⊢
    exact reports_finish hquiet hexpected threshold
  · rw [houtcome] at hdone
    obtain ⟨written, hwritten⟩ := exists_written_of_finish hdone
    obtain ⟨document, hdocument⟩ := exists_document_of_generate hread hwritten
    exact ⟨document, hdocument, htells.holds written hwritten document hdocument⟩
  · have hservice := Service.tells_ofJson areExpected_descriptive value
    refine ⟨fun hreadable => ?_, fun service h => ?_⟩
    · cases hread : Service.ofJson value with
      | ok service => exact .inl ⟨service, rfl⟩
      | error fault => exact .inr ⟨fault, rfl, hservice.expected hreadable fault hread⟩
    · obtain ⟨described, -, hdescribed, -⟩ := Discovery.Service.ofJson_eq_ok h
      exact ⟨described, hdescribed, hservice.holds service h described hdescribed⟩

/-- A working directory with one file, which holds a text. -/
def folderWith (name text : String) : Tree :=
  ⟨[(["home", name], .file (Text.Utf8.encode text.toList))], ["home"]⟩

/-- A document with a parameter that refers to a schema which refers to itself. -/
def sampleShaped : Tree :=
  folderWith "d.json" ("\x7b\"name\":\"b\",\"version\":\"v\",\"baseUrl\":\"u\"," ++
    "\"schemas\":\x7b\"A\":\x7b\"$ref\":\"A\"\x7d\x7d," ++
    "\"resources\":\x7b\"r\":\x7b\"methods\":\x7b\"m\":\x7b\"path\":\"p\"," ++
    "\"parameters\":\x7b\"q\":\x7b\"$ref\":\"A\"\x7d\x7d\x7d\x7d\x7d\x7d\x7d")

/-- A document whose resources are an array. -/
def sampleMisshapen : Tree :=
  folderWith "d.json"
    "\x7b\"name\":\"b\",\"version\":\"v1\",\"baseUrl\":\"https://a/\",\"resources\":[]\x7d"

/-- The run ends with a value of the wrong shape that escapes. -/
def endsMisshapen : Ending → Bool
  | .escaped (.source (.document .shape)) => true
  | _ => false

theorem eq_of_endsMisshapen {ending : Ending} (h : endsMisshapen ending = true) :
    ending = .escaped (.source (.document .shape)) := by
  unfold endsMisshapen at h
  split at h
  · rfl
  · cases h

/-- The arguments of the sample runs. -/
def sampleArguments : Arguments where
  document := "d.json"
  outputDir := some (Path.ofText "out")
  templateDir := none
  logLevel := "INFO"

theorem sampleArguments_eq :
    Arguments.ofTexts (Settings.ofEnvironment []) ["d.json", "-o", "out"] = .ok sampleArguments := by
  have hwords : Word.ofTexts ["d.json", "-o", "out"] =
      .ok [.plain "d.json", .option .outputDir true none, .plain "out"] := by decide
  have hread : Arguments.readWords {} [.plain "d.json", .option .outputDir true none,
      .plain "out"] = .ok { document := some "d.json", outputDir := some "out" } := by
    rw [Arguments.readWords, Arguments.readWords]
    · show Arguments.readWords _ [] = _
      rw [Arguments.readWords]
      rfl
    · intro rest h
      cases h
  rw [Arguments.ofTexts, hwords]
  show (Arguments.readWords {} [.plain "d.json", .option .outputDir true none,
    .plain "out"] >>= _) = _
  rw [hread]
  decide

/-- A value of the wrong shape escapes from the program, and from reading the service too. -/
theorem escapes_sampleMisshapen :
    Arguments.ofTexts (Settings.ofEnvironment []) ["d.json", "-o", "out"] = .ok sampleArguments ∧
      thresholdOf? sampleArguments.logLevel = some 20 ∧
      (run Tree.store [] ["d.json", "-o", "out"] sampleMisshapen).1.ending =
        .escaped (.source (.document .shape)) ∧
      Service.ofJson (.obj [("name", .str "b"), ("version", .str "v1"),
        ("baseUrl", .str "https://a/"), ("resources", .arr [])]) = .error .shape := by
  exact ⟨sampleArguments_eq, by decide, eq_of_endsMisshapen (by decide +kernel), by rfl⟩

theorem run_reports_document_sampleShaped :
    ∃ bytes document, sampleShaped.read (Path.ofText sampleArguments.document) = .ok bytes ∧
      Discovery.readDocument (Path.ofText sampleArguments.document).text bytes = .ok document ∧
      IsWellShaped document ∧
      (run Tree.store [] ["d.json", "-o", "out"] sampleShaped).1.ending = .status 0 ∧
      Reports 20 (run Tree.store [] ["d.json", "-o", "out"] sampleShaped).1 := by
  obtain ⟨bytes, hread⟩ := exists_ok_of_isSome
    (show (sampleShaped.read (Path.ofText sampleArguments.document)).toOption.isSome = true by
      decide)
  -- The status comes from a run in the kernel, and the shape from the status.
  have hending : (run Tree.store [] ["d.json", "-o", "out"] sampleShaped).1.ending = .status 0 := by
    have hstatus : (match (run Tree.store [] ["d.json", "-o", "out"] sampleShaped).1.ending with
        | .status 0 => true
        | _ => false) = true := by
      decide +kernel
    split at hstatus
    · next heq => exact heq
    · cases hstatus
  have hlevel : thresholdOf? sampleArguments.logLevel = some 20 := by decide
  obtain ⟨hreports, hdone, -⟩ := run_reports_document sampleArguments_eq hlevel rfl rfl hread
  obtain ⟨document, hdocument, hshaped⟩ := hdone hending
  refine ⟨bytes, document, hread, hdocument, hshaped, hending, hreports fun found hfound => ?_⟩
  cases hdocument.symm.trans hfound
  exact hshaped

end ApiDiscovery.Program
