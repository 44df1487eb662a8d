import ApiDiscovery.Proofs.Source.Module
import ApiDiscovery.Proofs.Text.Lines
import ApiDiscovery.Source.Writer

/-!
# The header of a module

The text of a module starts with two comment lines, the first of which names the service and its
version as the document gives them. It has just these two lines before the documentation exactly if
neither name holds a character that ends a line (`Module.ofDocument_header`), and there are documents
whose name puts a line of its own into the module (`Module.exists_line_behind_header`).
-/

namespace ApiDiscovery.Source

open ApiDiscovery.Text
open Discovery (Document Service)

/-- The text `before` the documentation is two comment lines, and these are the first lines of the
whole text, whose third line starts with the quotes that open the documentation. -/
def HasClosedHeader (before text : List Char) : Prop :=
  ∃ first second third others, sourceLines before = [first, second, []] ∧
    sourceLines text = first :: second :: third :: others ∧
    first.head? = some '#' ∧ second.head? = some '#' ∧ "\"\"\"".toList <+: third

/-! ## Two lines -/

/-- What the first comment says before the name of the service. -/
def headerOpening : List Char := "# Generated by discogen from the ".toList

/-- What the first comment says behind the version of the service. -/
def headerClosing : List Char := " discovery document.\n".toList

/-- The second comment. -/
def headerAdvice : List Char :=
  "# Do not edit by hand; regenerate with: python -m discogen <document>\n".toList

/-- What the first comment says about the service. -/
def headerNames (name version : String) : List Char := name.toList ++ " ".toList ++ version.toList

theorem headerText_toList (name version : String) :
    (headerText name version).toList =
      headerOpening ++ (headerNames name version ++ (headerClosing ++ headerAdvice)) := by
  have hparts : (headerText name version).toList = headerOpening ++ name.toList ++ " ".toList ++
      version.toList ++ headerClosing ++ headerAdvice := by
    unfold headerText
    rw [String.toList_append, String.toList_append, String.toList_append, String.toList_append,
      String.toList_append]
    rfl
  rw [hparts, headerNames]
  simp only [List.append_assoc]

theorem headerNames_forall {name version : String} :
    (∀ c ∈ headerNames name version, endsSourceLine c = false) ↔
      ∀ c ∈ name.toList ++ version.toList, endsSourceLine c = false := by
  have hspace : ∀ c ∈ " ".toList, endsSourceLine c = false :=
    forall_eq_false_of_any (by decide)
  rw [headerNames, List.forall_mem_append, List.forall_mem_append, List.forall_mem_append]
  constructor
  · rintro ⟨⟨hname, -⟩, hversion⟩
    exact ⟨hname, hversion⟩
  · rintro ⟨hname, hversion⟩
    exact ⟨⟨hname, hspace⟩, hversion⟩

theorem headerOpening_forall : ∀ c ∈ headerOpening, endsSourceLine c = false :=
  forall_eq_false_of_any (by decide)

theorem headerClosing_eq :
    ∃ line, headerClosing = ' ' :: (line ++ ['\n']) ∧ ∀ c ∈ line, endsSourceLine c = false :=
  ⟨"discovery document.".toList, by decide,
    forall_eq_false_of_any (by decide)⟩

theorem headerAdvice_eq :
    ∃ line, headerAdvice = '#' :: (line ++ ['\n']) ∧ ∀ c ∈ line, endsSourceLine c = false :=
  ⟨" Do not edit by hand; regenerate with: python -m discogen <document>".toList,
    by decide, forall_eq_false_of_any (by decide)⟩

/-- The header has a line end in the name and the version for each line beyond two. -/
theorem length_headerText (name version : String) :
    (sourceLines (headerText name version).toList).length =
      (unifyLineEnds (headerNames name version)).countP (· == '\n') + 3 := by
  have hopening : headerOpening.countP (· == '\n') = 0 := by decide
  have hbehind : (unifyLineEnds (headerClosing ++ headerAdvice)).countP (· == '\n') = 2 := by
    decide
  obtain ⟨line, hclosing, -⟩ := headerClosing_eq
  rw [hclosing, List.cons_append] at hbehind
  rw [headerText_toList, length_sourceLines, unifyLineEnds_append headerOpening_forall, hclosing,
    List.cons_append, unifyLineEnds_append_cons _ _ (by decide), List.countP_append,
    List.countP_append, hopening, hbehind]
  omega

/-- A header whose names hold no line end is two comments, and what stands behind it starts the
third line. -/
theorem sourceLines_headerText {name version : String}
    (h : ∀ c ∈ name.toList ++ version.toList, endsSourceLine c = false) :
    ∃ first second, first.head? = some '#' ∧ second.head? = some '#' ∧
      ∀ s, sourceLines ((headerText name version).toList ++ s) =
        first :: second :: sourceLines s := by
  obtain ⟨closing, hclosing, hclosed⟩ := headerClosing_eq
  obtain ⟨advice, hadvice, hadvised⟩ := headerAdvice_eq
  have hfirst : ∀ c ∈ headerOpening ++ (headerNames name version ++ ' ' :: closing),
      endsSourceLine c = false := by
    rw [List.forall_mem_append, List.forall_mem_append, List.forall_mem_cons]
    exact ⟨headerOpening_forall, headerNames_forall.2 h, by decide, hclosed⟩
  have hsecond : ∀ c ∈ '#' :: advice, endsSourceLine c = false :=
    List.forall_mem_cons.2 ⟨by decide, hadvised⟩
  have hstart : headerOpening.head? = some '#' := by decide
  have hhead : (headerOpening ++ (headerNames name version ++ ' ' :: closing)).head? =
      some '#' := by
    rw [List.head?_append, hstart]
    rfl
  refine ⟨_, '#' :: advice, hhead, rfl, fun s => ?_⟩
  have hshape : (headerText name version).toList ++ s =
      headerOpening ++ (headerNames name version ++ ' ' :: closing) ++
        '\n' :: (('#' :: advice) ++ '\n' :: s) := by
    rw [headerText_toList, hclosing, hadvice]
    simp only [List.append_assoc, List.cons_append, List.nil_append]
  rw [hshape, sourceLines_line hfirst, sourceLines_line hsecond]

/-- The quotes that open a documentation open the line they stand in. -/
theorem sourceLines_docLiteral (doc : String) (s : List Char) :
    ∃ third others, sourceLines ((docLiteral doc).toList ++ s) = third :: others ∧
      "\"\"\"".toList <+: third := by
  have hquotes : ∀ c ∈ "\"\"\"".toList, endsSourceLine c = false :=
    forall_eq_false_of_any (by decide)
  have hnone : ∀ c ∈ "\"\"\"".toList, (c == '\n') = false :=
    forall_eq_false_of_any (by decide)
  have hstart : (docLiteral doc).toList ++ s =
      "\"\"\"".toList ++ (doc.toList ++ "\"\"\"".toList ++ s) := by
    simp only [docLiteral, String.toList_append, List.append_assoc]
  obtain ⟨first, others, hpieces⟩ :=
    pieces_append_of_none hnone (unifyLineEnds (doc.toList ++ "\"\"\"".toList ++ s))
  refine ⟨_, others, ?_, List.prefix_append _ first⟩
  rw [hstart, sourceLines, unifyLineEnds_append hquotes]
  exact hpieces

/-- The header is closed exactly if neither the name nor the version holds a line end. -/
theorem hasClosedHeader_iff (name version doc : String) (s : List Char) :
    HasClosedHeader (headerText name version).toList
        ((headerText name version).toList ++ ((docLiteral doc).toList ++ s)) ↔
      ∀ c ∈ name.toList ++ version.toList, endsSourceLine c = false := by
  constructor
  · rintro ⟨first, second, third, others, hbefore, -, -, -, -⟩
    have hlength := length_headerText name version
    simp only [hbefore, List.length_cons, List.length_nil] at hlength
    have hnone : (unifyLineEnds (headerNames name version)).countP (· == '\n') = 0 := by omega
    exact headerNames_forall.1 (countP_unifyLineEnds_eq_zero.1 hnone)
  · intro h
    obtain ⟨first, second, hfirst, hsecond, hlines⟩ := sourceLines_headerText h
    obtain ⟨third, others, hdoc, hquotes⟩ := sourceLines_docLiteral doc s
    have hbefore := hlines []
    rw [List.append_nil] at hbefore
    refine ⟨first, second, third, others, hbefore, ?_, hfirst, hsecond, hquotes⟩
    rw [hlines, hdoc]

namespace Module

/-- The text of a module is its header, the documentation of the service and the rest. -/
theorem text_eq_ok {m : Module} {text : String} (h : m.text = .ok text) :
    ∃ doc rest, classDoc m.service = .ok doc ∧
      text = headerText m.name m.version ++ docLiteral doc ++ rest := by
  simp only [Module.text, Outcome.bind_eq_ok, Outcome.pure_eq_ok] at h
  obtain ⟨doc, hdoc, service, -, resources, -, rfl⟩ := h
  exact ⟨doc, "\n\n" ++ importsText ++ "\n" ++ exportsText m ++ "\n\n" ++ service ++ "\n" ++
    resources, hdoc, by simp only [String.append_assoc]⟩

/-- A module is called as its document says. -/
theorem names_of_ofDocument {document : Json} {m : Module} {log : List Log.Record}
    (h : ofDocument document = (.ok m, log)) :
    ∃ described, Document.ofJson document = .ok described ∧ m.name = described.name ∧
      m.version = described.version := by
  rw [ofDocument, build] at h
  dsimp only at h
  split at h
  · cases h
  · next described c tree hbegun =>
    simp only [Outcome.bind_eq_ok, Outcome.pure_eq_ok, ofDiscovery_eq_ok] at hbegun
    obtain ⟨service, -, found, hfound, made, -, walked, -, hbegun⟩ := hbegun
    cases hbegun
    split at h
    · cases h
    · cases h
      exact ⟨described, hfound, rfl, rfl⟩

/-- The text of the module for a document is two comment lines with the documentation behind them
exactly if neither the name nor the version that the document gives holds a line end. -/
theorem ofDocument_header {document : Json} {m : Module} {log : List Log.Record} {text : String}
    (h : ofDocument document = (.ok m, log)) (htext : m.text = .ok text) :
    ∃ described doc rest, Document.ofJson document = .ok described ∧
      classDoc m.service = .ok doc ∧
      text = headerText described.name described.version ++ docLiteral doc ++ rest ∧
      (HasClosedHeader (headerText described.name described.version).toList text.toList ↔
        ∀ c ∈ described.name.toList ++ described.version.toList, endsSourceLine c = false) := by
  obtain ⟨described, hdescribed, hname, hversion⟩ := names_of_ofDocument h
  obtain ⟨doc, rest, hdoc, heq⟩ := text_eq_ok htext
  rw [hname, hversion] at heq
  refine ⟨described, doc, rest, hdescribed, hdoc, heq, ?_⟩
  rw [heq, String.toList_append, String.toList_append, List.append_assoc]
  exact hasClosedHeader_iff described.name described.version doc rest.toList

/-- A document with a service whose name and version hold all characters of a comment but no line
end. -/
def sampleTitled : Json :=
  .obj [("data", .obj [("x # \"\"\"", .obj [("1\u2028", .obj [("baseUrl", .str "https://a/")])])])]

theorem ofDocument_header_sampleTitled :
    ∃ m log text, ofDocument sampleTitled = (.ok m, log) ∧ m.text = .ok text ∧
      HasClosedHeader (headerText "x # \"\"\"" "1\u2028").toList text.toList := by
  obtain ⟨m, hm, hrendered⟩ := Outcome.exists_ok_of_map
    (show (ofDocument sampleTitled).1.toOption.map (fun m => m.text.toOption.isSome) = some true
      by decide)
  have hmade := Outcome.eq_of_fst hm
  obtain ⟨text, htext⟩ := Outcome.exists_ok_of_isSome hrendered
  obtain ⟨described, doc, rest, hdescribed, -, -, hclosed⟩ := ofDocument_header hmade htext
  obtain ⟨found, hfound, hnames⟩ := Outcome.exists_ok_of_map
    (show (Document.ofJson sampleTitled).toOption.map (fun d => (d.name, d.version)) =
      some ("x # \"\"\"", "1\u2028") by decide)
  obtain rfl : described = found := Except.ok.inj (hdescribed.symm.trans hfound)
  obtain ⟨hname, hversion⟩ := Prod.mk.inj hnames
  rw [hname, hversion] at hclosed
  exact ⟨m, _, text, hmade, htext, hclosed.2 (forall_eq_false_of_any (by decide))⟩

/-- A document whose name holds a line feed and a statement behind it. -/
def sampleInjecting : Json :=
  .obj [("name", .str "x\nimport os"), ("version", .str "v1"), ("baseUrl", .str "https://a/")]

/-- The name of a service may put a line into its module that is no comment. -/
theorem exists_line_behind_header :
    ∃ m log, ofDocument sampleInjecting = (.ok m, log) ∧
      ∃ text, m.text = .ok text ∧
        ¬ HasClosedHeader (headerText "x\nimport os" "v1").toList text.toList ∧
        (sourceLines text.toList)[1]? = some "import os v1 discovery document.".toList := by
  obtain ⟨m, hm, hrendered⟩ := Outcome.exists_ok_of_map
    (show (ofDocument sampleInjecting).1.toOption.map
        (fun m => (m.text.toOption.isSome, m.name, m.version)) =
      some (true, "x\nimport os", "v1") by decide)
  simp only [Prod.mk.injEq] at hrendered
  obtain ⟨hsome, hname, hversion⟩ := hrendered
  obtain ⟨text, htext⟩ := Outcome.exists_ok_of_isSome hsome
  obtain ⟨doc, rest, -, heq⟩ := text_eq_ok htext
  refine ⟨m, _, Outcome.eq_of_fst hm, text, htext, ?_, ?_⟩
  · rw [heq, hname, hversion, String.toList_append, String.toList_append, List.append_assoc,
      hasClosedHeader_iff]
    exact fun h => absurd (h '\n' (by decide)) (by decide)
  -- The line feed in the name closes the first line, and that of the header the second.
  have hnames : headerNames "x\nimport os" "v1" ++ headerClosing =
      'x' :: '\n' :: ("import os v1 discovery document.".toList ++ ['\n']) := by decide
  have hheader : (headerText "x\nimport os" "v1").toList =
      (headerOpening ++ ['x']) ++ '\n' ::
        ("import os v1 discovery document.".toList ++ '\n' :: headerAdvice) := by
    rw [headerText_toList, ← List.append_assoc (headerNames _ _), hnames]
    simp only [List.append_assoc, List.cons_append, List.nil_append]
  have hfirst : ∀ c ∈ headerOpening ++ ['x'], endsSourceLine c = false :=
    List.forall_mem_append.2 ⟨headerOpening_forall, List.forall_mem_singleton.2 rfl⟩
  have hsecond : ∀ c ∈ "import os v1 discovery document.".toList, endsSourceLine c = false :=
    forall_eq_false_of_any (by decide)
  rw [heq, hname, hversion, String.toList_append, String.toList_append, hheader, List.append_assoc,
    List.append_assoc, List.cons_append, sourceLines_line hfirst, List.append_assoc,
    List.cons_append, sourceLines_line hsecond]
  rfl

end Module
end ApiDiscovery.Source
