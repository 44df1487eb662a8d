import ApiDiscovery.Proofs.Source.Docstring
import ApiDiscovery.Proofs.Source.Embedded

/-!
# Documentation moved to the right

The documentation of a class or a method is moved to the right after it is escaped. That loses the
line ends: all of them become line feeds, and a carriage return at the very end is dropped. So the
two may be done the other way round (`indentLines_docstringChars`), unless there is such a carriage
return: escaping finds it at the end of the text and leaves the quotes before it alone, and they
come to stand before those that close the literal. With this and with what holds of escaping by
itself, `readTriple_indentedLiteral` says for which texts the literal is complete; a title may be
none of them (`Module.exists_docstring_spilled`).
-/

namespace ApiDiscovery.Source

open ApiDiscovery.Literal
open ApiDiscovery.Text

/-- A carriage return at the end of a text stands behind quotes that are left over when they are
counted by threes. Escaping finds the carriage return at the end, and moving to the right drops
it. -/
def HidesQuote (s : List Char) : Prop :=
  s.getLast? = some '\r' ∧ closingQuotes s.dropLast % 3 ≠ 0

instance (s : List Char) : Decidable (HidesQuote s) :=
  inferInstanceAs (Decidable (_ ∧ _))

/-! ## Escaping and moving to the right -/

section Moving

variable {s : List Char} (width : Nat)

theorem margin_docstringChars (s : List Char) :
    margin width (docstringChars s) = margin width s := by
  rcases head?_docstringChars s with hhead | ⟨hquote, hhead⟩
  · rw [margin, hhead, margin]
  · rw [margin, hhead, margin, hquote]
    rfl

theorem isUnescaped_margin (s : List Char) : IsUnescaped ('\n' :: margin width s) := by
  refine List.forall_mem_cons.2 ⟨by decide, fun c hc => ?_⟩
  rw [mem_margin width hc]
  decide

/-- A text may be moved to the right before it is escaped, except that the last quote is not escaped
if there is a carriage return behind it. -/
theorem indentLines_docstringChars (s : List Char) :
    indentLines width (docstringChars s) =
      if s.getLast? = some '\r' then escapeTriples (indentLines width s)
      else docstringChars (indentLines width s) := by
  induction s using line_induction with
  | line a ha =>
    rw [if_neg ha.getLast?_ne, indentLines_line width ha,
      indentLines_line width (isLine_docstringChars ha)]
  | dropped a ha =>
    -- The carriage return is the last character for escaping, and no character for moving.
    rw [if_pos List.getLast?_concat, indentLines_dropped width ha, docstringChars_concat a rfl,
      indentLines_dropped width (isLine_escapeTriples ha)]
  | next a e b ha he ih =>
    -- Escaping goes by itself on either side of the line end, and so on either side of the line
    -- feed with its margin.
    have hne := List.cons_ne_nil '\n' (margin width b)
    have hplain := isUnescaped_margin width b
    have hindented : indentLines width (docstringChars (a ++ (e ++ b))) =
        escapeTriples a ++ ('\n' :: margin width b ++ indentLines width (docstringChars b)) := by
      rw [docstringChars_between he.ne_nil (isUnescaped_of_endsLine he.ends),
        indentLines_next width (isLine_escapeTriples ha) (isLineEnd_docstringChars he),
        margin_docstringChars]
      rfl
    rw [hindented, ih, indentLines_next width ha he, ← List.cons_append]
    simp only [he.getLast?_append a]
    split
    · exact (escapeTriples_between hne hplain a _).symm
    · exact (docstringChars_between hne hplain a _).symm

/-- Moving to the right leaves the quotes at the end, or those before a carriage return there. -/
theorem closingQuotes_indentLines (s : List Char) :
    closingQuotes (indentLines width s) =
      closingQuotes (if s.getLast? = some '\r' then s.dropLast else s) := by
  induction s using line_induction with
  | line a ha =>
    rw [if_neg ha.getLast?_ne, indentLines_line width ha]
  | dropped a ha =>
    rw [if_pos List.getLast?_concat, indentLines_dropped width ha, List.dropLast_concat]
  | next a e b ha he ih =>
    have hends := isUnescaped_of_endsLine he.ends
    rw [indentLines_next width ha he, ← List.cons_append,
      closingQuotes_append_unescaped (List.cons_ne_nil _ _) (isUnescaped_margin width b), ih]
    simp only [he.getLast?_append a]
    split
    · next hlast =>
      have hb : b ≠ [] := by
        rintro rfl
        cases hlast
      rw [List.dropLast_append_of_ne_nil (List.append_ne_nil_of_right_ne_nil e hb),
        List.dropLast_append_of_ne_nil hb, closingQuotes_append_unescaped he.ne_nil hends]
    · exact (closingQuotes_append_unescaped he.ne_nil hends a b).symm

end Moving

/-! ## Reading -/

section Reading

variable {s : List Char}

/-- Without the escape before the last quote, the quotes left over at the end of a text take part in
closing the literal, and as many come behind it. -/
theorem readTriple_escapeTriples (hnull : '\x00' ∉ s) :
    ∃ value, s = value ++ List.replicate (closingQuotes s % 3) '"' ∧
      readTriple (betweenQuotes (escapeTriples s)) =
        some (value, List.replicate (closingQuotes s % 3) '"') := by
  obtain ⟨a, hs, ha⟩ := exists_eq_append_rest s
  have hlt : closingQuotes s % 3 < 3 := Nat.mod_lt _ (by decide)
  generalize closingQuotes s % 3 = n at hs hlt
  have hescaped : escapeTriples s = escapeTriples a ++ List.replicate n '"' := by
    rw [hs, escapeTriples_append (Or.inl ha), escapeTriples_last hlt]
  have hquotes : List.replicate n '"' ++ "\"\"\"".toList =
      '"' :: '"' :: '"' :: List.replicate n '"' := by
    have hthree : "\"\"\"".toList = List.replicate 3 '"' := rfl
    rw [hthree, List.replicate_append_replicate, Nat.add_comm, ← List.replicate_append_replicate]
    rfl
  have hcut : cutAtQuotes (escapeTriples s ++ "\"\"\"".toList) =
      some (escapeTriples a, List.replicate n '"') := by
    rw [hescaped, List.append_assoc, cutAtQuotes_escapeTriples (Or.inl ha), hquotes,
      cutAtQuotes_close]
    exact congrArg (fun body => some (body, List.replicate n '"')) (List.append_nil _)
  have htext : unescape (escapeTriples a) = some a := by
    have hnothing : unescape [] = some [] := rfl
    have hread := unescape_escapeTriples a []
    rwa [List.append_nil, hnothing, Option.map_some, List.append_nil] at hread
  have hnone : '\x00' ∉ escapeTriples s := fun h =>
    (mem_escapeTriples h).elim hnull (by decide)
  exact ⟨a, hs, readTriple_betweenQuotes hnone hcut htext⟩

theorem not_endsInTriple_of_return (h : s.getLast? = some '\r') : ¬ EndsInTriple s := by
  obtain ⟨a, rfl⟩ := List.getLast?_eq_some_iff.1 h
  have hnone : closingQuotes (a ++ ['\r']) = 0 := closingQuotes_append_cons a [] (by decide)
  exact fun hends => absurd hends.1 (by omega)

/-- Moved to the right after it is escaped, a documentation text is read as the text that is moved
to the right, unless its last quote is escaped twice or not at all. -/
theorem readTriple_indentLines (width : Nat) (hnull : '\x00' ∉ s) :
    (¬ EndsInTriple s → ¬ HidesQuote s →
      readTriple (betweenQuotes (indentLines width (docstringChars s))) =
        some (indentLines width s, [])) ∧
    (EndsInTriple s ∨ HidesQuote s → ∃ value n, 0 < n ∧ n < 3 ∧
      readTriple (betweenQuotes (indentLines width (docstringChars s))) =
        some (value, List.replicate n '"')) := by
  have hnone : '\x00' ∉ indentLines width s := fun h =>
    (mem_indentLines width s _ h).elim (fun hmem => hnull hmem.1) (by decide)
  have hclosing := closingQuotes_indentLines width s
  rw [indentLines_docstringChars]
  split
  · next hlast =>
    rw [if_pos hlast] at hclosing
    obtain ⟨value, hvalue, hread⟩ := readTriple_escapeTriples hnone
    rw [hclosing] at hvalue hread
    rw [hread]
    refine ⟨fun _ hhides => ?_, fun h => ?_⟩
    · have hzero : closingQuotes s.dropLast % 3 = 0 := by_contra fun h => hhides ⟨hlast, h⟩
      rw [hzero, List.replicate_zero, List.append_nil] at hvalue
      rw [hzero, hvalue, List.replicate_zero]
    · rcases h with hends | hhides
      · exact absurd hends (not_endsInTriple_of_return hlast)
      · exact ⟨value, _, Nat.pos_of_ne_zero hhides.2, Nat.mod_lt _ (by decide), rfl⟩
  · next hlast =>
    rw [if_neg hlast] at hclosing
    have hends : EndsInTriple (indentLines width s) ↔ EndsInTriple s := by
      rw [EndsInTriple, hclosing, EndsInTriple]
    refine ⟨fun hnot _ => readTriple_docstringChars hnone (mt hends.1 hnot), fun h => ?_⟩
    rcases h with htriple | hhides
    · exact ⟨_, 1, by decide, by decide,
        readTriple_docstringChars_of_endsInTriple hnone (hends.2 htriple)⟩
    · exact absurd hhides.1 hlast

end Reading

/-! ## Documentation in its module -/

/-- The literal for the documentation text of a class or a method. -/
def indentedLiteral (width : Nat) (text : String) : String :=
  docLiteral (indent width (docstring text))

theorem toList_indentedLiteral (width : Nat) (text : String) :
    (indentedLiteral width text).toList =
      betweenQuotes (indentLines width (docstringChars text.toList)) := by
  rw [indentedLiteral, toList_docLiteral, indent, docstring, String.toList_ofList,
    String.toList_ofList]

namespace Module

/-- A class or a method of the module has the documentation text, and its literal is moved to the
right by so many spaces. -/
inductive Documents (m : Module) : Nat → String → Prop
  | ofClass {c : Class} {doc : String} (hclass : c ∈ m.service :: m.resources)
      (hdoc : c.doc.asText = .ok doc) : m.Documents 4 doc
  | ofMethod {c : Class} {method : Method} (hclass : c ∈ m.service :: m.resources)
      (hmethod : method ∈ c.methods) : m.Documents 8 method.doc

end Module

section Parts

variable {c : Class} {text : String}

theorem infix_concat {part : String} {texts : List String} (h : part ∈ texts) :
    part.toList <:+: (concat texts).toList := by
  obtain ⟨before, after, rfl⟩ := List.append_of_mem h
  simp only [concat, String.join_append, String.join_cons]
  exact infix_prepend (infix_append (List.infix_refl _) _) _

theorem infix_classText_doc (h : classText c = .ok text) {doc : String}
    (hdoc : c.doc.asText = .ok doc) : (indentedLiteral 4 doc).toList <:+: text.toList := by
  obtain ⟨escaped, hescaped, heq⟩ := Outcome.bind_eq_ok.1 h
  rw [classDoc, hdoc] at hescaped
  cases hescaped
  cases heq
  refine infix_append (infix_append (infix_append (infix_append (infix_append ?_ _) _) _) _) _
  exact infix_prepend (List.infix_refl _) _

theorem infix_methodText (m : Method) :
    (indentedLiteral 8 m.doc).toList <:+: (methodText m).toList := by
  have hline : (indentedLiteral 8 m.doc).toList <:+:
      (codeLines [indentedLiteral 8 m.doc]).toList := by
    refine List.IsInfix.trans ?_ (infix_concat (List.mem_singleton.2 rfl))
    exact infix_append (infix_prepend (List.infix_refl _) _) _
  -- The line has eleven parts of the method behind it.
  iterate 11 refine infix_append ?_ _
  exact infix_prepend hline _

theorem infix_classText_method (h : classText c = .ok text) {method : Method}
    (hmethod : method ∈ c.methods) : (indentedLiteral 8 method.doc).toList <:+: text.toList := by
  obtain ⟨escaped, -, heq⟩ := Outcome.bind_eq_ok.1 h
  cases heq
  exact (infix_methodText method).trans
    (infix_prepend (infix_concat (List.mem_map_of_mem hmethod)) _)

theorem infix_resourceTexts {classes : List Class} (h : resourceTexts classes = .ok text)
    (hc : c ∈ classes) : ∃ part, classText c = .ok part ∧ part.toList <:+: text.toList := by
  induction classes generalizing text with
  | nil => cases hc
  | cons first classes ih =>
    simp only [resourceTexts, Outcome.bind_eq_ok, Outcome.pure_eq_ok] at h
    obtain ⟨part, hpart, others, hothers, rfl⟩ := h
    rcases List.mem_cons.1 hc with rfl | hc
    · exact ⟨part, hpart, infix_append (infix_append (infix_prepend (List.infix_refl _) _) _) _⟩
    · obtain ⟨part', hclass, hinfix⟩ := ih hothers hc
      exact ⟨part', hclass, infix_prepend hinfix _⟩

namespace Module

theorem infix_text_of_mem {m : Module} (h : m.text = .ok text)
    (hc : c ∈ m.service :: m.resources) :
    ∃ part, classText c = .ok part ∧ part.toList <:+: text.toList := by
  rcases List.mem_cons.1 hc with rfl | hc
  · exact infix_text h
  · simp only [Module.text, Outcome.bind_eq_ok, Outcome.pure_eq_ok] at h
    obtain ⟨doc, -, service, -, resources, hresources, rfl⟩ := h
    obtain ⟨part, hpart, hinfix⟩ := infix_resourceTexts hresources hc
    exact ⟨part, hpart, infix_prepend hinfix _⟩

/-- The source text of a module holds the literals of its documentation. -/
theorem Documents.infix_text {m : Module} {width : Nat} {doc : String}
    (hdoc : m.Documents width doc) (h : m.text = .ok text) :
    (indentedLiteral width doc).toList <:+: text.toList := by
  cases hdoc with
  | ofClass hclass hdoc =>
    obtain ⟨part, hpart, hinfix⟩ := infix_text_of_mem h hclass
    exact (infix_classText_doc hpart hdoc).trans hinfix
  | ofMethod hclass hmethod =>
    obtain ⟨part, hpart, hinfix⟩ := infix_text_of_mem h hclass
    exact (infix_classText_method hpart hmethod).trans hinfix

end Module
end Parts

/-- The literal for a documentation text of a class or a method is complete, with nothing behind it
and no line end that reading changes, exactly if the quotes at the end of the text are none or are
no runs of three, and no carriage return at the end of the text is behind quotes that are left over
when they are counted by threes. Otherwise one or two quotes come behind the literal. It stands in
the source text of every module that has the documentation. -/
theorem readTriple_indentedLiteral (width : Nat) {text : String} (hnull : '\x00' ∉ text.toList) :
    unifyLineEnds (indentedLiteral width text).toList = (indentedLiteral width text).toList ∧
    (readTriple (indentedLiteral width text).toList = some ((indent width text).toList, []) ↔
      ¬ EndsInTriple text.toList ∧ ¬ HidesQuote text.toList) ∧
    (EndsInTriple text.toList ∨ HidesQuote text.toList → ∃ value n, 0 < n ∧ n < 3 ∧
      readTriple (indentedLiteral width text).toList = some (value, List.replicate n '"')) ∧
    ∀ m source, m.text = .ok source → Module.Documents m width text →
      (indentedLiteral width text).toList <:+: source.toList := by
  obtain ⟨hcomplete, hspilled⟩ := readTriple_indentLines width hnull
  rw [← toList_indentedLiteral] at hcomplete hspilled
  refine ⟨?_, ⟨fun hread => ?_, fun h => ?_⟩, hspilled, fun m source h hdoc => hdoc.infix_text h⟩
  · rw [toList_indentedLiteral, unifyLineEnds_betweenQuotes, unifyLineEnds_indentLines]
  · rw [← not_or]
    intro h
    obtain ⟨value, n, hpos, -, hquotes⟩ := hspilled h
    rw [hread] at hquotes
    have hrest := (Prod.mk.inj (Option.some.inj hquotes)).2
    exact absurd ((List.replicate_eq_nil_iff _).1 hrest.symm) (by omega)
  · rw [indent, String.toList_ofList]
    exact hcomplete h.1 h.2

namespace Module

/-- A module whose service has a documentation is written with it. -/
theorem exists_documents {document : Json} {doc : String}
    (h : (ofDocument document).1.toOption.map
        (fun m => (m.text.toOption.isSome, m.service.doc.asText.toOption)) =
      some (true, some doc)) :
    ∃ m log source, ofDocument document = (.ok m, log) ∧ m.text = .ok source ∧
      Documents m 4 doc := by
  obtain ⟨m, hm, hrendered⟩ := Outcome.exists_ok_of_map h
  obtain ⟨hsome, hdoc⟩ := Prod.mk.inj hrendered
  obtain ⟨source, hsource⟩ := Outcome.exists_ok_of_isSome hsome
  exact ⟨m, _, source, Outcome.eq_of_fst hm, hsource,
    .ofClass List.mem_cons_self (Outcome.eq_ok_of_toOption hdoc)⟩

/-- A document with nothing but a title. -/
def titled (title : String) : Json :=
  .obj [("name", .str "b"), ("version", .str "v1"), ("title", .str title),
    ("baseUrl", .str "https://a/")]

/-- Quotes before line ends of several kinds, and three of them before a carriage return at the
end. -/
def sampleTitle : String := "\"\"\"\"\r\n a\u2028\\\r\"\"\x0b \"\n\"\"\"\r"

theorem readTriple_indentedLiteral_sampleTitle :
    ∃ m log source, ofDocument (titled sampleTitle) = (.ok m, log) ∧ m.text = .ok source ∧
      (indentedLiteral 4 sampleTitle).toList <:+: source.toList ∧
      readTriple (indentedLiteral 4 sampleTitle).toList =
        some ((indent 4 sampleTitle).toList, []) := by
  obtain ⟨m, log, source, hmade, hsource, hdoc⟩ : ∃ m log source,
      ofDocument (titled sampleTitle) = (.ok m, log) ∧ m.text = .ok source ∧
        Documents m 4 sampleTitle := exists_documents (by decide)
  have hnull : '\x00' ∉ sampleTitle.toList := by decide
  obtain ⟨-, hread, -, hinfix⟩ := readTriple_indentedLiteral 4 hnull
  exact ⟨m, log, source, hmade, hsource, hinfix m source hsource hdoc,
    hread.2 (by decide)⟩

/-- A carriage return behind a quoted word at the end of a title keeps the last quote from being
escaped, and is lost itself: the quote closes the documentation of the class with two of those
behind it. -/
theorem exists_docstring_spilled :
    ∃ m log source, ofDocument (titled "The \"b\"\r") = (.ok m, log) ∧ m.text = .ok source ∧
      (docLiteral (indent 4 (docstring "The \"b\"\r"))).toList <:+: source.toList ∧
      readTriple (docLiteral (indent 4 (docstring "The \"b\"\r"))).toList =
        some ("The \"b".toList, ['"']) := by
  obtain ⟨m, log, source, hmade, hsource, hdoc⟩ : ∃ m log source,
      ofDocument (titled "The \"b\"\r") = (.ok m, log) ∧ m.text = .ok source ∧
        Documents m 4 "The \"b\"\r" := exists_documents (by decide)
  exact ⟨m, log, source, hmade, hsource, hdoc.infix_text hsource, by decide⟩

end Module
end ApiDiscovery.Source
