import ApiDiscovery.Proofs.Literal.Layout
import ApiDiscovery.Proofs.Source.Module
import ApiDiscovery.Source.Writer

/-!
# The document in its module

The class of a service has the document as the last of its constants, and the source text of that
constant is read as the document (`Module.ofDocument_embeds`): the same members in the same order,
integers and doubles kept apart, and every text character by character, however the literal is laid
out over lines and although its lines are moved to the right. The document needs distinct keys, which
every one has that was read from a text (`Json.hasDistinctKeys_ofText`), and finite numbers.
-/

namespace ApiDiscovery.Source

/-- The value of a constant as it stands in the text of its class. -/
def Field.valueText (f : Field) : String := Text.indent 4 f.literal

/-- The text of a constant is read as its value. -/
theorem Field.read_valueText {f : Field} (hfinite : f.value.hasFiniteNumbers = true)
    (hkeys : f.value.hasDistinctKeys = true) :
    Literal.read f.literal.toList = some f.value ∧
      Literal.read f.valueText.toList = some f.value := by
  obtain ⟨hliteral, hindented⟩ := Literal.read_indentLines hfinite hkeys 4
  refine ⟨hliteral, ?_⟩
  rw [valueText, Text.indent, String.toList_ofList]
  exact hindented

/-! ## Parts of the text -/

section Infix

variable {a b : String}

theorem infix_append (h : a.toList <:+: b.toList) (c : String) : a.toList <:+: (b ++ c).toList := by
  rw [String.toList_append]
  exact h.trans (List.prefix_append b.toList c.toList).isInfix

theorem infix_prepend (h : a.toList <:+: b.toList) (c : String) :
    a.toList <:+: (c ++ b).toList := by
  rw [String.toList_append]
  exact h.trans (List.suffix_append c.toList b.toList).isInfix

end Infix

theorem concat_append_singleton (texts : List String) (last : String) :
    concat (texts ++ [last]) = concat texts ++ last := by
  simp [concat, String.join]

/-- The text of a class holds those of its constants. -/
theorem infix_classText {c : Class} {text constants part : String} (h : classText c = .ok text)
    (hconstants : concat (c.fields.map fieldText) = constants)
    (hpart : part.toList <:+: constants.toList) : part.toList <:+: text.toList := by
  obtain ⟨doc, -, heq⟩ := Outcome.bind_eq_ok.1 h
  cases heq
  rw [hconstants]
  exact infix_append (infix_append (infix_append (infix_prepend hpart _) _) _) _

namespace Module

theorem infix_text {m : Module} {text : String} (h : m.text = .ok text) :
    ∃ service, classText m.service = .ok service ∧ service.toList <:+: text.toList := by
  simp only [Module.text, Outcome.bind_eq_ok, Outcome.pure_eq_ok] at h
  obtain ⟨doc, -, service, hservice, resources, -, rfl⟩ := h
  refine ⟨service, hservice, ?_⟩
  exact infix_append (infix_append (infix_prepend (List.infix_refl _) _) _) _

/-! ## The document -/

/-- The last constant of the class of a service, and no other, is the document, whose source text is
read as the document. -/
theorem ofDocument_embeds {document : Json} {m : Module} {log : List Log.Record}
    (hfinite : document.hasFiniteNumbers = true) (hkeys : document.hasDistinctKeys = true)
    (h : ofDocument document = (.ok m, log)) :
    ∃ others field, m.service.fields = others ++ [field] ∧ field.name = "DISCOVERY" ∧
      (∀ other ∈ others, other.name ≠ "DISCOVERY") ∧ field.value = document ∧
      Literal.read field.literal.toList = some document ∧
      Literal.read field.valueText.toList = some document ∧
      ∀ text, m.text = .ok text →
        ("\n    DISCOVERY = " ++ field.valueText ++ "\n").toList <:+: text.toList := by
  obtain ⟨service, described, hmade⟩ := ofDocument_spec h
  obtain ⟨doc, hclass⟩ := hmade.serviceClass
  have hfields : m.service.fields = [⟨"NAME", .str service.name⟩,
      ⟨"VERSION", .str service.version⟩, ⟨"BASE_URI", service.baseUri⟩] ++
        [⟨"DISCOVERY", document⟩] := by
    rw [hclass]
    rfl
  obtain ⟨hliteral, htext⟩ := Field.read_valueText (f := ⟨"DISCOVERY", document⟩) hfinite hkeys
  refine ⟨_, _, hfields, rfl, ?_, rfl, hliteral, htext, ?_⟩
  · intro other hother
    simp only [List.mem_cons, List.not_mem_nil, or_false] at hother
    rcases hother with rfl | rfl | rfl
    · exact show "NAME" ≠ "DISCOVERY" by decide
    · exact show "VERSION" ≠ "DISCOVERY" by decide
    · exact show "BASE_URI" ≠ "DISCOVERY" by decide
  · intro text hmodule
    obtain ⟨service, hservice, hinfix⟩ := infix_text hmodule
    have hconstants := congrArg (fun fields => concat (fields.map fieldText)) hfields
    simp only [List.map_append, List.map_singleton, concat_append_singleton] at hconstants
    refine (infix_classText hservice hconstants ?_).trans hinfix
    exact infix_prepend (List.infix_refl _) _

/-- A document with a description that is cut over several lines, escapes, and numbers of either
kind. -/
def sampleEmbedded : Json :=
  .obj [("name", .str "buzz"), ("version", .str "v1"), ("baseUrl", .str "https://a/"),
    ("description", .str ("Reads and writes what people share with each other.\n" ++
      "It's the \"buzz\" of those they follow, and what they like, mute or comment on.")),
    ("limits", .arr [.int 1, .double (Double.ofRatio true 1 10), .null, .bool false]),
    ("é\u2028\\", .obj [])]

theorem ofDocument_embeds_sampleEmbedded :
    ∃ m log field, ofDocument sampleEmbedded = (.ok m, log) ∧ field ∈ m.service.fields ∧
      field.name = "DISCOVERY" ∧ Literal.read field.valueText.toList = some sampleEmbedded := by
  obtain ⟨m, hm⟩ := Outcome.exists_ok_of_isSome
    (show (ofDocument sampleEmbedded).1.toOption.isSome = true by decide +kernel)
  have hmade := Outcome.eq_of_fst hm
  obtain ⟨others, field, hfields, hname, -, -, -, hread, -⟩ :=
    ofDocument_embeds (by decide) (by decide) hmade
  refine ⟨m, _, field, hmade, ?_, hname, hread⟩
  rw [hfields]
  exact List.mem_append_right _ (List.mem_singleton.2 rfl)

end Module
end ApiDiscovery.Source
