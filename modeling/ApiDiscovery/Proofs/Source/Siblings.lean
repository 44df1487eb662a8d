import ApiDiscovery.Proofs.Source.Module

/-!
# Siblings with one identifier

Sanitising keeps the words of names that an underscore or a dot joins, so siblings with one
identifier lead to one class name. There is no module for a document with such siblings, and the
class of at least one of them is not made (`ofDocument_siblings`): the walk stops at the later one,
because its class has a name that is in use, unless there is another reason to stop before. The
siblings may be that reason themselves, as the attributes behind their accessors may have names in
use (`exists_siblings_not_duplicate`).
-/

namespace ApiDiscovery.Source.Module

open Outcome
open Discovery (Document Site)
open Discovery.Tree (sites)

/-- Two resources right below the same site have one identifier. -/
structure AreSiblings (body : Json.Members) (parent : Site) (a b : String) : Prop where
  site : parent ∈ sites (.obj body)
  left : a ∈ parent.children
  right : b ∈ parent.children
  ne : a ≠ b
  identifier : Naming.identifier a = Naming.identifier b

section Siblings

variable {document : Json} {described : Document} {parent : Site} {a b : String}
  (h : AreSiblings described.body parent a b)

include h

/-- The classes of a module have distinct names, and names with one identifier would not. -/
theorem AreSiblings.ofDocument_ne_ok (hdescribed : Document.ofJson document = .ok described)
    (m : Module) : (ofDocument document).1 ≠ .ok m := by
  intro hok
  obtain ⟨service, found, hmade⟩ := ofDocument_spec (eq_of_fst hok)
  cases hdescribed.symm.trans hmade.readDocument
  have htree := Discovery.Tree.isTree_of_nested hmade.readResources
  have hidentifiers := identifiers_nodup htree hmade.siteNames h.site
  exact h.ne (List.inj_on_of_nodup_map hidentifiers h.left h.right h.identifier)

/-- Among sites whose classes have distinct names there are not both of the siblings. -/
theorem AreSiblings.not_both {made : List Site}
    (hdistinct : (made.map fun site => Naming.resourceClass site.path).Nodup) :
    ¬ (parent.trail ++ [a] ∈ made.map Site.trail ∧ parent.trail ++ [b] ∈ made.map Site.trail) := by
  rintro ⟨hleft, hright⟩
  obtain ⟨left, hleft, hlefttrail⟩ := List.mem_map.1 hleft
  obtain ⟨right, hright, hrighttrail⟩ := List.mem_map.1 hright
  have hclass : Naming.resourceClass left.path = Naming.resourceClass right.path := by
    rw [Site.path_of_trail hlefttrail, Site.path_of_trail hrighttrail]
    exact Naming.resourceClass_eq_of_identifier h.identifier parent.path
  -- One class name is that of one site, and one site has one trail.
  have hsame : left = right := List.inj_on_of_nodup_map hdistinct hleft hright hclass
  rw [← hsame, hlefttrail] at hrighttrail
  exact h.ne (List.singleton_inj.1 (List.append_cancel_left hrighttrail))

end Siblings

theorem Refusal.distinct {document : Json} {body : Json.Members} {made : List Site} {fault : Fault}
    (h : Refusal document body made fault) :
    (made.map fun site => Naming.resourceClass site.path).Nodup := by
  cases h with
  | service _ => exact List.nodup_nil
  | serviceClass _ _ => exact List.nodup_nil
  | site _ _ hpasses _ =>
    have hdistinct := hpasses.distinct
    rwa [List.map_map] at hdistinct

/-- The words of two names with an underscore between them are those of the one and then those of
the other. Names with one identifier lead to one class name behind every path. So there is no module
for a document with siblings of one identifier, and the reason shows before the classes of both are
made. -/
theorem ofDocument_siblings :
    (∀ a b, Naming.partsOf (Naming.sanitize (a ++ "_" ++ b)).toList =
        Naming.partsOf (Naming.sanitize a).toList ++ Naming.partsOf (Naming.sanitize b).toList) ∧
      (∀ above a b, Naming.identifier a = Naming.identifier b →
        Naming.resourceClass (above ++ "." ++ a) = Naming.resourceClass (above ++ "." ++ b)) ∧
      ∀ document described parent a b, Document.ofJson document = .ok described →
        AreSiblings described.body parent a b →
          ∃ made fault, (ofDocument document).1 = .error fault ∧
            Refusal document described.body made fault ∧
            ¬ (parent.trail ++ [a] ∈ made.map Site.trail ∧
              parent.trail ++ [b] ∈ made.map Site.trail) := by
  refine ⟨fun a b => ?_, fun above a b h => Naming.resourceClass_eq_behind h above, ?_⟩
  · rw [Naming.partsOf_sanitize, Naming.partsOf_sanitize, Naming.partsOf_sanitize]
    exact Naming.nameWords_append rfl Naming.isSeparator_underscore a b
  · intro document described parent a b hdescribed h
    cases hmade : (ofDocument document).1 with
    | ok m => exact absurd hmade (h.ofDocument_ne_ok hdescribed m)
    | error fault =>
      obtain ⟨made, hrefusal⟩ := ofDocument_eq_error hdescribed hmade
      exact ⟨made, fault, rfl, hrefusal, h.not_both hrefusal.distinct⟩

/-- What is in a document with these resources. -/
def membersWith (resources : Json.Members) : Json.Members :=
  [("name", .str "b"), ("version", .str "v1"), ("baseUrl", .str "https://a/"),
    ("resources", .obj resources)]

/-- The resources of a document with siblings of one identifier, and one between them. -/
def sampleSiblings : Json.Members :=
  [("x", .obj [("resources", .obj [("a-b", .obj []), ("c", .obj []), ("a_b", .obj [])])])]

theorem ofDocument_siblings_sampleSiblings :
    Naming.partsOf (Naming.sanitize ("maxResults" ++ "_" ++ "2-Step")).toList =
        Naming.partsOf (Naming.sanitize "maxResults").toList ++
          Naming.partsOf (Naming.sanitize "2-Step").toList ∧
      Naming.resourceClass ("" ++ "." ++ "a-b") = Naming.resourceClass ("" ++ "." ++ "a_b") ∧
      ∃ described parent made fault,
        Document.ofJson (.obj (membersWith sampleSiblings)) = .ok described ∧
        AreSiblings described.body parent "a-b" "a_b" ∧
        (ofDocument (.obj (membersWith sampleSiblings))).1 = .error fault ∧
        Refusal (.obj (membersWith sampleSiblings)) described.body made fault ∧
        ¬ (parent.trail ++ ["a-b"] ∈ made.map Site.trail ∧
          parent.trail ++ ["a_b"] ∈ made.map Site.trail) ∧
        fault.message = "resource 'x.a_b' maps to duplicate class name XABResource" := by
  obtain ⟨hwords, hclasses, hdocument⟩ := ofDocument_siblings
  have hidentifier : Naming.identifier "a-b" = Naming.identifier "a_b" := by decide
  have hsiblings : AreSiblings (membersWith sampleSiblings)
      ⟨["x"], [("resources", .obj [("a-b", .obj []), ("c", .obj []), ("a_b", .obj [])])]⟩
      "a-b" "a_b" :=
    ⟨List.mem_cons_of_mem _ List.mem_cons_self, by decide, by decide, by decide, hidentifier⟩
  obtain ⟨made, fault, hfault, hrefusal, hboth⟩ :=
    hdocument (.obj (membersWith sampleSiblings)) ⟨"b", "v1", membersWith sampleSiblings⟩ _ _ _ rfl
      hsiblings
  obtain ⟨found, hfound, hmessage⟩ := exists_error_of_map
    (show (faultOf? (ofDocument (.obj (membersWith sampleSiblings))).1).map Fault.message =
      some "resource 'x.a_b' maps to duplicate class name XABResource" by decide +kernel)
  obtain rfl : fault = found := Except.error.inj (hfault.symm.trans hfound)
  exact ⟨hwords _ _, hclasses _ _ _ hidentifier, _, _, made, fault, rfl, hsiblings, hfault,
    hrefusal, hboth, hmessage⟩

/-- The resources of a document with two siblings whose identifier is a lone underscore, and one
whose identifier has a digit behind it. -/
def sampleOvertaken : Json.Members := [("", .obj []), (".", .obj []), ("2", .obj [])]

/-- The reason may show before a class name is compared: the accessor of the second sibling has the
name of the attribute behind that of another resource. -/
theorem exists_siblings_not_duplicate :
    ∃ described fault, Document.ofJson (.obj (membersWith sampleOvertaken)) = .ok described ∧
      AreSiblings described.body ⟨[], described.body⟩ "" "." ∧
      (ofDocument (.obj (membersWith sampleOvertaken))).1 = .error fault ∧
      fault.message = "the field name [__2] was already used within BService" ∧
      ∀ path className, fault ≠ .duplicateClass path className := by
  have hsiblings : AreSiblings (membersWith sampleOvertaken) ⟨[], membersWith sampleOvertaken⟩
      "" "." :=
    ⟨List.mem_cons_self, by decide, by decide, by decide, by decide⟩
  obtain ⟨fault, hfault, hmessage⟩ := exists_error_of_map
    (show (faultOf? (ofDocument (.obj (membersWith sampleOvertaken))).1).map Fault.message =
      some "the field name [__2] was already used within BService" by decide)
  refine ⟨⟨"b", "v1", membersWith sampleOvertaken⟩, fault, rfl, hsiblings, hfault, hmessage, ?_⟩
  -- The words for a class name in use start with another letter.
  rintro path className rfl
  have hhead := congrArg (fun message => message.toList.head?) hmessage
  simp [Fault.message] at hhead

end ApiDiscovery.Source.Module
