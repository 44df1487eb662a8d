import ApiDiscovery.Proofs.Uri.Query
import ApiDiscovery.Request.Session

/-!
# Parameters as queries

Parameters that are written as a query are read from it again, names and values and their order
(`Session.parameters_as_query`). So it makes no difference to a request if its parameters are given
as an object of texts or as the query that names them.
-/

namespace ApiDiscovery.Request

open Uri.Query (toParameters ofParameters toParameters_ofParameters nodup_toParameters)

/-- Parameters as the members of an object. -/
def textMembers (parameters : Ordered String) : Json.Members :=
  parameters.map fun p => (p.1, .str p.2)

namespace Draft

theorem wireTexts_textMembers (parameters : Ordered String) :
    wireTexts (textMembers parameters) = parameters := by
  induction parameters with
  | nil => rfl
  | cons p parameters ih =>
    calc
      _ = (p.1, Json.wireText (.str p.2)) :: wireTexts (textMembers parameters) := rfl
      _ = p :: parameters := by
        rw [ih]
        rfl

theorem parametersOf_obj (parameters : Ordered String) :
    parametersOf (.obj (textMembers parameters)) = .ok parameters :=
  congrArg Except.ok (wireTexts_textMembers parameters)

theorem parametersOf_query {parameters : Ordered String} (h : (Ordered.names parameters).Nodup) :
    parametersOf (.str (ofParameters parameters)) = .ok parameters :=
  congrArg Except.ok (toParameters_ofParameters h)

end Draft

namespace Session

/-- Parameters written as a query and read again are the same in the same order. So a call with the
query leads to what a call with an object of them leads to, which is a session with these
parameters; and what was read from any query is read again from the query it is written as. -/
theorem parameters_as_query :
    (∀ parameters : Ordered String, (Ordered.names parameters).Nodup →
      toParameters (ofParameters parameters) = parameters ∧
      ∀ s : Session,
        s.call (.parameters (.str (ofParameters parameters))) =
          s.call (.parameters (.obj (textMembers parameters))) ∧
        (s.call (.parameters (.obj (textMembers parameters)))).session =
          { s with draft := { s.draft with parameters := parameters } }) ∧
      ∀ query, toParameters (ofParameters (toParameters query)) = toParameters query := by
  constructor
  · intro parameters hnames
    refine ⟨toParameters_ofParameters hnames, fun s => ⟨?_, ?_⟩⟩
    · rw [call, call, Draft.parametersOf_query hnames, Draft.parametersOf_obj]
    · rw [call, Draft.parametersOf_obj]
      rfl
  · exact fun query => toParameters_ofParameters (nodup_toParameters query)

/-- Names and values with the marks of queries, and empty ones. -/
def sampleMarked : Ordered String :=
  [("?q", "a&b=c+d%20"), ("", "ü漢"), ("=", ""), ("q", "?")]

theorem parameters_as_query_sampleMarked :
    (Ordered.names sampleMarked).Nodup ∧
      ofParameters sampleMarked =
        "%3Fq=a%26b%3Dc%2Bd%2520&=%C3%BC%E6%BC%A2&%3D=&q=%3F" ∧
      toParameters "%3Fq=a%26b%3Dc%2Bd%2520&=%C3%BC%E6%BC%A2&%3D=&q=%3F" = sampleMarked := by
  have hnames : (Ordered.names sampleMarked).Nodup := by decide
  have hquery : ofParameters sampleMarked =
      "%3Fq=a%26b%3Dc%2Bd%2520&=%C3%BC%E6%BC%A2&%3D=&q=%3F" := by decide
  refine ⟨hnames, hquery, ?_⟩
  rw [← hquery]
  exact (parameters_as_query.1 sampleMarked hnames).1

end Session
end ApiDiscovery.Request
