import ApiDiscovery.Proofs.Request.Query
import ApiDiscovery.Proofs.Uri.Resolve

/-!
# The address of a request

The address of a request is read from that of its filled in path, joined with the base, and from a
query behind it (`Draft.url_eq_ok`). Behind an address without a query and a fragment, and only
there, the query is read as what the draft asks for (`Draft.asks_iff_isBare`). So a plain path and a
plain base keep every parameter as it was supplied (`Draft.prepare_query`).
-/

namespace ApiDiscovery.Request.Draft

open ApiDiscovery.Text Outcome
open Uri (Url Reference)
open Uri.Query (Pairs gather)

/-! ## Steps to the address -/

/-- The path of the method filled in. -/
def filledPath (d : Draft) : Except Fault String := do
  let template ← ofDiscovery d.method.template
  (template.expand d.pathValues).mapError .noValue

theorem prepare_eq_ok {d : Draft} {r : Prepared} (h : d.prepare = .ok r) :
    d.validate = .ok () ∧ d.url = .ok r.url := by
  simp only [prepare, bind_eq_ok, pure_eq_ok] at h
  obtain ⟨_, hvalid, url, hurl, rfl⟩ := h
  exact ⟨hvalid, hurl⟩

/-- The query that stands for these pairs. -/
def queryChars (pairs : Pairs) : List Char := (Uri.Query.build pairs).toList

theorem url_eq_ok {d : Draft} {u : Url} (h : d.url = .ok u) :
    ∃ path joined others, d.filledPath = .ok path ∧ d.base.join path.toList = .ok joined ∧
      d.askedPairs = .ok ((encodingName, d.returnType.name) :: others) ∧
      (∀ p ∈ others, p.1 ≠ encodingName) ∧
      Url.ofText (joined.chars ++
        '?' :: queryChars ((encodingName, d.returnType.name) :: others)) = .ok u := by
  simp only [url, ofDiscovery, ofResolving, ofAddress, bind_eq_ok, mapError_eq_ok] at h
  obtain ⟨pairs, hpairs, template, htemplate, path, hpath, joined, hjoined, query, hquery, hu⟩ := h
  have hwire : d.wirePairs = .ok ((.str encodingName, d.returnType.name) :: pairs) := by
    simp [wirePairs, hpairs]
  obtain ⟨others, hasked, hothers, rfl⟩ := askedPairs_of_queryText hwire hquery
  refine ⟨path, joined, others, ?_, hjoined, hasked, hothers, hu⟩
  simp only [filledPath, ofDiscovery, bind_eq_ok, mapError_eq_ok]
  exact ⟨template, htemplate, hpath⟩

/-! ## The query -/

theorem queryChars_keeps (pairs : Pairs) : ∀ c ∈ queryChars pairs, Url.keepsInQuery c = true :=
  Uri.Query.build_forall
    (fun _ hc => Url.keepsInQuery_of_keepsInPath (Url.keepsInPath_of_isUnreserved hc))
    (by decide) (by decide) (by decide) (by decide) pairs

theorem numberSign_not_mem_queryChars (pairs : Pairs) : '#' ∉ queryChars pairs := fun h =>
  Url.ne_numberSign_of_keepsInQuery (queryChars_keeps pairs _ h) rfl

/-- The address says what the draft asks for: its query is read as the pairs of the draft, gathered
by name, with the encoding of the response first and not repeated; and it has no fragment. -/
def Asks (d : Draft) (u : Url) : Prop :=
  ∃ query asked others, u.query = some query ∧ d.askedPairs = .ok asked ∧
    Uri.Query.parse (String.ofList query) = gather asked ∧
    gather asked = (encodingName, d.returnType.name) :: others ∧
    (∀ p ∈ others, p.1 ≠ encodingName) ∧ u.fragment = none

/-- Behind a text without query and fragment the query is what the draft asks for. -/
theorem asks_of_isPlain {d : Draft} {u : Url} {s : List Char} {others : Pairs}
    (hasked : d.askedPairs = .ok ((encodingName, d.returnType.name) :: others))
    (hothers : ∀ p ∈ others, p.1 ≠ encodingName) (hs : Reference.IsPlain s)
    (hu : Url.ofText (s ++ '?' :: queryChars ((encodingName, d.returnType.name) :: others)) =
      .ok u) : d.Asks u := by
  obtain ⟨v, hv, rfl⟩ := Url.ofText_append_query hs (numberSign_not_mem_queryChars _) hu
  have hgather := Uri.Query.gather_lone (encodingName, d.returnType.name) hothers
  refine ⟨_, _, gather others, rfl, hasked, ?_, hgather, Uri.Query.gather_forall_ne hothers,
    (Url.isBare_ofText hs hv).2⟩
  rw [Uri.Percent.encode_of_keeps (queryChars_keeps _), queryChars, String.ofList_toList,
    Uri.Query.parse_build]

theorem not_mem_encoding (returnType : ReturnType) :
    '?' ∉ encodingName.toList ∧ '?' ∉ returnType.name.toList := by
  cases returnType <;> decide

/-- Only behind an address without query and fragment the query is what the draft asks for. -/
theorem asks_iff_isBare {d : Draft} {u joined : Url} {s : List Char} {others : Pairs}
    (hasked : d.askedPairs = .ok ((encodingName, d.returnType.name) :: others))
    (hothers : ∀ p ∈ others, p.1 ≠ encodingName) (hjoined : Url.ofText s = .ok joined)
    (hu : Url.ofText (joined.chars ++
      '?' :: queryChars ((encodingName, d.returnType.name) :: others)) = .ok u) :
    d.Asks u ↔ joined.IsBare := by
  refine ⟨?_, fun hbare => asks_of_isPlain hasked hothers (hbare.isPlain_chars hjoined) hu⟩
  -- A number sign takes what is behind it into the fragment, a question mark into one query.
  rintro ⟨query, asked, _, hquery, hasked', hparse, -, -, hfragment⟩
  obtain rfl := Except.ok.inj (hasked.symm.trans hasked')
  have hjoinedFragment : joined.fragment = none := by
    cases hf : joined.fragment with
    | none => rfl
    | some fragment =>
      have hmark : '#' ∈ joined.chars := by
        simp [Url.chars, Url.reference, Reference.text, Reference.after, hf]
      have hread := (Url.ofText_eq_ok hu).fragment
      rw [hfragment] at hread
      exact absurd (Option.map_eq_none_iff.1 hread.symm)
        (Reference.fragment_ne_none (List.mem_append_left _ hmark))
  refine ⟨?_, hjoinedFragment⟩
  cases hq : joined.query with
  | none => rfl
  | some w =>
    have hbehind := Url.ofText_append_behind_query hjoined hq hjoinedFragment
      (queryChars_keeps _) hu
    rw [hquery] at hbehind
    cases hbehind
    obtain ⟨hname, hvalue⟩ := not_mem_encoding d.returnType
    exact absurd hparse (Uri.Query.parse_behind_ne w others hname hvalue)

/-- The query of a request is read as the encoding of the response, which no other pair repeats,
and the supplied parameters for the query, gathered by name: none is lost, doubled, renamed or
changed. -/
theorem prepare_query {d : Draft} {r : Prepared} {s : List Char} {path : String}
    (hnames : d.HasTextNames) (hbase : Url.ofText s = .ok d.base) (hbare : d.base.IsBare)
    (hpath : d.filledPath = .ok path) (hplain : '?' ∉ path.toList ∧ '#' ∉ path.toList)
    (h : d.prepare = .ok r) :
    ∃ query others, r.url.query = some query ∧
      Uri.Query.parse (String.ofList query) = gather d.declaredPairs ∧
      gather d.declaredPairs = (encodingName, d.returnType.name) :: others ∧
      (∀ p ∈ others, p.1 ≠ encodingName) ∧
      others.Perm (d.parameters.filterMap d.queryPair?) := by
  obtain ⟨-, hurl⟩ := prepare_eq_ok h
  obtain ⟨path', joined, rest, hpath', hjoined, hasked, hrest, hu⟩ := url_eq_ok hurl
  obtain rfl : path = path' := Except.ok.inj (hpath.symm.trans hpath')
  have hreference : Reference.IsPlain path.toList := by
    intro c hc
    rw [← Bool.not_eq_true, Reference.endsPath, Bool.or_eq_true, beq_iff_eq, beq_iff_eq]
    rintro (rfl | rfl)
    · exact hplain.1 hc
    · exact hplain.2 hc
  -- Neither the base nor the path has a query, so the joined address has none to be read before.
  have hj := Url.join_isBare hbase hbare hreference hjoined
  obtain ⟨_, target, -, -, htarget⟩ := Url.join_eq_ok hjoined
  obtain ⟨query, asked, others, hquery, hasked, hparse, hgather, hfree, -⟩ :=
    asks_of_isPlain hasked hrest (hj.isPlain_chars htarget) hu
  -- The pairs are gathered when they are written and once more when they are read.
  have hdeclared : gather asked = gather d.declaredPairs := by
    rw [askedPairs_eq_ok hnames hasked, Uri.Query.gather_gather]
  rw [hdeclared] at hparse hgather
  refine ⟨query, others, hquery, hparse, hgather, hfree, ?_⟩
  have hperm := Uri.Query.gather_perm d.declaredPairs
  rw [hgather, declaredPairs] at hperm
  exact List.Perm.cons_inv hperm

/-! ## A service for examples -/

/-- The base address of a service. -/
def sampleBase : Url :=
  { scheme := "https".toList
    userinfo := []
    host := "api.example.com".toList
    port := none
    path := "/v1/".toList
    query := none
    fragment := none }

/-- A draft for a method of the service with this path and these parameters. -/
def sampleDraft (path : String) (declared : Ordered Discovery.Parameter)
    (supplied : Ordered String) : Draft :=
  { method :=
      { name := "get"
        id := .str "items.get"
        verb := "GET"
        path := .str path
        parameters := declared }
    verb := .get
    base := sampleBase
    callName := .str "items.get"
    parameters := supplied }

/-- A parameter for the path. -/
def samplePathParameter (name : String) : String × Discovery.Parameter :=
  (name, { name := name, wireName := .str name, location := .path })

/-- A parameter for the query that has another name on the wire. -/
def sampleQueryParameter (name wire : String) : String × Discovery.Parameter :=
  (name, { name := name, wireName := .str wire })

theorem sampleBase_read : Url.ofText "https://api.example.com/v1/".toList = .ok sampleBase := by
  decide

/-- A value with the marks of queries comes back as it was supplied. -/
theorem prepare_query_sample :
    ∃ r query, (sampleDraft "items/{id}" [samplePathParameter "id", sampleQueryParameter "q" "find"]
        [("q", "a&alt=b c#?"), ("id", "x")]).prepare = .ok r ∧ r.url.query = some query ∧
      Uri.Query.parse (String.ofList query) = [("alt", "json"), ("find", "a&alt=b c#?")] := by
  have hprepare : ((sampleDraft "items/{id}"
      [samplePathParameter "id", sampleQueryParameter "q" "find"]
      [("q", "a&alt=b c#?"), ("id", "x")]).prepare).toOption.isSome = true := by decide +kernel
  obtain ⟨r, hr⟩ := exists_ok_of_isSome hprepare
  have hpath : (sampleDraft "items/{id}"
      [samplePathParameter "id", sampleQueryParameter "q" "find"]
      [("q", "a&alt=b c#?"), ("id", "x")]).filledPath = .ok "items/x" :=
    eq_ok_of_toOption (by decide +kernel)
  obtain ⟨query, others, hquery, hparse, -⟩ := prepare_query (by decide) sampleBase_read
    ⟨rfl, rfl⟩ hpath (by decide) hr
  refine ⟨r, query, hr, hquery, hparse.trans ?_⟩
  decide

end ApiDiscovery.Request.Draft
