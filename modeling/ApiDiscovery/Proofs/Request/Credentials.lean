import ApiDiscovery.Proofs.Request.Session
import ApiDiscovery.Proofs.Uri.Reread

/-!
# A key in the query

The authenticator with a key sets one parameter of the query (`Authenticator.apply_apiKey`): the key
is sent once, under its name, and all other parameters keep their values and their order. What stands
before the query of an absolute address is read once more and stays the same address; an address that
is not absolute is sent from the root, and what was before its path is lost
(`Authenticator.exists_other_place`).
-/

namespace ApiDiscovery.Request

open ApiDiscovery.Outcome
open Uri (Url Reference)
open Uri.Query (Pairs IsSet isSet_set parse_build_set)

/-- The parameters that the query of an address is read as. -/
def sentPairs (url : Url) : Pairs := Uri.Query.parse (String.ofList (url.query.getD []))

/-- The request that goes out is the prepared one with a key as a parameter of the query. An absolute
address is the prepared one, read once more; any other one starts from the root. -/
structure Outbound.IsKeyed (o : Outbound) (p : Prepared) (parameter key : String) : Prop where
  verb : o.verb = p.verb
  contentType : o.contentType = p.contentType
  authorization : o.authorization = none
  content : o.content = p.content
  absolute : p.url.isAbsolute = true → o.url.IsReadingOf p.url
  fromRoot : p.url.isAbsolute = false →
    o.url = ⟨[], [], [], none, p.url.rootPath, o.url.query, none⟩
  set : IsSet parameter key (sentPairs p.url) (sentPairs o.url)
  once : Uri.Query.withName parameter (sentPairs o.url) = [(parameter, key)]
  others : ((sentPairs o.url).filter fun q => q.1 ≠ parameter) =
    (sentPairs p.url).filter fun q => q.1 ≠ parameter
  first : ∀ q, (sentPairs p.url).head? = some q → q.1 ≠ parameter →
    (sentPairs o.url).head? = some q

/-! ## Setting the parameter -/

/-- The query with a parameter set, as it is written. -/
def keyedQuery (url : Url) (parameter key : String) : List Char :=
  Draft.queryChars (Uri.Query.set parameter key (sentPairs url))

theorem parse_keyedQuery (url : Url) (parameter key : String) :
    Uri.Query.parse (String.ofList (keyedQuery url parameter key)) =
      Uri.Query.set parameter key (sentPairs url) := by
  rw [keyedQuery, Draft.queryChars, String.ofList_toList]
  exact parse_build_set parameter key _

/-- An address is put together from its parts unless one of them is too long. -/
theorem ofParts_cases (r : Reference) :
    (∃ component, Url.ofParts r = .error (.componentTooLong component)) ∨
      Url.ofParts r = Url.ofReference r := by
  unfold Url.ofParts
  split
  · next component _ => exact .inl ⟨component, rfl⟩
  · exact .inr rfl

theorem withParameter_eq (url : Url) (parameter key : String) :
    withParameter url parameter key =
      Url.ofParts { url.reference with query := some (keyedQuery url parameter key) } := rfl

/-- The parameters of an address with this query are those before, with the key set. -/
theorem sentPairs_keyed {u v : Url} {parameter key : String}
    (h : v.query = some (keyedQuery u parameter key)) :
    sentPairs v = Uri.Query.set parameter key (sentPairs u) := by
  rw [sentPairs, h]
  exact parse_keyedQuery u parameter key

theorem encode_keyedQuery (u : Url) (parameter key : String) :
    Uri.Percent.encode Url.keepsInQuery (keyedQuery u parameter key) =
      keyedQuery u parameter key :=
  Uri.Percent.encode_of_keeps (Draft.queryChars_keeps _)

/-! ## The address -/

/-- The address of a prepared request is in normal form, and its host was read in ASCII or in
brackets. -/
theorem Draft.url_read {d : Draft} {u : Url} (h : d.url = .ok u) :
    ∃ r : Reference, u.IsNormalForm r ∧ r.Proper ∧
      ((∀ c ∈ (Uri.Authority.ofText (r.authority.getD [])).host, Uri.Punycode.isBasic c = true) ∨
        Url.InBrackets (Uri.Authority.ofText (r.authority.getD [])).host) := by
  obtain ⟨path, joined, others, -, hjoined, -, -, hu⟩ := url_eq_ok h
  obtain ⟨_, target, -, -, htarget⟩ := Url.join_eq_ok hjoined
  refine ⟨_, Url.ofText_eq_ok hu, Reference.proper_ofText _, ?_⟩
  exact (Url.ofText_eq_ok htarget).host_append_query (Reference.proper_ofText target)
    (queryChars_keeps _) rfl

/-- Setting a parameter of an absolute address. -/
theorem withParameter_absolute {d : Draft} {u : Url} (h : d.url = .ok u)
    (habsolute : u.isAbsolute = true) (parameter key : String) :
    (∃ component, withParameter u parameter key = .error (.componentTooLong component)) ∨
      ∃ v, withParameter u parameter key = .ok v ∧ v.IsReadingOf u ∧
        v.query = some (keyedQuery u parameter key) := by
  obtain ⟨r, hread, hproper, hwritten⟩ := Draft.url_read h
  obtain ⟨v, hv, hreading, hquery⟩ :=
    hread.reread hproper habsolute hwritten (keyedQuery u parameter key)
  rw [encode_keyedQuery] at hquery
  rw [withParameter_eq]
  refine (ofParts_cases _).imp id fun heq => ⟨v, heq.trans hv, hreading, hquery⟩

/-- The address from the root. -/
def fromRoot (u : Url) : Url := ⟨[], [], [], none, u.rootPath, u.query, none⟩

theorem ofParts_fromRoot {u : Url} {r : Reference} (h : u.IsNormalForm r)
    (query : Option (List Char)) :
    (∃ component, Url.ofParts ⟨none, none, u.rootPath, query, none⟩ =
      .error (.componentTooLong component)) ∨
      Url.ofParts ⟨none, none, u.rootPath, query, none⟩ =
        .ok ⟨[], [], [], none, u.rootPath, query.map (Uri.Percent.encode Url.keepsInQuery), none⟩ :=
  (ofParts_cases _).imp id fun heq =>
    heq.trans (Url.ofReference_path (Url.rootPath_keeps h.path_keeps) rfl u.take_rootPath query)

/-- A client sends an address that is not absolute from the root. -/
theorem clientUrl_fromRoot {u : Url} {r : Reference} (h : u.IsNormalForm r)
    (habsolute : u.isAbsolute = false) :
    (∃ component, clientUrl u = .error (.componentTooLong component)) ∨
      clientUrl u = .ok (fromRoot u) := by
  have hquery : u.query.map (Uri.Percent.encode Url.keepsInQuery) = u.query := by
    cases hq : u.query with
    | none => rfl
    | some query => exact congrArg some (Uri.Percent.encode_of_keeps (h.query_keeps hq))
  unfold clientUrl
  rw [habsolute, if_neg Bool.false_ne_true]
  dsimp only
  rw [Url.cutFirst_target h.path_keeps]
  refine (ofParts_fromRoot h u.query).imp id fun heq => heq.trans ?_
  rw [hquery]
  rfl

theorem withParameter_fromRoot {u : Url} {r : Reference} (h : u.IsNormalForm r)
    (parameter key : String) :
    (∃ component, withParameter (fromRoot u) parameter key =
      .error (.componentTooLong component)) ∨
      withParameter (fromRoot u) parameter key =
        .ok { fromRoot u with query := some (keyedQuery u parameter key) } := by
  have hparts : ({ (fromRoot u).reference with
      query := some (keyedQuery (fromRoot u) parameter key) } : Reference) =
        ⟨none, none, u.rootPath, some (keyedQuery u parameter key), none⟩ := rfl
  rw [withParameter_eq, hparts]
  refine (ofParts_fromRoot h _).imp id fun heq => heq.trans ?_
  rw [Option.map_some, encode_keyedQuery]
  rfl

/-! ## The request -/

namespace Authenticator

variable {d : Draft} {p : Prepared} {parameter key : String}

/-- The request with an address whose query is the one with the key. -/
theorem isKeyed_of_query {v : Url} (hquery : v.query = some (keyedQuery p.url parameter key))
    (habsolute : p.url.isAbsolute = true → v.IsReadingOf p.url)
    (hroot : p.url.isAbsolute = false → v = ⟨[], [], [], none, p.url.rootPath, v.query, none⟩) :
    (⟨p.verb, v, p.contentType, none, p.content⟩ : Outbound).IsKeyed p parameter key := by
  have hset : IsSet parameter key (sentPairs p.url) (sentPairs v) := by
    rw [sentPairs_keyed hquery]
    exact isSet_set parameter key _
  exact {
    verb := rfl
    contentType := rfl
    authorization := rfl
    content := rfl
    absolute := habsolute
    fromRoot := hroot
    set := hset
    once := hset.withName
    others := hset.others
    first := fun _ => hset.head? }

/-- With an address that a client sends and whose host can be told, it depends on the parameter
only. -/
theorem apply_of_checkHost {url : Url} (hclient : clientUrl p.url = .ok url)
    (hcheck : checkHost url = .ok ()) :
    (apiKey key parameter).apply p = (ofAddress (withParameter url parameter key)).map fun v =>
      ⟨p.verb, v, p.contentType, none, p.content⟩ := by
  unfold apply
  rw [hclient]
  show (checkHost url >>= fun _ => ofAddress (withParameter url parameter key) >>= fun v =>
    .ok (⟨p.verb, v, p.contentType, none, p.content⟩ : Outbound)) = _
  rw [hcheck]
  cases withParameter url parameter key with
  | error fault => rfl
  | ok v => rfl

theorem apply_of_not_checkHost {url : Url} {fault : Fault} (hclient : clientUrl p.url = .ok url)
    (hcheck : checkHost url = .error fault) :
    (apiKey key parameter).apply p = .error fault := by
  unfold apply
  rw [hclient]
  show (checkHost url >>= fun _ => _) = _
  rw [hcheck]
  rfl

/-- A key is put on an absolute address, unless a part of it is too long or its host cannot be
told. -/
theorem apply_absolute (hurl : d.url = .ok p.url) (habsolute : p.url.isAbsolute = true) :
    (∃ o, (apiKey key parameter).apply p = .ok o ∧ o.IsKeyed p parameter key) ∨
      (∃ component, (apiKey key parameter).apply p =
        .error (.address (.componentTooLong component))) ∨
      ∃ fault, checkHost p.url = .error fault ∧ (apiKey key parameter).apply p = .error fault := by
  have hclient := clientUrl_of_isAbsolute habsolute
  cases hcheck : checkHost p.url with
  | error fault => exact .inr (.inr ⟨fault, rfl, apply_of_not_checkHost hclient hcheck⟩)
  | ok _ =>
    rw [apply_of_checkHost hclient hcheck]
    rcases withParameter_absolute hurl habsolute parameter key with
      ⟨component, hlong⟩ | ⟨v, hv, hreading, hquery⟩
    · rw [hlong]
      exact .inr (.inl ⟨component, rfl⟩)
    · rw [hv]
      refine .inl ⟨_, rfl, isKeyed_of_query hquery (fun _ => hreading) fun hnot => ?_⟩
      rw [habsolute] at hnot
      cases hnot

/-- A key is put on an address that is sent from the root, unless a part of it is too long. -/
theorem apply_fromRoot (hurl : d.url = .ok p.url) (habsolute : p.url.isAbsolute = false) :
    (∃ o, (apiKey key parameter).apply p = .ok o ∧ o.IsKeyed p parameter key) ∨
      ∃ component, (apiKey key parameter).apply p =
        .error (.address (.componentTooLong component)) := by
  obtain ⟨r, hread, -, -⟩ := Draft.url_read hurl
  rcases clientUrl_fromRoot hread habsolute with ⟨component, hlong⟩ | hclient
  · refine .inr ⟨component, ?_⟩
    unfold apply
    rw [hlong]
    rfl
  -- There is no host that could not be told.
  rw [apply_of_checkHost hclient rfl]
  rcases withParameter_fromRoot hread parameter key with ⟨component, hlong⟩ | hv
  · rw [hlong]
    exact .inr ⟨component, rfl⟩
  · rw [hv]
    refine .inl ⟨_, rfl, isKeyed_of_query rfl (fun habs => ?_) fun _ => rfl⟩
    rw [habsolute] at habs
    cases habs

/-- The authenticator with a key changes one parameter of a prepared request, whatever the key and
the name of the parameter are: the parameter is set and stands there once, and all else is that of
the prepared request. It fails only if a part of the address is too long or its host cannot be
told. -/
theorem apply_apiKey (h : d.prepare = .ok p) (key parameter : String) :
    (∀ o, (apiKey key parameter).apply p = .ok o → o.IsKeyed p parameter key) ∧
      ∀ fault, (apiKey key parameter).apply p = .error fault →
        (∃ component, fault = .address (.componentTooLong component)) ∨
          checkHost p.url = .error fault := by
  have hurl := (Draft.prepare_eq_ok h).2
  have hcases : (∃ o, (apiKey key parameter).apply p = .ok o ∧ o.IsKeyed p parameter key) ∨
      (∃ component, (apiKey key parameter).apply p =
        .error (.address (.componentTooLong component))) ∨
      ∃ fault, checkHost p.url = .error fault ∧ (apiKey key parameter).apply p = .error fault := by
    cases habsolute : p.url.isAbsolute with
    | true => exact apply_absolute hurl habsolute
    | false => exact (apply_fromRoot hurl habsolute).imp id .inl
  rcases hcases with ⟨o, hok, hkeyed⟩ | ⟨component, hlong⟩ | ⟨fault, hcheck, hfault⟩
  · rw [hok]
    refine ⟨fun o' heq => ?_, fun fault heq => by cases heq⟩
    cases heq
    exact hkeyed
  · rw [hlong]
    refine ⟨fun o heq => (by cases heq), fun fault heq => ?_⟩
    cases heq
    exact .inl ⟨component, rfl⟩
  · rw [hfault]
    refine ⟨fun o heq => (by cases heq), fun fault' heq => ?_⟩
    cases heq
    exact .inr hcheck

/-- A draft, its prepared request and the one with a key, seen through what is asked of both
addresses. -/
theorem exists_keyed {d : Draft} {α : Type} {f : Url → Url → α} {a : α}
    (h : (d.prepare.toOption.bind fun p =>
      ((apiKey "K" "key").apply p).toOption.map fun o => f p.url o.url) = some a) :
    ∃ p o, d.prepare = .ok p ∧ (apiKey "K" "key").apply p = .ok o ∧ f p.url o.url = a := by
  obtain ⟨p, hp, h⟩ := Option.bind_eq_some_iff.1 h
  obtain ⟨o, ho, hf⟩ := Option.map_eq_some_iff.1 h
  exact ⟨p, o, eq_ok_of_toOption hp, eq_ok_of_toOption ho, hf⟩

/-- A draft with a parameter of the name of the key. -/
def sampleKeyed : Draft :=
  .sampleDraft "items" [Draft.sampleQueryParameter "key" "key", Draft.sampleQueryParameter "q" "q"]
    [("key", "mine"), ("q", "a b&c")]

theorem apply_apiKey_sampleKeyed :
    ∃ p o, sampleKeyed.prepare = .ok p ∧ (apiKey "K" "key").apply p = .ok o ∧
      p.url.text = "https://api.example.com/v1/items?alt=json&key=mine&q=a+b%26c" ∧
      o.url.text = "https://api.example.com/v1/items?alt=json&key=K&q=a+b%26c" ∧
      o.IsKeyed p "key" "K" := by
  obtain ⟨p, o, hp, ho, htexts⟩ := exists_keyed (d := sampleKeyed)
    (f := fun u v => (u.text, v.text))
    (a := ("https://api.example.com/v1/items?alt=json&key=mine&q=a+b%26c",
      "https://api.example.com/v1/items?alt=json&key=K&q=a+b%26c")) (by decide +kernel)
  rw [Prod.mk.injEq] at htexts
  exact ⟨p, o, hp, ho, htexts.1, htexts.2, (apply_apiKey hp "K" "key").1 o ho⟩

/-- A draft for the address that a path leads to from a base. -/
def sampleFrom (base : Url) (path : String) : Draft :=
  { Draft.sampleDraft "{+p}" [Draft.samplePathParameter "p"] [("p", path)] with base := base }

/-- A base address with nothing but a path. -/
def samplePathBase : Url := ⟨[], [], [], none, "b".toList, none, none⟩

/-- A base address whose path is read as an authority once it is written. -/
def sampleHiddenBase : Url := ⟨"http".toList, [], [], none, "////a^b/".toList, none, none⟩

/-- With a key the address may be another one: an address that is not absolute gets another path, a
port can be left out and the host can be written with other letters. -/
theorem exists_other_place :
    (∃ p o, (sampleFrom Session.sampleBareBase "items").prepare = .ok p ∧
      (apiKey "K" "key").apply p = .ok o ∧
      p.url.path = "api.example.com/v1/items".toList ∧
      o.url.path = "/api.example.com/v1/items".toList) ∧
    (∃ p o, (sampleFrom samplePathBase "/../:HTTP://h:80").prepare = .ok p ∧
      (apiKey "K" "key").apply p = .ok o ∧ p.url.isAbsolute = true ∧
      p.url.port = some 80 ∧ o.url.port = none) ∧
    ∃ p o, Url.ofText "http://////a^b/".toList = .ok sampleHiddenBase ∧
      (sampleFrom sampleHiddenBase "").prepare = .ok p ∧
      (apiKey "K" "key").apply p = .ok o ∧ p.url.isAbsolute = true ∧
      p.url.host = "a%5Eb".toList ∧ o.url.host = "a%5eb".toList := by
  refine ⟨?_, ?_, ?_⟩
  · obtain ⟨p, o, hp, ho, hplaces⟩ := exists_keyed (d := sampleFrom Session.sampleBareBase "items")
      (f := fun u v => (u.path, v.path))
      (a := ("api.example.com/v1/items".toList, "/api.example.com/v1/items".toList))
      (by decide +kernel)
    rw [Prod.mk.injEq] at hplaces
    exact ⟨p, o, hp, ho, hplaces⟩
  · obtain ⟨p, o, hp, ho, hplaces⟩ := exists_keyed
      (d := sampleFrom samplePathBase "/../:HTTP://h:80")
      (f := fun u v => (u.isAbsolute, u.port, v.port)) (a := (true, some 80, none))
      (by decide +kernel)
    rw [Prod.mk.injEq, Prod.mk.injEq] at hplaces
    exact ⟨p, o, hp, ho, hplaces⟩
  · obtain ⟨p, o, hp, ho, hplaces⟩ := exists_keyed (d := sampleFrom sampleHiddenBase "")
      (f := fun u v => (u.isAbsolute, u.host, v.host))
      (a := (true, "a%5Eb".toList, "a%5eb".toList)) (by decide +kernel)
    rw [Prod.mk.injEq, Prod.mk.injEq] at hplaces
    exact ⟨p, o, by decide, hp, ho, hplaces⟩

end Authenticator
end ApiDiscovery.Request
