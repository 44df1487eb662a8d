import ApiDiscovery.Proofs.Request.Validation
import ApiDiscovery.Proofs.Schema.Argument
import ApiDiscovery.Proofs.Source.Mirror

/-!
# Generated methods and the methods of the service

A method of a class and the method that a request goes to are read from the same part of the
document, each by itself. They agree (`Module.ofDocument_agrees`): on the verb, on the names of the
parameters, and for each parameter on its place, its pattern and whether it is required and
repeated. So a request knows every argument of a generated method, and it misses one that is not
given exactly if the signature demands it.
-/

namespace ApiDiscovery.Source

open Discovery (Document Service Site)
open Discovery.Tree (sites sitesBelow)
open Outcome

/-! ## Agreement -/

/-- An argument says of a parameter what a request reads of it. -/
structure AgreesWith (a : Schema.Argument) (p : Discovery.Parameter) : Prop where
  required : a.required = p.required
  details : ∃ d, a.details = some d ∧ d.location = .str p.location.name ∧
    d.pattern = p.pattern ∧ d.repeated = p.repeated

/-- A generated method agrees with a method of a service whose parameters for all methods have the
given names. -/
structure Method.Agrees (made : Method) (shared : List String) (method : Discovery.Method) :
    Prop where
  verb : made.verb = method.verb
  names : ∀ name, name ∈ Ordered.names method.parameters ↔
    name ∈ made.arguments.map Schema.Argument.name ∨ name ∈ shared
  arguments : ∀ a ∈ made.arguments, ∃ p,
    Ordered.get? method.parameters a.name = some p ∧ AgreesWith a p
  known : ∀ a ∈ made.arguments, ∀ d : Request.Draft, d.method = method →
    d.isUnknown a.name = false
  missing : ∀ a ∈ made.arguments, ∀ d : Request.Draft, d.method = method →
    Ordered.has d.parameters a.name = false → d.isMissing a.name = a.required

/-- The method is made from what the site declares under its name. -/
def Method.IsDeclaredAt (made : Method) (body : Json) (site : Site) : Prop :=
  ∃ declared, Json.lookup made.discoveryName site.methods = some declared ∧
    made.IsMadeFrom body site.path (made.discoveryName, declared)

/-- The method of a service behind a trail of resources. -/
def methodAt? (service : Service) (trail : List String) (name : String) :
    Option Discovery.Method :=
  (Discovery.Resource.find? trail service.resources).bind fun r => Ordered.get? r.methods name

/-! ## One parameter -/

theorem eq_name_of_location {value : Json} {location : Discovery.Location}
    (h : Discovery.Location.ofJson? value = some location) : value = .str location.name := by
  unfold Discovery.Location.ofJson? at h
  split at h
  · cases h
    rfl
  · cases h
    rfl
  · cases h

theorem location_of_read {members : Json.Members} {name : String}
    {location : Discovery.Location}
    (h : Discovery.Parameter.locationOf name members = .ok location) :
    (Json.firstGiven members ["location", "parameterType"]).getD (.str "query") =
      .str location.name := by
  rw [Discovery.Parameter.locationOf] at h
  split at h
  · next found hfound =>
    cases h
    exact eq_name_of_location hfound
  · cases h

theorem pattern_of_read {members : Json.Members} {name : String} {pattern : Json}
    (h : Discovery.Parameter.patternOf name members = .ok pattern) :
    Json.getOr members "pattern" .null = pattern := by
  rw [Discovery.Parameter.patternOf] at h
  split at h
  · next hnull =>
    cases h
    exact hnull
  · next text htext =>
    split at h
    · cases h
      exact htext
    · split at h
      · cases h
      · cases h
  · cases h

theorem agreesWith_of_read {body declared : Json} {name : String} {a : Schema.Argument}
    {p : Discovery.Parameter} (ha : Schema.Argument.ofParameter body name declared = .ok a)
    (hp : Discovery.Parameter.ofJson name declared = .ok p) : AgreesWith a p := by
  obtain ⟨members, details, hmembers, -, hrequired, hdetails, hlocation, hpattern, hrepeated⟩ :=
    Schema.Argument.ofParameter_eq_ok ha
  obtain ⟨found, hfound, hplace, hread, hrequired', hrepeated'⟩ :=
    Discovery.Parameter.ofJson_eq_ok hp
  rw [hmembers] at hfound
  cases hfound
  refine ⟨hrequired.trans hrequired'.symm, details, hdetails, ?_, ?_, ?_⟩
  · rw [hlocation]
    exact location_of_read hplace
  · rw [hpattern]
    exact pattern_of_read hread
  · exact hrepeated.trans hrepeated'.symm

/-! ## One method -/

section Draft

variable {d : Request.Draft} {name : String} {p : Discovery.Parameter}
  (h : Ordered.get? d.method.parameters name = some p)

include h

theorem isUnknown_of_declared : d.isUnknown name = false := by
  rw [Request.Draft.isUnknown, Ordered.has, Ordered.has, h]
  exact Bool.and_false _

/-- A parameter that is not given is missing exactly if it is required. -/
theorem isMissing_of_declared (hnone : Ordered.has d.parameters name = false) :
    d.isMissing name = p.required := by
  rw [Ordered.has, Option.isSome_eq_false_iff, Option.isNone_iff_eq_none] at hnone
  rw [Request.Draft.isMissing, h, hnone]
  exact Bool.and_true _

end Draft

theorem agreesWith_of_sameParameter {a b : Schema.Argument} {p : Discovery.Parameter}
    (h : SameParameter a b) (hb : AgreesWith b p) : AgreesWith a p := by
  refine ⟨h.required.trans hb.required, ?_⟩
  rw [h.details]
  exact hb.details

/-- Two methods that are read from the same part of a document agree. -/
theorem Method.agrees_of_read {made : Method} {body declared : Json} {path name : String}
    {shared : Ordered Discovery.Parameter} {method : Discovery.Method}
    (hkeys : declared.hasDistinctKeys = true)
    (hmade : ofDeclared body path name declared made.name = .ok made)
    (hmethod : Discovery.Method.ofJson shared name declared = .ok method) :
    made.Agrees (Ordered.names shared) method := by
  obtain ⟨members, arguments, hmembers, harguments, hsame, -, -, -, hverb⟩ := ofDeclared_eq_ok hmade
  obtain ⟨found, own, parameters, hfound, hown, hparameters, -, hverb', hall⟩ :=
    Discovery.Method.ofJson_eq_ok hmethod
  rw [hmembers] at hfound
  cases hfound
  rw [Json.eq_obj_of_asObject hmembers] at hkeys
  have hkeysOwn := ((Json.hasDistinctKeys_obj own).1 (Json.hasDistinctKeys_objectAt hkeys hown)).1
  have hread := Discovery.Parameter.allOfJson_isReadAs hparameters
  have hnames : Ordered.names parameters = Json.keys own := Discovery.names_of_isReadAs hread
  have hdistinct : (Ordered.names parameters).Nodup := hnames ▸ hkeysOwn
  obtain ⟨hdeclared, hfrom⟩ := Schema.Argument.ofMethod_eq_ok hown harguments
  -- The parameter of an argument is the own one of the method, whatever the service shares.
  have hagrees : ∀ a ∈ made.arguments, ∃ p,
      Ordered.get? method.parameters a.name = some p ∧ AgreesWith a p := by
    intro a ha
    obtain ⟨b, hb, hsameParameter⟩ := exists_of_mem_left hsame ha
    have hmem : b.name ∈ Json.keys own := (hdeclared b.name).1 (List.mem_map_of_mem hb)
    obtain ⟨value, hvalue⟩ := Option.isSome_iff_exists.1 (Ordered.has_iff.2 hmem)
    obtain ⟨p, hget, hp⟩ := Discovery.get?_of_isReadAs hread hvalue
    have hargument : Schema.Argument.ofParameter body b.name value = .ok b := by
      have hmadeFrom := hfrom b hb
      rwa [Json.getOr, Json.lookup, ← Ordered.get?, hvalue] at hmadeFrom
    refine ⟨p, ?_, agreesWith_of_sameParameter hsameParameter (agreesWith_of_read hargument hp)⟩
    rw [hall, Ordered.get?_insertAll hdistinct, hsameParameter.name, hget]
    rfl
  refine ⟨hverb.trans hverb'.symm, ?_, hagrees, ?_, ?_⟩
  · intro parameter
    have hsameNames := map_eq_map_of_forall₂ hsame fun _ _ hab => hab.name
    rw [hall, Ordered.mem_names_insertAll hdistinct, hnames, hsameNames, hdeclared]
  · rintro a ha d rfl
    obtain ⟨p, hget, -⟩ := hagrees a ha
    exact isUnknown_of_declared hget
  · rintro a ha d rfl hnone
    obtain ⟨p, hget, hagree⟩ := hagrees a ha
    rw [isMissing_of_declared hget hnone, hagree.required]

/-! ## All methods -/

/-- A method that is made is made from one of the members, which has its name. -/
theorem exists_member {body : Json} {path : String} {declared : Json.Members}
    {methods : List Method} (h : List.Forall₂ (Method.IsMadeFrom body path) declared methods)
    {made : Method} (hmade : made ∈ methods) :
    ∃ value, (made.discoveryName, value) ∈ declared ∧
      made.IsMadeFrom body path (made.discoveryName, value) := by
  obtain ⟨member, hmember, hfrom⟩ := exists_of_mem_right h hmade
  obtain ⟨-, -, -, -, -, -, -, hname, -⟩ := Method.ofDeclared_eq_ok hfrom
  rw [hname]
  exact ⟨member.2, hmember, hfrom⟩

namespace Module

/-- What is declared at a site of a document with distinct keys has distinct keys. -/
theorem hasDistinctKeys_methods {body : Json.Members} {shared : Ordered Discovery.Parameter}
    {resources : Ordered Discovery.Resource} (hkeys : (Json.obj body).hasDistinctKeys = true)
    (h : Discovery.Resource.nested shared body = .ok resources) {site : Site}
    (hsite : site ∈ sitesBelow body) : (Json.obj site.methods).hasDistinctKeys = true := by
  obtain ⟨-, -, hmethods, -⟩ := Discovery.Resource.find?_of_mem_sitesBelow hkeys h hsite
  have htree := Discovery.Tree.isTree_of_nested h
  exact Json.hasDistinctKeys_objectAt
    (Discovery.Tree.hasDistinctKeys_of_mem_sitesBelow htree hkeys site hsite) hmethods

/-- Every method of every class is made from what a site declares, and whatever site that is, the
method of the service there agrees with it. -/
theorem ofDocument_agrees {document : Json} {m : Module} {log : List Log.Record}
    (hkeys : document.hasDistinctKeys = true) (h : ofDocument document = (.ok m, log)) :
    ∃ service described shared, Service.ofJson document = .ok service ∧
      Document.ofJson document = .ok described ∧
      Json.objectAt described.body "parameters" = .ok shared ∧
      ∀ c ∈ m.resources, ∀ made ∈ c.methods,
        (∃ site ∈ sitesBelow described.body, made.IsDeclaredAt (.obj described.body) site) ∧
        ∀ site ∈ sitesBelow described.body, made.IsDeclaredAt (.obj described.body) site →
          ∃ method, methodAt? service site.trail made.discoveryName = some method ∧
            made.Agrees (Json.keys shared) method := by
  obtain ⟨service, described, hm⟩ := ofDocument_spec h
  obtain ⟨found, shared, hfound, hshared, hparameters, -⟩ :=
    Discovery.Service.ofJson_eq_ok hm.readService
  rw [hm.readDocument] at hfound
  cases hfound
  have hnames := Discovery.names_of_isReadAs (Discovery.Parameter.allOfJson_isReadAs hparameters)
  have hbody := Document.hasDistinctKeys_body hkeys hm.readDocument
  have hsites : ∀ site ∈ sitesBelow described.body,
      (Json.obj site.methods).hasDistinctKeys = true :=
    fun site => hasDistinctKeys_methods hbody hm.readResources
  refine ⟨service, described, shared, hm.readService, hm.readDocument, hshared, ?_⟩
  intro c hc made hmade
  constructor
  · rw [← hm.map_snd_below] at hc
    obtain ⟨q, hq, rfl⟩ := List.mem_map.1 hc
    have hsite : q.1 ∈ sitesBelow described.body :=
      hm.map_fst_below ▸ List.mem_map_of_mem hq
    obtain ⟨value, hvalue, hfrom⟩ := exists_member (hm.methods_below hq) hmade
    have hdistinct := ((Json.hasDistinctKeys_obj _).1 (hsites q.1 hsite)).1
    exact ⟨q.1, hsite, value, Ordered.get?_of_mem hdistinct hvalue, hfrom⟩
  · rintro site hsite ⟨declared, hdeclared, hfrom⟩
    obtain ⟨resource, hfind, -, hread⟩ :=
      Discovery.Resource.find?_of_mem_sitesBelow hbody hm.readResources hsite
    obtain ⟨method, hget, hmethod⟩ :=
      Discovery.get?_of_isReadAs (Discovery.Method.allOfJson_isReadAs hread) hdeclared
    refine ⟨method, ?_, ?_⟩
    · rw [methodAt?, hfind]
      exact hget
    · have hdistinct := ((Json.hasDistinctKeys_obj _).1 (hsites site hsite)).2 _
        (Ordered.mem_of_get? hdeclared)
      rw [← hnames]
      exact Method.agrees_of_read hdistinct hfrom hmethod

/-- A document whose method, in a resource within a resource, has an own parameter in place of a
shared one, and says where its parameters are in the older way. -/
def sampleShared : Json :=
  .obj [("name", .str "b"), ("version", .str "v1"), ("baseUrl", .str "https://a/"),
    ("parameters", .obj [("id", .obj []), ("key", .obj [])]),
    ("resources", .obj [("r", .obj [("resources", .obj [("s", .obj [("methods", .obj
      [("get", .obj
        [("httpMethod", .str "post"), ("restPath", .str "r/{id}"),
          ("parameters", .obj
            [("q", .obj [("repeated", .bool true)]),
              ("id", .obj
                [("parameterType", .str "path"), ("required", .bool true),
                  ("pattern", .str "^a")])])])])])])])])]

theorem ofDocument_agrees_sampleShared :
    ∃ m log service, sampleShared.hasDistinctKeys = true ∧
      ofDocument sampleShared = (.ok m, log) ∧ Service.ofJson sampleShared = .ok service ∧
      ∃ c ∈ m.resources, ∃ made ∈ c.methods,
        made.arguments.map (fun a => (a.name, a.required)) = [("id", true), ("q", false)] ∧
        ∃ trail method, methodAt? service trail made.discoveryName = some method ∧
          made.Agrees ["id", "key"] method := by
  obtain ⟨m, hm, hone⟩ := Outcome.exists_ok_of_map
    (show (ofDocument sampleShared).1.toOption.map (fun m =>
        m.resources.any fun c => c.methods.any fun made =>
          made.arguments.map (fun a => (a.name, a.required)) = [("id", true), ("q", false)]) =
      some true by decide)
  have hmade := Outcome.eq_of_fst hm
  have hkeys : sampleShared.hasDistinctKeys = true := by decide
  obtain ⟨service, described, shared, hservice, hdescribed, hshared, hagree⟩ :=
    ofDocument_agrees hkeys hmade
  obtain ⟨found, hfound, hnames⟩ := Outcome.exists_ok_of_map
    (show (Document.ofJson sampleShared).toOption.map (fun d =>
        (Json.objectAt d.body "parameters").toOption.map Json.keys) =
      some (some ["id", "key"]) by decide)
  obtain rfl : described = found := Except.ok.inj (hdescribed.symm.trans hfound)
  have hsharedNames : Json.keys shared = ["id", "key"] := by
    rw [hshared] at hnames
    exact Option.some.inj hnames
  obtain ⟨c, hc, hany⟩ := List.any_eq_true.1 hone
  obtain ⟨made, hmethod, harguments⟩ := List.any_eq_true.1 hany
  obtain ⟨⟨site, hsite, hdeclared⟩, hall⟩ := hagree c hc made hmethod
  obtain ⟨method, hget, hagrees⟩ := hall site hsite hdeclared
  rw [hsharedNames] at hagrees
  exact ⟨m, _, service, hkeys, hmade, hservice, c, hc, made, hmethod,
    of_decide_eq_true harguments, site.trail, method, hget, hagrees⟩

end Module
end ApiDiscovery.Source
