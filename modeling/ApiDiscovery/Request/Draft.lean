import ApiDiscovery.Discovery.Method
import ApiDiscovery.Json.Writer
import ApiDiscovery.Pattern.Search
import ApiDiscovery.Request.Fault
import ApiDiscovery.Uri.Query
import ApiDiscovery.Uri.Resolve

/-!
# Drafts of requests

A draft holds what a request will be made of: a method, a base address, parameters and a body. Its
parameters are checked against those the method declares, and once they pass it has an address: the
path of the method filled in and resolved against the base, with the encoding of the response first
in the query and the other parameters after it.
-/

namespace ApiDiscovery.Request

/-- The parameter that says in which encoding the response is wanted. -/
def encodingName : String := "alt"

/-- What a request will be made of. -/
structure Draft where
  method : Discovery.Method
  verb : Verb
  base : Uri.Url
  callName : Json
  returnType : ReturnType := .json
  parameters : Ordered String := []
  body : Option (List UInt8) := none

/-- A request that is ready to be sent. -/
structure Prepared where
  verb : Verb
  url : Uri.Url
  contentType : String
  content : Option (List UInt8)
  deriving DecidableEq

namespace Draft

/-! ## Making a draft -/

/-- The draft of a request to a method of the service at a base address. -/
def create (method : Discovery.Method) (base : Json) : Except Fault Draft :=
  match Verb.ofName? (Text.upper method.verb) with
  | none => .error (.unsupportedVerb (.str method.verb))
  | some verb =>
    match Uri.Url.ofText base.display.toList with
    | .error fault => .error (.address fault)
    | .ok url => .ok { method := method, verb := verb, base := url, callName := method.id }

/-- How a draft shows itself. -/
def describe (d : Draft) : String :=
  "<" ++ d.verb.requestName ++ " " ++ d.callName.display ++ ">"

/-- Parameters as texts for the wire; a null stands for a parameter that is not there. -/
def wireTexts : Json.Members → Ordered String
  | [] => []
  | (_, .null) :: rest => wireTexts rest
  | (name, value) :: rest => (name, value.wireText) :: wireTexts rest

/-- The parameters that a value gives: an object, or a text that is a query. -/
def parametersOf : Json → Except Fault (Ordered String)
  | .str query => .ok (Uri.Query.toParameters query)
  | .obj members => .ok (wireTexts members)
  | _ => .error .shape

/-- The body that a value gives: a text stands for itself, other values are written as JSON. -/
def bodyOf : Json → Option (List UInt8)
  | .null => none
  | .str s => some (Text.Utf8.encode s.toList)
  | value => some (Text.Utf8.encode value.toText.toList)

/-! ## Checking the parameters -/

/-- The declared parameter is for the path. -/
def isForPath (d : Draft) (name : String) : Bool :=
  match Ordered.get? d.method.parameters name with
  | some declared => declared.location = .path
  | none => false

/-- The values for the placeholders of the path. -/
def pathValues (d : Draft) : Ordered String := d.parameters.filter fun p => d.isForPath p.1

/-- What is wrong with a value that has to match a pattern. -/
def patternProblem (pattern value : String) : Except Fault (Option Problem) :=
  match Pattern.ofText pattern with
  | .error fault =>
    if fault.isLimit then .error (.document (.patternLimit fault))
    else .ok (some (.unreadablePattern pattern fault))
  | .ok read => .ok (if read.occursIn value then none else some (.mismatch value pattern))

/-- What is wrong with a value given what is declared as its pattern. -/
def restrictionProblem (pattern : Json) (value : String) : Except Fault (Option Problem) :=
  match pattern with
  | .null => .ok none
  | .str pattern => patternProblem pattern value
  | _ => .error .shape

/-- What is wrong with a declared parameter, given its value if it has one. -/
def declaredProblem (returnType : ReturnType) (declared : Discovery.Parameter) :
    Option String → Except Fault (Option Problem)
  | none => .ok (if declared.required then some .missing else none)
  | some value =>
    if declared.required && value.isEmpty then .ok (some .missing)
    else if declared.wireName.same (.str encodingName) && value ≠ returnType.name then
      .ok (some (.otherEncoding returnType))
    else restrictionProblem declared.pattern value

/-- The problems of parameters that are not declared. -/
def unknownProblems (d : Draft) : Ordered Problem :=
  (d.parameters.filter fun p => !Ordered.has d.method.parameters p.1).map fun p => (p.1, .unknown)

/-- The problems of some declared parameters. -/
def declaredProblems (d : Draft) : Ordered Discovery.Parameter → Except Fault (Ordered Problem)
  | [] => .ok []
  | (name, declared) :: rest =>
    match declaredProblem d.returnType declared (Ordered.get? d.parameters name) with
    | .error fault => .error fault
    | .ok problem =>
      match declaredProblems d rest with
      | .error fault => .error fault
      | .ok others =>
        .ok (match problem with
          | some problem => (name, problem) :: others
          | none => others)

/-- Problems with those of placeholders added that have none yet. -/
def addPlaceholders (problems : Ordered Problem) : List String → Ordered Problem
  | [] => problems
  | name :: rest =>
    if Ordered.has problems name then addPlaceholders problems rest
    else addPlaceholders (problems ++ [(name, .noPlaceholderValue)]) rest

/-- All problems: those of unknown parameters, of declared ones and of placeholders. -/
def problems (d : Draft) : Except Fault (Ordered Problem) := do
  let declared ← d.declaredProblems d.method.parameters
  let template ← ofDiscovery d.method.template
  -- A name that has a problem already gets no second one for its placeholder.
  return addPlaceholders (d.unknownProblems ++ declared) (template.missing d.pathValues)

/-- Passes if no parameter has a problem. -/
def validate (d : Draft) : Except Fault Unit := do
  let problems ← d.problems
  if problems.isEmpty then return () else .error (.invalid problems d.callName)

/-! ## The address -/

/-- The pairs of the query, with the names as they are declared. -/
def queryPairs (d : Draft) : Ordered String → Except Fault (List (Json × String))
  | [] => .ok []
  | (name, value) :: rest =>
    match Ordered.get? d.method.parameters name with
    | none => .error (.noValue name)
    | some declared =>
      match queryPairs d rest with
      | .error fault => .error fault
      | .ok others =>
        .ok (if declared.location = .path || declared.wireName.same (.str encodingName) then others
          else (declared.wireName, value) :: others)

/-- Values grouped under equal names, with one more value. -/
def addToGroup (name : Json) (value : String) :
    List (Json × List String) → List (Json × List String)
  | [] => [(name, [value])]
  | (other, values) :: rest =>
    if name.sameKey other then (other, values ++ [value]) :: rest
    else (other, values) :: addToGroup name value rest

/-- The pairs of a query whose names are not all texts: values of equal names are grouped at the
place of the first, and of different names with one text the last counts. -/
def groupedPairs (pairs : List (Json × String)) : Uri.Query.Pairs :=
  let groups := pairs.foldl (fun groups p => addToGroup p.1 p.2 groups) []
  let named := groups.foldl (fun named g => Ordered.insert g.1.display g.2 named) []
  named.flatMap fun g => g.2.map fun value => (g.1, value)

/-- The query with these pairs; every name has to be a scalar. -/
def queryText (pairs : List (Json × String)) : Except Fault String :=
  if pairs.all fun p => p.1.isScalar then .ok (Uri.Query.build (groupedPairs pairs))
  else .error .shape

/-- The address of the request. -/
def url (d : Draft) : Except Fault Uri.Url := do
  let pairs ← d.queryPairs d.parameters
  let template ← ofDiscovery d.method.template
  let path ← (template.expand d.pathValues).mapError .noValue
  let joined ← ofResolving (d.base.join path.toList)
  -- The query follows the joined address even if that ends with a query or fragment of its own.
  let query ← queryText ((.str encodingName, d.returnType.name) :: pairs)
  ofAddress (Uri.Url.ofText (joined.chars ++ '?' :: query.toList))

/-- The content of the request: the body if the verb takes one and it is not empty. -/
def content (d : Draft) : Option (List UInt8) :=
  if d.verb.takesBody then d.body.filter fun bytes => !bytes.isEmpty else none

/-- The request, once its parameters pass. -/
def prepare (d : Draft) : Except Fault Prepared := do
  d.validate
  let url ← d.url
  return { verb := d.verb, url, contentType := d.returnType.contentType, content := d.content }

end Draft
end ApiDiscovery.Request
