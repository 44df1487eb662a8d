import ApiDiscovery.Source.Docstring
import ApiDiscovery.Source.Module
import ApiDiscovery.Text.Lines

/-!
# Source text

The source text of a module: a header of two comment lines, the documentation of the service, the
imports, the names that the module exports, and its classes.
-/

namespace ApiDiscovery.Source

open ApiDiscovery.Text (indent quoted)

/-- The texts one after another. -/
def concat (texts : List String) : String := String.join texts

/-- Lines of code with eight spaces before each. -/
def codeLines (lines : List String) : String :=
  concat (lines.map fun line => "        " ++ line ++ "\n")

/-- A documentation text between its quotes. -/
def docLiteral (text : String) : String := "\"\"\"" ++ text ++ "\"\"\""

/-! ## Members -/

/-- A field. -/
def fieldText (f : Field) : String :=
  "\n    " ++ f.name ++ " = " ++ indent 4 f.literal ++ "\n"

/-- The initialiser of a class. -/
def initText (c : Class) : String :=
  "\n    def __init__(self" ++ (if c.initArgs = "" then "" else ", " ++ c.initArgs) ++
    ") -> None:\n" ++ codeLines c.initLines ++
    codeLines (c.attributes.map fun a => "self." ++ a.1 ++ " = " ++ a.2) ++
    if c.initLines.isEmpty && c.attributes.isEmpty then codeLines ["pass"] else ""

/-- A property. -/
def propertyText (p : Property) : String :=
  "\n    @property\n    def " ++ p.name ++ "(self) -> " ++ p.type ++ ":\n" ++
    (if p.doc = "" then "" else codeLines [docLiteral (docstring p.doc)]) ++
    codeLines ["return " ++ p.expression] ++
    if p.settable then
      "\n    @" ++ p.name ++ ".setter\n    def " ++ p.name ++ "(self, value: " ++ p.type ++
        ") -> None:\n" ++ codeLines ["self." ++ p.field.getD "None" ++ " = value"]
    else ""

/-- An argument in a signature. -/
def argumentText (a : Schema.Argument) : String :=
  a.argument ++ ": " ++ a.annotation ++ (if a.required then "" else " | None = None") ++ ","

/-- An argument in the object of parameters. -/
def parameterText (a : Schema.Argument) : String :=
  "    " ++ quoted a.name ++ ": " ++ a.argument ++ ","

/-- A method. -/
def methodText (m : Method) : String :=
  let takesBody := m.requestType.isGiven
  "\n    def " ++ m.name ++ "(\n        self,\n" ++
    codeLines (m.arguments.map argumentText) ++
    (if takesBody then codeLines ["body: dict[str, Any] | str | bytes | None = None,"] else "") ++
    "        **kwargs: Any,\n    ) -> httpx.Response:\n" ++
    codeLines [docLiteral (indent 8 (docstring m.doc))] ++
    "        parameters: dict[str, Any] = \x7b\n" ++
    codeLines (m.arguments.map parameterText) ++
    "        \x7d\n        parameters.update(kwargs)\n" ++
    codeLines m.beforeExecute ++
    "        response = self.service.execute(\n            self.RESOURCE,\n            " ++
    quoted m.discoveryName ++ ",\n            parameters,\n            " ++
    (if takesBody then "body" else "None") ++ ",\n        )\n" ++
    codeLines m.afterExecute ++ "        return response\n"

/-! ## Classes -/

/-- The documentation of a class, which has to be a text. -/
def classDoc (c : Class) : Except Fault String := (ofDiscovery c.doc.asText).map docstring

/-- A class. -/
def classText (c : Class) : Except Fault String := do
  let doc ← classDoc c
  let bases := if c.bases.isEmpty then "" else "(" ++ Text.joinWith ", " c.bases ++ ")"
  return "class " ++ c.name ++ bases ++ ":\n    " ++ docLiteral (indent 4 doc) ++ "\n" ++
    concat (c.fields.map fieldText) ++ initText c ++ concat (c.properties.map propertyText) ++
    concat (c.methods.map methodText)

/-- The classes of resources, each after two empty lines. -/
def resourceTexts : List Class → Except Fault String
  | [] => .ok ""
  | c :: rest => do
    let text ← classText c
    let others ← resourceTexts rest
    return "\n" ++ text ++ "\n" ++ others

/-! ## Modules -/

/-- The comment lines at the start of a module. -/
def headerText (name version : String) : String :=
  "# Generated by discogen from the " ++ name ++ " " ++ version ++ " discovery document.\n" ++
    "# Do not edit by hand; regenerate with: python -m discogen <document>\n"

/-- The imports of a module. -/
def importsText : String :=
  "from __future__ import annotations\n\nfrom typing import Any\n\nimport httpx\n\n" ++
    "from discoclient.authenticator import Authenticator\n" ++
    "from discoclient.requests import ReturnType\nfrom discoclient.service import Service\n"

/-- The names that a module exports. -/
def exportsText (m : Module) : String :=
  "__all__ = [\n" ++
    concat ((m.service :: m.resources).map fun c => "    " ++ quoted c.name ++ ",\n") ++ "]\n"

/-- The source text of a module. -/
def Module.text (m : Module) : Except Fault String := do
  let doc ← classDoc m.service
  let service ← classText m.service
  let resources ← resourceTexts m.resources
  return headerText m.name m.version ++ docLiteral doc ++ "\n\n" ++ importsText ++ "\n" ++
    exportsText m ++ "\n\n" ++ service ++ "\n" ++ resources

end ApiDiscovery.Source
