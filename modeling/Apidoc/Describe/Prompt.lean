import Apidoc.Component.Basic
import Apidoc.Data.Ordered
import Apidoc.Data.Value

/-!
# Prompts

The questions that are put to a language model, as text.

* `describePrompt`   asks for the description of one component;
* `batchPrompt`      asks for those of several components at once;
* `structurePrompt`  asks how the documentation of a code base should be arranged.
-/

namespace Apidoc

structure Context where
  moduleName : Option String := none
  className : Option String := none
  withSource : Bool := false

def Context.ofData : Data → Context
  | .map fields =>
    let get (k : String) := Ordered.get? fields (.str k)
    { moduleName := (get "module").map Data.display, className := (get "class").map Data.display,
      withSource := ((get "include_source").map Data.isTrue).getD false }
  | _ => {}

namespace Prompt

def lines (parts : List String) : String := "\n".intercalate parts

def commas (parts : List String) : String := ", ".intercalate parts

/-- a text that is there and not empty -/
def told (s : Option String) : Option String := s.filter (· != "")

def line (label : String) (s : Option String) : List String := ((told s).map (label ++ ·)).toList

def names (label : String) (ns : List String) : List String :=
  if ns.isEmpty then [] else [label ++ commas ns]

def parameter (p : ParameterDoc) : String :=
  p.name ++ ": " ++ (told p.hint).getD "Any" ++
    match told p.default with
    | some d => " = " ++ d
    | none => ""

def functionDetails (f : FunctionDoc) : List String :=
  names "Parameters: " (f.parameters.map parameter) ++ line "Return type: " f.returns ++
    if f.isAsync then ["Note: This is an async function/method"] else []

def details : Component → List String
  | .function f => functionDetails f
  | .method m =>
    functionDetails m.toFunctionDoc ++
      if m.isStatic then ["Note: This is a static method"]
      else if m.isClassMethod then ["Note: This is a class method"]
      else []
  | .classDef c =>
    names "Base classes: " c.bases ++ names "Key methods: " ((c.methods.take 10).map (·.name))
  | .property p => line "Type: " p.hint ++ line "Default: " p.default
  | .module m =>
    names "Classes: " (m.classes.map (·.name)) ++ names "Functions: " (m.functions.map (·.name))

end Prompt

open Prompt in
def describePrompt (c : Component) (context : Context) : String :=
  let h := c.header
  lines (
    ["Generate documentation for the following " ++ c.kind.text ++ ":\n",
     "Name: " ++ h.name,
     "File: " ++ h.path ++ ":" ++ toString h.line] ++
    (context.moduleName.map ("Module: " ++ ·)).toList ++
    (context.className.map ("Class: " ++ ·)).toList ++
    line "\nExisting docstring:\n" h.docs ++
    (if context.withSource then
      ((told h.source).map fun s => "\nSource code:\n```python\n" ++ s ++ "\n```").toList
    else []) ++
    details c ++
    ["\nWrite a clear, concise documentation description:"])

namespace Prompt

def shorten (n : Nat) (s : String) : String :=
  if n < s.length then String.ofList (s.toList.take n) ++ "..." else s

def batchLines (c : Component) : List String :=
  let h := c.header
  ["- ID: " ++ h.id, "  Name: " ++ h.name, "  Type: " ++ c.kind.text] ++
  line "  Docstring: " (h.docs.map (shorten 200)) ++
  match c with
  | .function f =>
    names "  Parameters: " (f.parameters.map (·.name)) ++ line "  Returns: " f.returns
  | .method m =>
    names "  Parameters: " (m.parameters.map (·.name)) ++ line "  Returns: " m.returns
  | _ => []

end Prompt

open Prompt in
def batchPrompt (cs : List Component) : String :=
  lines (
    ["Generate documentation for the following components.",
     "Return a JSON array with objects containing 'id' and 'description' fields.",
     "\nComponents to document:\n"] ++
    (cs.flatMap fun c => [lines (batchLines c), ""]) ++
    ["\nRespond with only a JSON array, no additional text. " ++
      "Format: [\x7b\"id\": \"...\", \"description\": \"...\"\x7d]"])

namespace Prompt

def classLines (c : ClassDoc) : List String :=
  ["  Class: " ++ c.name ++ (if c.bases.isEmpty then "" else " (" ++ commas c.bases ++ ")"),
   "    Methods: " ++ toString c.methods.length]

def moduleLines (m : ModuleDoc) : List String :=
  ["Module: " ++ m.path] ++
  ((told m.docs).map fun d =>
    "  Description: " ++ String.ofList (d.toList.take 100) ++ "...").toList ++
  m.classes.flatMap classLines ++
  names "  Functions: " (m.functions.map (·.name)) ++ [""]

end Prompt

open Prompt in
def overview (ms : List ModuleDoc) : String :=
  lines (["Codebase Overview:", ""] ++ ms.flatMap moduleLines)

open Prompt in
def structurePrompt (ms : List ModuleDoc) : String :=
  lines [
    "Analyze this codebase structure and suggest an intelligent documentation organization:",
    "",
    overview ms,
    "",
    "Provide suggestions for:",
    "1. How to group related modules/classes",
    "2. Recommended documentation order",
    "3. Which components are most important to document",
    "4. Any architectural insights that should be highlighted",
    "",
    "Respond in JSON format with the following structure:",
    "\x7b",
    "    \"groups\": [",
    "        \x7b\"name\": \"Group Name\", \"description\": \"...\", \"modules\": [\"module1\", \"module2\"]\x7d",
    "    ],",
    "    \"priority_components\": [\"component_id1\", \"component_id2\"],",
    "    \"architectural_notes\": \"...\",",
    "    \"recommended_sections\": [\"Section 1\", \"Section 2\"]",
    "\x7d"]

def writerRole : String := "You are an expert technical documentation writer specializing in API documentation.

Your task is to write clear, concise, and helpful documentation for code components.

Guidelines:
1. Write in a professional, technical tone
2. Focus on WHAT the component does and WHY someone would use it
3. Include information about parameters, return values, and exceptions when relevant
4. Mention important behavior, side effects, or constraints
5. Keep descriptions concise but complete (typically 1-3 sentences for simple items, more for complex ones)
6. Use proper technical terminology
7. If the component has a docstring, enhance it rather than replace it
8. Do not include code examples unless specifically requested

When documenting:
- Functions/Methods: Explain purpose, parameters, return value, and any notable behavior
- Classes: Explain the class's role, key features, and typical usage patterns
- Properties: Explain what data they represent and any validation/transformation
- Modules: Provide an overview of the module's purpose and main components
- Constants: Explain the purpose and typical usage of the constant"

def architectRole : String :=
  "You are a software architect analyzing a codebase to create optimal documentation structure."

end Apidoc
