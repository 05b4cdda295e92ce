import Apidoc.Page.Frame
import Apidoc.Selection.Basic

/-!
# The page of a module

A list of contents, the description of the module, a section for each class with its methods, and a
section with the functions.  Classes and functions that are not shown are left out; methods that are
not shown are left out, or marked on an editable page.
-/

namespace Apidoc

open Markup

structure SiteSettings where
  title : String
  includeSource : Bool
  editable : Bool
  selections : Selections
  /-- descriptions of components by their ids -/
  descriptions : Ordered String Data
  /-- what should hold the descriptions is no map, so they cannot be asked for -/
  broken : Bool := false

namespace SiteSettings

def shows (s : SiteSettings) (id : String) : Bool := s.selections.shows id

def description? (s : SiteSettings) (id : String) : Option Data := s.descriptions.get? id

/-- The user's own description if there is one, else the one made for the component, else its own
documentation. -/
def describe (s : SiteSettings) (h : Header) : Data :=
  let made := (s.description? h.id).getD ((h.docs.map Data.str).getD .null)
  match s.selections.of? h.id with
  | some sel => if sel.description.isTrue then sel.description else made
  | none => made

end SiteSettings

/-! ## anchors -/

def classAnchor (c : ClassDoc) : String := "class-" ++ c.name

def methodAnchor (c : ClassDoc) (m : MethodDoc) : String := "method-" ++ c.name ++ "-" ++ m.name

def functionAnchor (f : FunctionDoc) : String := "function-" ++ f.name

/-! ## pieces -/

def shown (s : Option String) : Option String := s.filter fun t => t != ""

def orElseText (s : Option String) (other : String) : String := (shown s).getD other

def descriptionPart (indent : Nat) (d : Option Data) : Markup :=
  let d := d.getD .null
  optional indent d.isTrue
    (line indent (raw "<div class=\"description\">" ++ text d.display ++ raw "</div>"))

def docsPart (indent : Nat) (docs : Option String) : Markup :=
  optional indent (shown docs).isSome
    (line indent (raw "<div class=\"docstring\">") ++
     line (indent + 4) (raw "<pre>" ++ text (docs.getD "") ++ raw "</pre>") ++
     line indent (raw "</div>"))

def codeCell (s : String) : Markup := raw "<td><code>" ++ text s ++ raw "</code></td>"

def table {α : Type} (indent : Nat) (rows : List α) (cells : α → List Markup) : Markup :=
  lines [(indent, "<table class=\"params-table\">"), (indent + 4, "<thead>"),
    (indent + 8, "<tr><th>Name</th><th>Type</th><th>Default</th></tr>"), (indent + 4, "</thead>"),
    (indent + 4, "<tbody>")] ++
  each (indent + 4) rows (fun r =>
    line (indent + 8) (raw "<tr>") ++ (cells r).flatMap (line (indent + 12)) ++
    line (indent + 8) (raw "</tr>")) ++
  lines [(indent + 4, "</tbody>"), (indent, "</table>")]

def parametersPart (indent : Nat) (rank : String) (ps : List ParameterDoc) : Markup :=
  optional indent (!ps.isEmpty)
    (lines [(indent, "<div class=\"parameters\">"),
      (indent + 4, "<" ++ rank ++ ">Parameters</" ++ rank ++ ">")] ++
     table (indent + 4) ps (fun p => [codeCell p.name, codeCell (orElseText p.hint "Any"),
       raw "<td>" ++ text (orElseText p.default "-") ++ raw "</td>"]) ++
     line indent (raw "</div>"))

def sourcePart (indent : Nat) (withSource : Bool) (source : Option String) : Markup :=
  optional indent (withSource && (shown source).isSome)
    (lines [(indent, "<details class=\"source-code\">"),
      (indent + 4, "<summary>View Source</summary>")] ++
     line (indent + 4) (raw "<pre><code class=\"language-python\">" ++
       text (Fragment.escapeCode (source.getD "")) ++ raw "</code></pre>") ++
     line indent (raw "</details>"))

def parameterText (p : ParameterDoc) : Markup :=
  text p.name ++
  (match shown p.hint with | some t => raw ": " ++ text t | none => []) ++
  (match shown p.default with | some t => raw " = " ++ text t | none => [])

def parameterList : List ParameterDoc → Markup
  | [] => []
  | [p] => parameterText p
  | p :: ps => parameterText p ++ raw ", " ++ parameterList ps

def keywordSpan (word : String) : Markup := raw ("<span class=\"keyword\">" ++ word ++ "</span>")

def signaturePart (indent : Nat) (nameClass : String) (f : FunctionDoc) : Markup :=
  line indent (if f.isAsync then keywordSpan "async " else []) ++
  line indent (keywordSpan "def") ++
  line indent (raw ("<span class=\"" ++ nameClass ++ "\">") ++ text f.name ++
    raw "</span>(<span class=\"params\">" ++ parameterList f.parameters ++ raw "</span>)") ++
  line indent (match shown f.returns with
    | some t => raw "<span class=\"return-type\"> -&gt; " ++ text t ++ raw "</span>"
    | none => [])

def boxPart (editable : Bool) (indent : Nat) (id kind title : String) (checked : Bool) : Markup :=
  optional indent editable
    (line indent (raw "<label class=\"component-checkbox-label\">") ++
     checkbox (indent + 4) id kind title checked ++ line indent (raw "</label>"))

def bodyPart (s : SiteSettings) (indent : Nat) (rank : String) (f : FunctionDoc) : Markup :=
  gap 0 ++ descriptionPart indent (s.description? f.id) ++
  gap 0 ++ docsPart indent f.docs ++
  gap 0 ++ parametersPart indent rank f.parameters ++
  gap 0 ++ sourcePart indent s.includeSource f.source

/-! ## contents -/

def methodLink (s : SiteSettings) (c : ClassDoc) (m : MethodDoc) : Markup :=
  optional 28 (s.editable || s.shows m.id)
    (line 28 (raw "<li>") ++
     checkedLink s.editable 32
       (fun n => checkbox n m.id "method" (c.name ++ "." ++ m.name) (s.shows m.id))
       (fun n => line n (link ("#" ++ methodAnchor c m) (text m.name ++ raw "()"))) ++
     line 28 (raw "</li>"))

def classLinks (s : SiteSettings) (c : ClassDoc) : Markup :=
  line 16 (raw "<li>") ++
  checkedLink s.editable 20
    (fun n => checkbox n c.id "class" c.name (s.shows c.id))
    (fun n => line n (link ("#" ++ classAnchor c) (text c.name))) ++
  line 20 (raw "<ul>") ++ each 24 c.methods (methodLink s c) ++ line 20 (raw "</ul>") ++
  line 16 (raw "</li>")

def functionLink (s : SiteSettings) (f : FunctionDoc) : Markup :=
  line 16 (raw "<li>") ++
  checkedLink s.editable 20
    (fun n => checkbox n f.id "function" f.name (s.shows f.id))
    (fun n => line n (link ("#" ++ functionAnchor f) (text f.name ++ raw "()"))) ++
  line 16 (raw "</li>")

/-! ## sections -/

def markedClass (s : SiteSettings) (name id : String) : String :=
  name ++ if s.editable && !s.shows id then " excluded" else ""

def methodBlock (s : SiteSettings) (c : ClassDoc) (m : MethodDoc) : Markup :=
  optional 20 (s.editable || s.shows m.id)
    (line 20 (raw "<div " ++ attr "class" (markedClass s "method" m.id) ++ raw " " ++
       attr "id" (methodAnchor c m) ++ raw ">") ++
     line 24 (raw "<h4 class=\"method-signature\">") ++
     boxPart s.editable 28 m.id "method" (c.name ++ "." ++ m.name) (s.shows m.id) ++
     line 28 (if m.isStatic then raw
       "<span class=\"decorator\">@staticmethod</span><br>" else []) ++
     line 28 (if m.isClassMethod then raw
       "<span class=\"decorator\">@classmethod</span><br>" else []) ++
     signaturePart 28 "method-name" m.toFunctionDoc ++
     line 24 (raw "</h4>") ++
     bodyPart s 24 "h5" m.toFunctionDoc ++
     line 20 (raw "</div>"))

def variablesPart (vs : List PropertyDoc) : Markup :=
  optional 12 (!vs.isEmpty)
    (lines [(12, "<div class=\"class-variables\">"), (16, "<h3>Class Variables</h3>")] ++
     table 16 vs (fun v =>
       [codeCell v.name, codeCell (orElseText v.hint "-"), codeCell (orElseText v.default "-")]) ++
     line 12 (raw "</div>"))

def classSection (s : SiteSettings) (c : ClassDoc) : Markup :=
  line 8 (raw "<section class=\"class-section\" " ++ attr "id" (classAnchor c) ++ raw ">") ++
  line 12 (raw "<h2 class=\"class-title\">") ++
  boxPart s.editable 16 c.id "class" c.name (s.shows c.id) ++
  line 16 (keywordSpan "class" ++ raw " " ++ text c.name) ++
  optional 16 (!c.bases.isEmpty)
    (line 16 (raw "<span class=\"bases\">(" ++ text (", ".intercalate c.bases) ++
      raw ")</span>")) ++
  line 12 (raw "</h2>") ++
  gap 0 ++ gap 12 ++ descriptionPart 12 (some (s.describe c.toHeader)) ++
  gap 0 ++ docsPart 12 c.docs ++
  gap 0 ++ variablesPart c.classVariables ++
  gap 0 ++
  lines [(12, "<div class=\"methods\">"), (16, "<h3>Methods</h3>")] ++
  each 16 c.methods (methodBlock s c) ++
  lines [(12, "</div>"), (8, "</section>")]

def functionBlock (s : SiteSettings) (f : FunctionDoc) : Markup :=
  line 12 (raw "<div " ++ attr "class" (markedClass s "function" f.id) ++ raw " " ++
    attr "id" (functionAnchor f) ++ raw ">") ++
  line 16 (raw "<h3 class=\"function-signature\">") ++
  boxPart s.editable 20 f.id "function" f.name (s.shows f.id) ++
  signaturePart 20 "function-name" f ++
  line 16 (raw "</h3>") ++
  bodyPart s 16 "h4" f ++
  line 12 (raw "</div>")

/-! ## the page -/

def SiteSettings.moduleTitle (s : SiteSettings) (m : ModuleDoc) : Data :=
  match s.selections.of? m.id with
  | some sel => if sel.title.isTrue then sel.title else .str m.name
  | none => .str m.name

def SiteSettings.moduleDescription (s : SiteSettings) (m : ModuleDoc) : Data :=
  let d := s.describe m.toHeader
  if d.isTrue then d else (s.description? m.id).getD (.str "")

def moduleHeader (s : SiteSettings) (m : ModuleDoc) : Markup :=
  let title := text (s.moduleTitle m).display
  lines [(8, "<header class=\"module-header\">"), (12, "<h1>")] ++
  either 16 s.editable
    (line 16 (raw "<label class=\"header-checkbox-label\">") ++
     checkbox 20 m.id "module" m.name (s.shows m.id) ++
     line 20 title ++ line 16 (raw "</label>"))
    (line 16 title) ++
  line 12 (raw "</h1>") ++
  line 12 (raw "<p class=\"file-path\">" ++ text m.path ++ raw "</p>") ++
  line 8 (raw "</header>")

def modulePage (s : SiteSettings) (m : ModuleDoc) : Markup :=
  let classes := m.classes.filter fun c => s.shows c.id
  let functions := m.functions.filter fun f => s.shows f.id
  let d := s.moduleDescription m
  documentHead "../" (text m.name ++ raw " - " ++ text s.title) ++ bodyStart s.editable ++
  lines [(4, "<nav class=\"sidebar\">"), (8, "<div class=\"sidebar-header\">"),
    (12, "<a href=\"../index.html\" class=\"back-link\">&larr; Back to Index</a>")] ++
  line 12 (raw "<h2>" ++ text m.name ++ raw "</h2>") ++
  line 8 (raw "</div>") ++
  optional 8 s.editable (editControls []) ++
  lines [(8, "<div class=\"module-toc\">"), (12, "<h3>Contents</h3>"), (12, "<ul>")] ++
  each 16 classes (classLinks s) ++
  optional 16 (!functions.isEmpty)
    (line 16 (raw "<li class=\"functions-header\">Functions</li>") ++
     each 16 functions (functionLink s)) ++
  lines [(12, "</ul>"), (8, "</div>"), (4, "</nav>"), (4, "<main class=\"content\">")] ++
  moduleHeader s m ++
  gap 0 ++ line 8 (raw "<section class=\"module-description\">") ++
  optional 12 d.isTrue (line 12 (raw "<p>" ++ text d.display ++ raw "</p>")) ++
  docsPart 12 m.docs ++
  line 8 (raw "</section>") ++
  gap 0 ++ each 8 classes (classSection s) ++
  gap 0 ++ optional 8 (!functions.isEmpty)
    (lines [(8, "<section class=\"functions-section\">"), (12, "<h2>Functions</h2>")] ++
     each 12 functions (functionBlock s) ++
     line 8 (raw "</section>")) ++
  documentEnd "../"

end Apidoc
