import Apidoc.Contents.Title
import Apidoc.Page.Fragment

/-!
# What pages have in common

File names and links of pages, the head of a document, and the check boxes of editable pages.
-/

namespace Apidoc

def pageName (path : String) : String :=
  String.ofList (dropSuffix (Text.substitute (fun c => c == '/' || c == '\\') '_' path.toList))

def pageFile (path : String) : String := pageName path ++ ".html"

def pageUrl (path : String) : String := "modules/" ++ pageFile path

namespace Markup

def documentHead (base : String) (title : Markup) : Markup :=
  raw "<!DOCTYPE html>" ++
  lines [(0, "<html lang=\"en\">"), (0, "<head>"), (4, "<meta charset=\"UTF-8\">"),
    (4, "<meta name=\"viewport\" content=\"width=device-width, initial-scale=1.0\">")] ++
  line 4 (raw "<title>" ++ title ++ raw "</title>") ++
  line 4 (raw "<link rel=\"stylesheet\" " ++ attr "href" (base ++ "style.css") ++ raw ">") ++
  line 0 (raw "</head>")

def bodyStart (editable : Bool) : Markup :=
  line 0 (raw "<body" ++ (if editable then raw " class=\"editable-mode\"" else []) ++ raw ">")

def documentEnd (base : String) : Markup :=
  line 4 (raw "</main>") ++
  line 4 (raw "<script " ++ attr "src" (base ++ "script.js") ++ raw "></script>") ++
  lines [(0, "</body>"), (0, "</html>")]

def editControls (hint : Markup) : Markup :=
  lines [(8, "<div class=\"edit-controls\">"), (12, "<h3>Selection Controls</h3>"),
    (12, "<div class=\"edit-buttons\">"),
    (16, "<button id=\"select-all-btn\" class=\"edit-btn\">Select All</button>"),
    (16, "<button id=\"deselect-all-btn\" class=\"edit-btn\">Deselect All</button>"),
      (12, "</div>"),
    (12, "<div class=\"edit-buttons\">"),
    (16, "<button id=\"export-selections-btn\" class=\"edit-btn primary\">Export Selections</button>"),
    (12, "</div>")] ++
  hint ++ line 8 (raw "</div>")

def checkbox (indent : Nat) (id kind title : String) (checked : Bool) : Markup :=
  line indent (raw "<input type=\"checkbox\" class=\"component-checkbox\"") ++
  line (indent + 7) (attr "data-id" id) ++
  line (indent + 7) (attr "data-type" kind) ++
  line (indent + 7) (attr "data-title" title) ++
  line (indent + 7) ((if checked then raw "checked" else []) ++ raw ">")

def link (url : String) (m : Markup) : Markup :=
  raw "<a " ++ attr "href" url ++ raw ">" ++ m ++ raw "</a>"

def checkedLink (editable : Bool) (indent : Nat) (box : Nat → Markup) (link : Nat → Markup) :
    Markup :=
  either indent editable
    (line indent (raw "<label class=\"toc-checkbox-label\">") ++ box (indent + 4) ++
      link (indent + 4) ++
      line indent (raw "</label>"))
    (link indent)

end Markup

end Apidoc
