import Apidoc.Page.Frame
import Apidoc.Selection.Basic

/-!
# The index page

A table of contents of two levels with links to the pages of modules and to the anchors on them.  An
excluded entry is left out, or marked on an editable page.
-/

namespace Apidoc

open Markup

def titleName (title : String) : String :=
  String.ofList (title.toList.takeWhile fun c => c != '(')

def entryUrl (path : String) (h : Heading) : String :=
  pageUrl path ++ "#" ++ h.kind.text ++ "-" ++ titleName h.title

def entryClass (h : Heading) (included : Bool) : String :=
  "toc-item toc-level-" ++ toString h.level ++ if included then "" else " excluded"

def entryCheckbox (h : Heading) (included : Bool) (indent : Nat) : Markup :=
  checkbox indent h.id h.kind.text h.title included

def childItem (editable : Bool) (s : Selections) (path : String) (h : Heading) : Markup :=
  let included := s.includes h.id
  gap 28 ++ optional 28 (editable || included)
    (line 28 (raw "<li " ++ attr "class" (entryClass h included) ++ raw ">") ++
     checkedLink editable 32 (entryCheckbox h included) (fun n =>
       line n (raw "<a " ++ attr "href" (entryUrl path h) ++ raw ">") ++
       line (n + 4) (text h.title) ++ line n (raw "</a>")) ++
     line 28 (raw "</li>"))

def entryItem (editable : Bool) (s : Selections) (e : Entry) : Markup :=
  let h := e.heading
  let included := s.includes h.id
  let flat := Text.substitute (fun c => c == '/' || c == '\\') '_' h.path.toList
  gap 16 ++ optional 16 (editable || included)
    (line 16 (raw "<li " ++ attr "class" (entryClass h included) ++ raw ">") ++
     gap 20 ++ gap 20 ++ (if Text.isSuffix ".py".toList flat then gap 24 ++ gap 20 else []) ++
     checkedLink editable 20 (entryCheckbox h included) (fun n =>
       line n (link (pageUrl h.path) (text h.title))) ++
     optional 20 (!e.children.isEmpty)
       (line 20 (raw "<ul class=\"toc-children\">") ++
        each 24 e.children (fun c => childItem editable s h.path c.heading) ++
        line 20 (raw "</ul>")) ++
     line 16 (raw "</li>"))

def indexIntroduction (editable : Bool) : Markup :=
  either 12 editable
    (lines [(12,
      "<p>This documentation is in <strong>editable mode</strong>. Use the checkboxes in the sidebar and on each component to select which items to include in the final documentation.</p>"),
      (12, "<p>When you're done, click <strong>Export Selections</strong> to download a <code>selections.yaml</code> file. Then regenerate documentation using:</p>"),
      (12, "<pre><code>docuagent generate --use-selections</code></pre>")])
    (lines [(12,
      "<p>Welcome to the API documentation. Use the table of contents on the left to navigate through the modules, classes, and functions.</p>")])

def indexPage (title stamp : String) (editable : Bool) (entries : List Entry) (s : Selections) :
    Markup :=
  documentHead "" (text title) ++ bodyStart editable ++
  lines [(4, "<nav class=\"sidebar\">"), (8, "<div class=\"sidebar-header\">")] ++
  line 12 (raw "<h1>" ++ text title ++ raw "</h1>") ++
  lines [(12, "<div class=\"search-box\">"),
    (16, "<input type=\"text\" id=\"search-input\" placeholder=\"Search...\">"), (12, "</div>"),
    (8, "</div>")] ++
  optional 8 editable (editControls (line 12
    (raw "<p class=\"edit-hint\">Check/uncheck components to include in documentation, then export selections.</p>"))) ++
  lines [(8, "<div class=\"toc\">"), (12, "<h2>Table of Contents</h2>"),
    (12, "<ul class=\"toc-list\">")] ++
  each 12 entries (entryItem editable s) ++
  lines [(12, "</ul>"), (8, "</div>"), (4, "</nav>"), (4, "<main class=\"content\">"),
    (8, "<header>")] ++
  line 12 (raw "<h1>" ++ text title ++ raw "</h1>") ++
  line 12 (raw "<p class=\"generated-at\">Generated on " ++ text stamp ++ raw "</p>") ++
  optional 12 editable (line 12 (raw "<p class=\"edit-mode-badge\">Editable Mode</p>")) ++
  lines [(8, "</header>"), (8, "<section class=\"overview\">"), (12, "<h2>Overview</h2>")] ++
  indexIntroduction editable ++
  gap 0 ++
  lines [(12, "<h3>Quick Stats</h3>"), (12, "<ul>")] ++
  line 16 (raw "<li><strong>Modules:</strong> " ++ text (toString entries.length) ++ raw "</li>") ++
  lines [(12, "</ul>"), (8, "</section>"),
    (8, "<div id=\"search-results\" class=\"search-results\" style=\"display: none;\">"),
    (12, "<h2>Search Results</h2>"), (12, "<ul id=\"results-list\"></ul>"), (8, "</div>")] ++
  documentEnd ""

end Apidoc
