import Apidoc.Page.Index
import Apidoc.Page.Script
import Apidoc.Page.Search
import Apidoc.Page.Style
import Apidoc.Repository.Action

/-!
# A site

The files of a site: style sheet, script, index page, a page for each module that is shown, and the
search index, written in this order.
-/

namespace Apidoc

structure Site where
  settings : SiteSettings
  /-- additions to the style sheet -/
  style : Option String
  /-- when the site was made -/
  stamp : String
  modules : List ModuleDoc
  entries : List Entry

namespace Site

def styleText (site : Site) : String :=
  match shown site.style with
  | some css => styleSheet ++ "\n\n/* Custom CSS */\n" ++ css
  | none => styleSheet

def indexText (site : Site) : String :=
  (indexPage site.settings.title site.stamp site.settings.editable site.entries
    site.settings.selections).render

def shownModules (site : Site) : List ModuleDoc :=
  site.modules.filter fun m => site.settings.shows m.id

def foundModules (site : Site) : List ModuleDoc :=
  let found := site.settings.finds (componentIndex site.modules)
  site.modules.filter fun m => found m.id

/-- the files of a site by their paths below its directory, in the order in which they are written
-/
def files (site : Site) : List (List String × String) :=
  [(["style.css"], site.styleText), (["script.js"], pageScript),
    (["index.html"], site.indexText)] ++
  (site.shownModules.map fun m => (["modules", pageFile m.path],
    (modulePage site.settings m).render)) ++
  [(["search.json"], searchText (searchIndex site.settings site.modules))]

/-! ## descriptions that cannot be asked for -/

/-- A module or class with a description of the user's own needs no other. -/
def headerFault? (s : SiteSettings) (id : String) : Option Fault :=
  match s.selections.of? id with
  | some sel => if sel.description.isTrue then none else some .notMap
  | none => some .notMap

def classFault? (s : SiteSettings) (c : ClassDoc) : Option Fault :=
  (headerFault? s c.id).orElse fun _ =>
    if c.methods.any fun m => s.editable || s.shows m.id then some .undefinedValue else none

def pageFault? (s : SiteSettings) (m : ModuleDoc) : Option Fault :=
  (headerFault? s m.id).orElse fun _ =>
    ((m.classes.filter fun c => s.shows c.id).findSome? (classFault? s)).orElse fun _ =>
      if m.functions.any fun f => s.shows f.id then some .undefinedValue else none

def leadingFiles : Nat := 3

/-- The number of pages before the first one that cannot be made, and why. -/
def firstFault? (s : SiteSettings) : List ModuleDoc → Option (Nat × Fault)
  | [] => none
  | m :: ms =>
    match pageFault? s m with
    | some f => some (0, f)
    | none => (firstFault? s ms).map fun p => (p.1 + 1, p.2)

/-- How many files can be written before a fault, if there is one; the search index asks for the
description of every module in it. -/
def fault? (site : Site) : Option (Nat × Fault) :=
  if site.settings.broken then
    match firstFault? site.settings site.shownModules with
    | some (n, f) => some (leadingFiles + n, f)
    | none =>
      if site.foundModules.isEmpty then none
      else some (leadingFiles + site.shownModules.length, .notMap)
  else none

/-! ## writing -/

def prepare (out : Path) : Action Unit := do
  if ← Action.exists? out then
    if !(← get).isFolder out then throw (.disk ⟨.notFolder, out.text⟩)
  Action.makeFolder out
  Action.makeFolder (out.child "modules")

def writeFiles (out : Path) (files : List (List String × String)) : Action Unit :=
  files.forM fun f => Action.write { out with parts := out.parts ++ f.1 } f.2

def write (site : Site) (out : Path) : Action Unit := do
  prepare out
  match site.fault? with
  | none => writeFiles out site.files
  | some (n, f) =>
    writeFiles out (site.files.take n)
    throw f

end Site

end Apidoc
