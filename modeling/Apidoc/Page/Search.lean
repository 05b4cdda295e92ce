import Apidoc.Component.Index
import Apidoc.Data.Json.Writer
import Apidoc.Page.Module

/-!
# The search index

One entry for every module that is found, for its classes, their methods and its functions, each
with the page and anchor where it is shown.
-/

namespace Apidoc

structure SearchEntry where
  kind : Kind
  name : String
  path : String
  description : Data
  url : String
  deriving Repr

namespace SearchEntry

def toData (e : SearchEntry) : Data :=
  .object [("type", .str e.kind.text), ("name", .str e.name), ("path", .str e.path),
    ("description", e.description), ("url", .str e.url)]

end SearchEntry

def SiteSettings.searchText (s : SiteSettings) (h : Header) : Data :=
  (s.description? h.id).getD (.str (h.docs.getD ""))

/-- Whether something is in the search index: what is chosen, or, without any selections, what is in
the index of components. -/
def SiteSettings.finds (s : SiteSettings) (index : Ordered String Component) (id : String) : Bool :=
  if s.selections.isEmpty then index.contains id else s.selections.names id

def methodSearch (s : SiteSettings) (m : ModuleDoc) (c : ClassDoc) (f : MethodDoc) : SearchEntry :=
  { kind := .method, name := c.name ++ "." ++ f.name,
    path := m.path ++ ":" ++ c.name ++ "." ++ f.name,
    description := s.searchText f.toHeader, url := pageUrl m.path ++ "#" ++ methodAnchor c f }

def classSearch (s : SiteSettings) (found : String → Bool) (m : ModuleDoc) (c : ClassDoc) :
    List SearchEntry :=
  { kind := .classDef, name := c.name, path := m.path ++ ":" ++ c.name,
    description := s.searchText c.toHeader, url := pageUrl m.path ++ "#" ++ classAnchor c } ::
  (c.methods.filter fun f => found f.id).map (methodSearch s m c)

def functionSearch (s : SiteSettings) (m : ModuleDoc) (f : FunctionDoc) : SearchEntry :=
  { kind := .function, name := f.name, path := m.path ++ ":" ++ f.name,
    description := s.searchText f.toHeader, url := pageUrl m.path ++ "#" ++ functionAnchor f }

def moduleSearch (s : SiteSettings) (found : String → Bool) (m : ModuleDoc) : List SearchEntry :=
  { kind := .module, name := m.name, path := m.path, description := s.searchText m.toHeader,
    url := pageUrl m.path } ::
  (m.classes.filter fun c => found c.id).flatMap (classSearch s found m) ++
  (m.functions.filter fun f => found f.id).map (functionSearch s m)

def searchIndex (s : SiteSettings) (ms : List ModuleDoc) : List SearchEntry :=
  let found := s.finds (componentIndex ms)
  (ms.filter fun m => found m.id).flatMap (moduleSearch s found)

def searchText (es : List SearchEntry) : String :=
  (Json.render (.list (es.map SearchEntry.toData))).text

end Apidoc
