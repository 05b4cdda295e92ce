import Apidoc.Contents.Entry
import Apidoc.Contents.Title

/-!
# The table of contents of some modules

Modules at level 0, their classes, functions and significant constants at level 1, and the members
of classes at level 2.
-/

namespace Apidoc

structure ContentsSettings where
  methods : Bool
  properties : Bool
  deriving DecidableEq, Repr

def ContentsSettings.full : ContentsSettings := ⟨true, true⟩

def Header.heading (h : Header) (title : String) (kind : Kind) (level : Int)
    (parent : Option String) : Heading :=
  { id := h.id, title := title, kind := kind, level := level, path := h.path, line := h.line,
    parent := parent }

def leaf (h : Heading) : Entry := .mk h []

def memberEntries (s : ContentsSettings) (c : ClassDoc) : List Entry :=
  (if s.methods then
    c.methods.map fun m => leaf (m.toHeader.heading (methodTitle m) .method 2 (some c.id))
  else []) ++
  (if s.properties then
    c.properties.map (fun p => leaf (p.toHeader.heading p.name .property 2 (some c.id))) ++
    c.classVariables.map (fun v => leaf (v.toHeader.heading v.name .variable 2 (some c.id)))
  else [])

def classEntry (s : ContentsSettings) (parent : String) (c : ClassDoc) : Entry :=
  .mk (c.toHeader.heading (classTitle c) .classDef 1 (some parent)) (memberEntries s c)

def functionEntry (parent : String) (f : FunctionDoc) : Entry :=
  leaf (f.toHeader.heading (functionTitle f) .function 1 (some parent))

def constantEntry (parent : String) (p : PropertyDoc) : Entry :=
  leaf (p.toHeader.heading p.name .constant 1 (some parent))

def moduleEntry (s : ContentsSettings) (m : ModuleDoc) : Entry :=
  .mk (m.toHeader.heading (moduleTitle m.path) .module 0 none)
    (m.classes.map (classEntry s m.id) ++ m.functions.map (functionEntry m.id) ++
      (m.constants.filter fun p => isSignificant p.name).map (constantEntry m.id))

def contents (s : ContentsSettings) (ms : List ModuleDoc) : List Entry := ms.map (moduleEntry s)

end Apidoc
