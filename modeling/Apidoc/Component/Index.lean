import Apidoc.Component.Basic
import Apidoc.Data.Ordered

/-!
# Components by id

Variables of classes have no place in the index.
-/

namespace Apidoc

def ClassDoc.indexed (c : ClassDoc) : List Component :=
  .classDef c :: c.methods.map .method ++ c.properties.map .property

def ModuleDoc.indexed (m : ModuleDoc) : List Component :=
  .module m :: m.classes.flatMap ClassDoc.indexed ++ m.functions.map .function ++
    m.constants.map .property

/-- Of components with one id the last one stays, where the first one stood. -/
def componentIndex (ms : List ModuleDoc) : Ordered String Component :=
  Ordered.ofList ((ms.flatMap ModuleDoc.indexed).map fun c => (c.id, c))

def typeText (t : Option String) : String := t.getD ""

end Apidoc
