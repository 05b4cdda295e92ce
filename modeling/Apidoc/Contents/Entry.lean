import Apidoc.Component.Basic

/-!
# Entries of a table of contents

An entry is a heading with the entries below it.

* `flatten`   all entries of a forest, each before those below it;
* `find?`     the first entry with an id;
* `prune`     the forest without the entries that are not wanted, and without all below them.
-/

namespace Apidoc

structure Heading where
  id : String
  title : String
  kind : Kind
  level : Int
  path : String
  line : Int
  parent : Option String
  deriving DecidableEq, Repr

inductive Entry where
  | mk (heading : Heading) (children : List Entry)

instance : Inhabited Entry := ⟨.mk ⟨"", "", .module, 0, "", 1, none⟩ []⟩

namespace Entry

def heading : Entry → Heading
  | .mk h _ => h

def children : Entry → List Entry
  | .mk _ es => es

def id (e : Entry) : String := e.heading.id

mutual

def flattenOne : Entry → List Entry
  | .mk h es => .mk h es :: flatten es

def flatten : List Entry → List Entry
  | [] => []
  | e :: es => flattenOne e ++ flatten es

end

def find? (es : List Entry) (id : String) : Option Entry := (flatten es).find? fun e => e.id == id

mutual

/-- The entry without unwanted ones below it, or nothing if it is unwanted itself. -/
def pruneOne (wanted : String → Bool) : Entry → List Entry
  | .mk h es => if wanted h.id then [.mk h (prune wanted es)] else []

def prune (wanted : String → Bool) : List Entry → List Entry
  | [] => []
  | e :: es => pruneOne wanted e ++ prune wanted es

end

end Entry

/-- What is not mentioned is wanted. -/
def isWanted (choices : List (String × Bool)) (id : String) : Bool :=
  ((choices.find? fun c => c.1 == id).map (·.2)).getD true

end Apidoc
