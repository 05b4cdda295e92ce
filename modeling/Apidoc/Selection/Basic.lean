import Apidoc.Contents.Entry
import Apidoc.Data.Ordered
import Apidoc.Data.Value

/-!
# Selections

What a user chose for one entry of the table of contents: whether it is included, and a title and a
description of the user's own.  The fields hold plain data, because a file edited by hand may hold
anything; what counts is whether a field is true.
-/

namespace Apidoc

structure Selection where
  /-- the id of the entry -/
  id : Data
  included : Data
  title : Data
  description : Data
  deriving Repr

abbrev Selections := Ordered Data Selection

namespace Selection

def default (id : Data) (included : Bool) : Selection := ⟨id, .bool included, .null, .null⟩

def isIncluded (s : Selection) : Bool := s.included.isTrue

end Selection

namespace Selections

def of? (s : Selections) (id : String) : Option Selection := Ordered.get? s (.str id)

/-- Whether an entry is included; one without a selection is. -/
def includes (s : Selections) (id : String) : Bool :=
  match of? s id with
  | some sel => sel.isIncluded
  | none => true

/-- Whether an entry is named and included. -/
def names (s : Selections) (id : String) : Bool :=
  match of? s id with
  | some sel => sel.isIncluded
  | none => false

/-- Whether a component is shown on a page: without any selections all are. -/
def shows (s : Selections) (id : String) : Bool := s.isEmpty || names s id

end Selections

end Apidoc
