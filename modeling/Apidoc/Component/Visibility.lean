import Apidoc.Text.Split

/-!
# Which names are public

A name is private if it starts with one underscore.  At the top of a module a declared list of
exports decides alone; inside a class names with two underscores are private too, a few special
methods apart.
-/

namespace Apidoc

def specialMethods : List String := ["__init__", "__new__", "__call__", "__enter__", "__exit__"]

def startsWith (word : String) (name : String) : Bool := Text.isPrefix word.toList name.toList

def isListed (includePrivate : Bool) (exports : Option (List String)) (name : String) : Bool :=
  match exports with
  | some names => names.contains name
  | none => includePrivate || !(startsWith "_" name && !startsWith "__" name)

def isMemberListed (includePrivate : Bool) (name : String) : Bool :=
  includePrivate || specialMethods.contains name || !startsWith "_" name

end Apidoc
