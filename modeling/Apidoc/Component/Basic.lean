/-!
# Components of an interface

What is documented: modules, their classes, functions and constants, and the members of classes.
Every component has a `Header`; the records of the single kinds extend it.  `Component` is any of
them.
-/

namespace Apidoc

inductive Kind where
  | module | classDef | function | method | property | constant | variable
  deriving DecidableEq, Repr

namespace Kind

def all : List Kind := [.module, .classDef, .function, .method, .property, .constant, .variable]

def text : Kind → String
  | .module => "module"
  | .classDef => "class"
  | .function => "function"
  | .method => "method"
  | .property => "property"
  | .constant => "constant"
  | .variable => "variable"

def ofText? (s : String) : Option Kind := all.find? fun k => k.text == s

end Kind

/-- a parameter as it is shown; the stars of a variadic one belong to its name -/
structure ParameterDoc where
  name : String
  hint : Option String
  default : Option String
  description : Option String
  deriving DecidableEq, Repr

structure Header where
  id : String
  name : String
  path : String
  line : Int
  docs : Option String
  source : Option String
  description : Option String
  deriving DecidableEq, Repr

def Header.qualifiedName (h : Header) : String := h.path ++ ":" ++ h.name

structure PropertyDoc extends Header where
  hint : Option String
  default : Option String
  isClassVariable : Bool
  deriving DecidableEq, Repr

structure FunctionDoc extends Header where
  parameters : List ParameterDoc
  returns : Option String
  isAsync : Bool
  decorators : List String
  deriving DecidableEq, Repr

structure MethodDoc extends FunctionDoc where
  isStatic : Bool
  isClassMethod : Bool
  isProperty : Bool
  parent : Option String
  deriving DecidableEq, Repr

structure ClassDoc extends Header where
  bases : List String
  methods : List MethodDoc
  properties : List PropertyDoc
  classVariables : List PropertyDoc
  decorators : List String
  deriving DecidableEq, Repr

structure ModuleDoc extends Header where
  classes : List ClassDoc
  functions : List FunctionDoc
  constants : List PropertyDoc
  imports : List String
  /-- the names the module itself declares public, if it does -/
  exports : Option (List String)
  deriving DecidableEq, Repr

inductive Component where
  | module (m : ModuleDoc)
  | classDef (c : ClassDoc)
  | method (m : MethodDoc)
  | function (f : FunctionDoc)
  | property (p : PropertyDoc)
  deriving DecidableEq, Repr

namespace Component

def header : Component → Header
  | .module m => m.toHeader
  | .classDef c => c.toHeader
  | .method m => m.toHeader
  | .function f => f.toHeader
  | .property p => p.toHeader

def kind : Component → Kind
  | .module _ => .module
  | .classDef _ => .classDef
  | .method _ => .method
  | .function _ => .function
  | .property _ => .property

def id (c : Component) : String := c.header.id

end Component

def ClassDoc.components (c : ClassDoc) : List Component :=
  .classDef c :: c.methods.map .method ++ c.properties.map .property ++
    c.classVariables.map .property

def ModuleDoc.components (m : ModuleDoc) : List Component :=
  .module m :: m.classes.flatMap ClassDoc.components ++ m.functions.map .function ++
    m.constants.map .property

/-- A module is worth a page if it defines something. -/
def ModuleDoc.isEmpty (m : ModuleDoc) : Bool :=
  m.classes.isEmpty && m.functions.isEmpty && m.constants.isEmpty

end Apidoc
