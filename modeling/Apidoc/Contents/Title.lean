import Apidoc.Component.Basic
import Apidoc.Text.Case

/-!
# Titles

How components are called in the table of contents: modules by their dotted path, classes with their
first bases, functions and methods with their first parameters.
-/

namespace Apidoc

def dropSuffix (cs : List Char) : List Char :=
  if Text.isSuffix ".py".toList cs then cs.take (cs.length - 3) else cs

def moduleTitle (path : String) : String :=
  String.ofList (dropSuffix (Text.substitute (fun c => c == '/' || c == '\\') '.' path.toList))

def firstNames (n : Nat) (names : List String) : String :=
  ", ".intercalate (names.take n ++ if n < names.length then ["..."] else [])

def classTitle (c : ClassDoc) : String :=
  if c.bases.isEmpty then c.name else c.name ++ "(" ++ firstNames 2 c.bases ++ ")"

/-- A parameter with a default shows that it has one. -/
def parameterTitle (p : ParameterDoc) : String :=
  if p.default.getD "" = "" then p.name else p.name ++ "=..."

def functionTitle (f : FunctionDoc) : String :=
  (if f.isAsync then "async " else "") ++ f.name ++ "(" ++
    firstNames 3 (f.parameters.map parameterTitle) ++ ")"

def methodTitle (m : MethodDoc) : String :=
  let mark :=
    if m.isStatic then "@staticmethod "
    else if m.isClassMethod then "@classmethod "
    else if m.isAsync then "async "
    else ""
  mark ++ m.name ++ "(" ++ firstNames 2 (m.parameters.map (·.name)) ++ ")"

def listedConstants : List String := ["__version__", "__author__", "__all__"]

def isSignificant (name : String) : Bool :=
  Text.isUpperText name.toList || listedConstants.contains name

end Apidoc
