import Apidoc.Digest

/-!
# Identity of components

A component is known by twelve digits of the digest of its key, which says where it is defined and
how it is called.  A member of a class is called by the class and its own name.
-/

namespace Apidoc

def componentKey (path name : String) (line : Int) : String :=
  path ++ ":" ++ name ++ ":" ++ toString line

/-- the first twelve hexadecimal digits of the digest -/
def digestId (key : String) : String := String.ofList ((Digest.hexDigest key).toList.take 12)

def componentId (path name : String) (line : Int) : String := digestId (componentKey path name line)

end Apidoc
