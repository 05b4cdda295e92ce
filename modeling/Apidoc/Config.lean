import Apidoc.Data.Value

/-!
# Records of a documentation run
-/

namespace Apidoc

structure Config where
  repo : String
  output : String := "docs"
  title : String := "API Documentation"
  includePrivate : Bool := false
  includeSource : Bool := true
  languages : List String := ["python"]
  excludePatterns : List String := []
  selectionsFile : String := ".docuagent/selections.yaml"
  deriving DecidableEq, Repr

structure Documentation where
  component : String
  title : String
  html : String
  markdown : Option String := none
  metadata : Data := .map []
  deriving Repr

end Apidoc
