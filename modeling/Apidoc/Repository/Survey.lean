import Apidoc.Component.Reader
import Apidoc.Repository.Disk
import Apidoc.Repository.Glob

/-!
# The modules of a repository

Every file whose name ends in `.py` is looked at, unless its path or one of the names in it matches
an exclusion pattern.  A file that is malformed is reported and left out; so is, silently, a module
that defines nothing visible.  A file that cannot be read at all ends the survey.
-/

namespace Apidoc

def defaultPatterns : List String :=
  ["__pycache__", "*.pyc", ".git", ".venv", "venv", "env", ".env", "node_modules", "dist", "build",
   "*.egg-info", ".tox", ".pytest_cache", ".mypy_cache", ".ruff_cache", "tests",
     "test_*", "*_test.py",
   "conftest.py", "setup.py"]

def testPatterns : List String := ["tests", "test_*", "*_test.py", "conftest.py"]

structure SurveySettings where
  includePrivate : Bool
  includeTests : Bool
  patterns : List String
  deriving DecidableEq, Repr

def SurveySettings.allPatterns (s : SurveySettings) : List String :=
  (if s.includeTests then defaultPatterns.filter fun p =>
    !testPatterns.contains p else defaultPatterns)
    ++ s.patterns

def isExcluded (patterns : List String) (parts : List String) : Bool :=
  patterns.any fun p =>
    parts.any (Glob.isMatch p) || Glob.isMatch p (Path.ofParts parts).text

def namesBefore : List String → List String → Bool
  | [], _ => true
  | _ :: _, [] => false
  | a :: as, b :: bs => if a = b then namesBefore as bs else a < b

/-- The paths below `repo` that are surveyed, ordered name by name; outside the disk there are none.
-/
def moduleFiles (d : Disk) (repo : Path) (patterns : List String) : List (List String) :=
  let nodes := if repo.anchor = .root then [] else d.nodes
  let found := nodes.filterMap fun n =>
    let parts := n.1.drop repo.parts.length
    if n.1.take repo.parts.length == repo.parts && !parts.isEmpty && Glob.isMatch "*.py"
      (parts.getLastD "")
      && !isExcluded patterns parts then some parts else none
  found.mergeSort namesBefore

inductive SurveyFault where
  | disk (fault : DiskFault)
  | unprintable (fault : Syntax.PrintFault)
  deriving DecidableEq, Repr

/-- what a survey found: the malformed files, and the modules unless it ended early -/
structure Survey where
  malformed : List String
  modules : Except SurveyFault (List ModuleDoc)

def readContent (includePrivate : Bool) (parts : List String) (c : Content) :
    Except ReadFault ModuleDoc :=
  let path := Path.ofParts parts
  match c with
  | .binary _ => .error .malformed
  | .text s => readSource includePrivate path.text path.stem s

def readContents (d : Disk) (repo : Path) (includePrivate : Bool) : List (List String) → Survey
  | [] => ⟨[], .ok []⟩
  | parts :: rest =>
    match d.read { repo with parts := repo.parts ++ parts } with
    | .error f => ⟨[], .error (.disk f)⟩
    | .ok c =>
      match readContent includePrivate parts c with
      | .error (.unprintable f) => ⟨[], .error (.unprintable f)⟩
      | .error .malformed =>
        let s := readContents d repo includePrivate rest
        { s with malformed := (Path.ofParts parts).text :: s.malformed }
      | .ok m =>
        let s := readContents d repo includePrivate rest
        if m.isEmpty then s else { s with modules := s.modules.map (m :: ·) }

/-- Surveys a repository; its modules are listed by the text of their paths. -/
def survey (d : Disk) (repo : Path) (settings : SurveySettings) : Survey :=
  let s := readContents d repo settings.includePrivate (moduleFiles d repo settings.allPatterns)
  { s with modules := s.modules.map fun ms => ms.mergeSort fun a b => a.path ≤ b.path }

/-! ## numbers -/

structure Statistics where
  modules : Nat
  classes : Nat
  functions : Nat
  methods : Nat
  properties : Nat
  constants : Nat
  documentedModules : Nat
  documentedClasses : Nat
  documentedFunctions : Nat
  deriving DecidableEq, Repr

def Header.isDocumented (h : Header) : Bool := (h.docs.getD "") != ""

def statistics (ms : List ModuleDoc) : Statistics :=
  let classes := ms.flatMap (·.classes)
  let functions := ms.flatMap (·.functions)
  { modules := ms.length
    classes := classes.length
    functions := functions.length
    methods := (classes.flatMap (·.methods)).length
    properties := (classes.flatMap fun c => c.properties ++ c.classVariables).length
    constants := (ms.flatMap (·.constants)).length
    documentedModules := (ms.filter fun m => m.toHeader.isDocumented).length
    documentedClasses := (classes.filter fun c => c.toHeader.isDocumented).length
    documentedFunctions := (functions.filter fun f => f.toHeader.isDocumented).length }

end Apidoc
