import Apidoc.Command.Program
import Apidoc.Contents.Build
import Apidoc.Contents.Outline
import Apidoc.Data.Json.Writer
import Apidoc.Selection.Chooser

/-!
# Showing a repository

Its modules with what they define, and the table of contents of its documentation as a tree, as
plain lines or as JSON.
-/

namespace Apidoc.Display

open Program

def noModules : String := "[yellow]No Python modules found.[/yellow]"

def styled (style label : String) : String := "[" ++ style ++ "]" ++ label ++ "[/" ++ style ++ "]"

/-! ## structure -/

def classBranch (c : ClassDoc) : Branch :=
  .mk (styled "green" c.name) (c.methods.map fun m => .mk (styled "dim" (m.name ++ "()")) [])

def group (title : String) (below : List Branch) : List Branch :=
  if below.isEmpty then [] else [.mk (styled "cyan" title) below]

def moduleBranch (m : ModuleDoc) : Branch :=
  .mk (styled "blue" m.path)
    (group "Classes" (m.classes.map classBranch) ++
     group "Functions" (m.functions.map fun f => .mk (styled "yellow" (f.name ++ "()")) []))

def structureTree (ms : List ModuleDoc) : Branch :=
  .mk (styled "bold" "Repository Structure") (ms.map moduleBranch)

def analyze (includePrivate : Bool) (repo : Path) : Program Unit := do
  emit (.panel ("Analyzing [cyan]" ++ repo.text ++ "[/cyan]"))
  emit (.task "Extracting API components..." none)
  let ms ← modulesOf repo includePrivate
  emit (.update "Extraction complete!")
  if ms.isEmpty then print noModules
  else
    emit (.tree (structureTree ms))
    let s := statistics ms
    print "\n[bold]Statistics:[/bold]"
    print ("  Modules: " ++ toString s.modules)
    print ("  Classes: " ++ toString s.classes)
    print ("  Functions: " ++ toString s.functions)
    print ("  Methods: " ++ toString s.methods)

/-! ## contents -/

def kindStyle : Kind → String
  | .module => "blue"
  | .classDef => "green"
  | .function => "yellow"
  | .method => "cyan"
  | .property => "magenta"
  | _ => "white"

mutual

def entryBranch : Entry → Branch
  | .mk h es => .mk (styled (kindStyle h.kind) h.title) (entryBranches es)

def entryBranches : List Entry → List Branch
  | [] => []
  | e :: es => entryBranch e :: entryBranches es

end

def contentsTree (es : List Entry) : Branch :=
  .mk (styled "bold" "Table of Contents") (entryBranches es)

def entryLine (e : Entry) : String :=
  Chooser.indentation e.heading.level ++ "[" ++ e.heading.kind.text ++ "] " ++ e.heading.title

def contentsIn (format : String) (es : List Entry) : Program Unit :=
  if format = "json" then print (Json.render (Entry.outline es)).text
  else if format = "flat" then (Entry.flatten es).forM fun e => print (entryLine e)
  else emit (.tree (contentsTree es))

def toc (format : String) (repo : Path) : Program Unit := do
  let ms ← modulesOf repo false
  if ms.isEmpty then print noModules else contentsIn format (contents .full ms)

end Apidoc.Display
