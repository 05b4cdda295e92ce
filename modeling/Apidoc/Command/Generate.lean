import Apidoc.Command.Program
import Apidoc.Contents.Build
import Apidoc.Page.Site
import Apidoc.Selection.Store

/-!
# Generating documentation

Modules are read, selections are brought up to date, descriptions are made or taken from the store,
and a site is written.
-/

namespace Apidoc

def storeFolder : String := ".docuagent"

def storeOf (repo : Path) : Program Store := do
  return ⟨repo.child storeFolder, (← read).now⟩

structure GenerateSettings where
  output : String
  title : String
  includePrivate : Bool
  includeSource : Bool
  /-- descriptions are made by the service -/
  describes : Bool
  useSelections : Bool
  editable : Bool

namespace Generate

open Program

def statisticsGrid (s : Statistics) : Grid :=
  { title := "Extracted Components"
    columns := ["Type", "Count"]
    rows := [["Modules", toString s.modules], ["Classes", toString s.classes],
      ["Functions", toString s.functions], ["Methods", toString s.methods],
      ["Properties", toString s.properties]] }

def selectionsFor (store : Store) (useSelections : Bool) (entries : List Entry) :
    Program Selections := do
  if useSelections then
    let old ← act store.load
    if old.isEmpty then
      print "[yellow]No existing selections found. Initializing defaults...[/yellow]"
      act (store.start entries true)
    else return old
  else act (store.start entries true)

/-! ## descriptions -/

/-- Module after module is described, new descriptions win. -/
def describeModules (a : Agent) (includeSource : Bool) :
    List ModuleDoc → Descriptions → Program Descriptions
  | [], done => return done
  | m :: ms, done => do
    emit (.update ("Documenting " ++ m.name ++ "..."))
    let new ← talk (a.describeModule m includeSource)
    emit .advance
    describeModules a includeSource ms (Ordered.overlay done new)

def isForgiven : Fault → Bool
  | .noServiceKey => true
  | .notText _ => true
  | _ => false

def tellSkipped (f : Fault) : Program Unit := do
  print ("[yellow]AI generation skipped: " ++ f.message.getD "" ++ "[/yellow]")
  print "[dim]Set ANTHROPIC_API_KEY environment variable to enable AI descriptions.[/dim]"

/-- Keeps in the store what was made; a fault that is forgiven is told. -/
def keep (store : Store) (made : Descriptions) : Program Descriptions := do
  match ← attempt (store.saveDescriptions (.map made)) with
  | .ok _ => return made
  | .error f =>
    if isForgiven f then
      tellSkipped f
      return made
    else fail f

def makeDescriptions (store : Store) (includeSource : Bool) (ms : List ModuleDoc) :
    Program Descriptions := do
  emit (.task "Generating AI descriptions..." (some ms.length))
  let s ← read
  match Agent.connect s.service defaultModel none s.serviceKey with
  | .error f =>
    tellSkipped f
    return []
  | .ok a => keep store (← describeModules a includeSource ms [])

def descriptionsFor (g : GenerateSettings) (store : Store) (ms : List ModuleDoc) :
    Program Data := do
  if g.describes then return .map (← makeDescriptions store g.includeSource ms)
  else act store.loadDescriptions

/-- Descriptions by id; a key that is no text is none of a component. -/
def byId (ds : List (Data × Data)) : Ordered String Data :=
  ds.filterMap fun p => match p.1 with
    | .str id => some (id, p.2)
    | _ => none

/-! ## the site -/

def settingsFor (g : GenerateSettings) (selections : Selections) (descriptions : Data) :
    SiteSettings :=
  { title := g.title, includeSource := g.includeSource, editable := g.editable,
    selections := selections,
    descriptions := match descriptions with | .map ds => byId ds | _ => [],
    broken := match descriptions with | .map _ => false | _ => true }

def siteOf (g : GenerateSettings) (stamp : String) (ms : List ModuleDoc) (selections : Selections)
    (descriptions : Data) : Site :=
  { settings := settingsFor g selections descriptions, style := none, stamp := stamp, modules := ms,
    entries := contents .full ms }

def writeSite (g : GenerateSettings) (site : Site) : Program Unit := do
  emit (.task "Generating HTML documentation..." none)
  act (site.write (Path.ofText g.output))
  emit (.update "HTML generation complete!")
  let out ← resolve g.output
  print "\n[green]Documentation generated successfully![/green]"
  print ("Output: [cyan]" ++ out.text ++ "[/cyan]")
  print ("\nOpen [cyan]" ++ (out.child "index.html").text ++ "[/cyan] in a browser to view.")

/-! ## a run -/

def analyze (g : GenerateSettings) (repo : Path) : Program (List ModuleDoc) := do
  emit (.panel ("[bold blue]DocuAgent[/bold blue] - Generating documentation for [cyan]" ++
    repo.text ++ "[/cyan]"))
  emit (.task "Analyzing repository..." none)
  let ms ← modulesOf repo g.includePrivate
  emit (.update "Analysis complete!")
  return ms

def prepare (g : GenerateSettings) (repo : Path) (ms : List ModuleDoc) : Program Selections := do
  emit (.table (statisticsGrid (statistics ms)))
  selectionsFor (← storeOf repo) g.useSelections (contents .full ms)

def finish (g : GenerateSettings) (repo : Path) (ms : List ModuleDoc) (selections : Selections) :
    Program Unit := do
  let descriptions ← descriptionsFor g (← storeOf repo) ms
  writeSite g (siteOf g (← read).stamp ms selections descriptions)

def run (g : GenerateSettings) (repo : Path) : Program Unit := do
  let ms ← analyze g repo
  if ms.isEmpty then print "[yellow]No Python modules found in the repository.[/yellow]"
  else finish g repo ms (← prepare g repo ms)

end Generate

end Apidoc
