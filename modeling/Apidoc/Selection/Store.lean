import Apidoc.Data.Json.Reader
import Apidoc.Data.Yaml.Reader
import Apidoc.Data.Yaml.Writer
import Apidoc.Repository.Action
import Apidoc.Selection.Basic

/-!
# The store

A directory that keeps what a user chose, the state of a run, and descriptions, in three files.
Selections are kept as YAML, the rest as JSON.  Every file says when it was written.

* `Store.save`, `Store.load`, `Store.update`, `Store.start`   selections;
* `Store.exportTo`, `Store.importFrom`                        selections in a file elsewhere;
* `Store.saveState`, `Store.loadState`                        the state;
* `Store.saveDescriptions`, `Store.loadDescriptions`          descriptions by the id of a component.
-/

namespace Apidoc

structure Store where
  folder : Path
  /-- the time that is written into the files -/
  now : String

namespace Selection

def toData (s : Selection) : Data :=
  .object [("included", s.included), ("custom_title", s.title),
    ("custom_description", s.description)]

/-- The selection of an entry; without a word on inclusion it is included. -/
def ofData (id : Data) : Data → Except Fault Selection
  | .map fields =>
    let get (k : String) (d : Data) : Data := (Ordered.get? fields (.str k)).getD d
    .ok ⟨id, get "included" (.bool true), get "custom_title" .null, get "custom_description" .null⟩
  | _ => .error .notMap

end Selection

namespace Selections

def toData (s : Selections) : Data := .map (s.map fun p => (p.1, p.2.toData))

def ofPairs : List (Data × Data) → Except Fault Selections
  | [] => .ok []
  | (id, v) :: ps => do
    let s ← Selection.ofData id v
    let rest ← ofPairs ps
    return (id, s) :: rest

/-- The selections in a document; a document that does not name any holds none. -/
def ofDocument : Data → Except Fault Selections
  | .map fields =>
    match Ordered.get? fields (.str "selections") with
    | none => .ok []
    | some (.map ps) => ofPairs ps
    | some _ => .error .notMap
  | _ => .error .notMap

/-- Changes what is given and keeps the rest; a new selection is included unless said otherwise. -/
def update (s : Selections) (id : Data) (included title description : Option Data) : Selection :=
  let old := (Ordered.get? s id).getD (.default id true)
  ⟨old.id, included.getD old.included, title.getD old.title, description.getD old.description⟩

mutual

/-- Adds the selection of an entry to `done`, and those of the entries below it: the one there is in
`s`, or a new one. -/
def addEntry (s : Selections) (included : Bool) (done : Selections) : Entry → Selections
  | .mk heading below =>
    let own := (of? s heading.id).getD (.default (.str heading.id) included)
    addEntries s included (Ordered.set done (.str heading.id) own) below

def addEntries (s : Selections) (included : Bool) (done : Selections) : List Entry → Selections
  | [] => done
  | e :: es => addEntries s included (addEntry s included done e) es

end

def idsWith (s : Selections) (included : Bool) : List Data :=
  (s.filter fun p => p.2.isIncluded == included).map (·.1)

end Selections

namespace Store

def selectionsFile (s : Store) : Path := s.folder.child "selections.yaml"

def stateFile (s : Store) : Path := s.folder.child "state.json"

def descriptionsFile (s : Store) : Path := s.folder.child "descriptions.json"

/-! ## the directory -/

def ignoreFile : Path := .ofParts [".gitignore"]

def ignoredFolder : String := ".docuagent/"

def ignoreLines : String := "\n# DocuAgent configuration\n.docuagent/\n"

/-- Makes the directory, and has it ignored if there is a file of ignored paths. -/
def prepare (s : Store) : Action Unit := do
  Action.makeFolder s.folder
  if ← Action.exists? ignoreFile then
    let text ← Action.readText ignoreFile
    if !Text.contains ignoredFolder.toList text.toList then
      Action.change fun d => d.append ignoreFile ignoreLines

/-! ## documents -/

def parseYaml (text : String) : Except Fault Data := (Yaml.parse text).mapError .yaml

def parseJson (text : String) : Except Fault Data := (Json.parse text).mapError .json

/-- Writes a value as JSON; what could be written before a value without a form stays in the file.
-/
def writeJson (p : Path) (v : Data) : Action Unit := do
  let w := Json.render v
  Action.write p w.text
  if !w.complete then throw .unwritable

def isYamlFile (p : Path) : Bool := p.suffix == ".yaml" || p.suffix == ".yml"

/-! ## selections -/

def save (s : Store) (selections : Selections) (metadata : Data) : Action Unit := do
  s.prepare
  let info := if metadata.isTrue then metadata else .map []
  Action.write s.selectionsFile (Yaml.document
    [(.str "version", .str "1.0"), (.str "updated_at", .str s.now), (.str "metadata", info),
     (.str "selections", selections.toData)])

def load (s : Store) : Action Selections := do
  if ← Action.exists? s.selectionsFile then
    let v ← Action.lift (parseYaml (← Action.readText s.selectionsFile))
    Action.lift (Selections.ofDocument (if v.isTrue then v else .map []))
  else return []

def update (s : Store) (id : String) (included title description : Option Data) :
    Action Selection := do
  let old ← s.load
  let new := old.update (.str id) included title description
  s.save (Ordered.set old (.str id) new) .null
  return new

/-- Keeps the selections of the given entries and adds those that are missing. -/
def start (s : Store) (entries : List Entry) (included : Bool) : Action Selections := do
  let old ← s.load
  let new := old.addEntries included [] entries
  s.save new .null
  return new

def idsWith (s : Store) (included : Bool) : Action (List Data) := do
  return (← s.load).idsWith included

/-- Writes the selections to a file of their own, as YAML with sorted keys if its name says so. -/
def exportTo (s : Store) (p : Path) : Action Unit := do
  let selections ← s.load
  let fields : List (Data × Data) :=
    [(.str "version", .str "1.0"), (.str "exported_at", .str s.now),
      (.str "selections", selections.toData)]
  if isYamlFile p then Action.write p (Yaml.document (Yaml.sortPairs (Yaml.sortedPairs fields)))
  else writeJson p (.map fields)

def importFrom (s : Store) (p : Path) : Action Selections := do
  let text ← Action.readText p
  let v ← Action.lift (if isYamlFile p then parseYaml text else parseJson text)
  let selections ← Action.lift (Selections.ofDocument v)
  s.save selections .null
  return selections

/-! ## state -/

def saveState (s : Store) (state : List (Data × Data)) : Action Data := do
  s.prepare
  let state := Data.map (Ordered.set state (.str "updated_at") (.str s.now))
  writeJson s.stateFile state
  return state

def loadState (s : Store) : Action Data := do
  if ← Action.exists? s.stateFile then Action.lift (parseJson (← Action.readText s.stateFile))
  else return .map []

/-! ## descriptions -/

def saveDescriptions (s : Store) (descriptions : Data) : Action Unit := do
  s.prepare
  writeJson s.descriptionsFile (.object
    [("version", .str "1.0"), ("updated_at", .str s.now), ("descriptions", descriptions)])

/-- The descriptions as the file has them; they need not be a map. -/
def loadDescriptions (s : Store) : Action Data := do
  if ← Action.exists? s.descriptionsFile then
    match ← Action.lift (parseJson (← Action.readText s.descriptionsFile)) with
    | .map fields => return (Ordered.get? fields (.str "descriptions")).getD (.map [])
    | _ => throw .notMap
  else return .map []

/-- Adds descriptions; new ones win. -/
def updateDescriptions (s : Store) (new : List (Data × Data)) : Action Unit := do
  match ← s.loadDescriptions with
  | .map old => s.saveDescriptions (.map (Ordered.overlay old new))
  | _ => throw .notMap

/-! ## clearing -/

def removeIfThere (p : Path) : Action Unit := do
  if ← Action.exists? p then Action.remove p

def clear (s : Store) : Action Unit := do
  removeIfThere s.selectionsFile
  removeIfThere s.stateFile
  removeIfThere s.descriptionsFile

end Store

end Apidoc
