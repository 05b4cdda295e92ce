import Apidoc.Command.Generate
import Apidoc.Text.Case

/-!
# Moving and clearing what the store keeps
-/

namespace Apidoc.Backup

open Program

def defaultFile : String := "docuagent-selections.yaml"

def exportTo (file : Option String) (repo : Path) : Program Unit := do
  let store ← storeOf repo
  let file := (file.filter fun f => f != "").getD defaultFile
  act (store.exportTo (Path.ofText file))
  print ("[green]Selections exported to " ++ file ++ "[/green]")

def importFrom (file : String) (repo : Path) : Program Unit := do
  let store ← storeOf repo
  let s ← act (store.importFrom (Path.ofText file))
  print ("[green]Imported " ++ toString s.length ++ " selections from " ++ file ++ "[/green]")

/-! ## clearing -/

/-- Yes or no; nothing means no. -/
def answer? (line : String) : Option Bool :=
  let word := Text.trimString (Text.lower line)
  if word = "y" ∨ word = "yes" then some true
  else if word = "n" ∨ word = "no" ∨ word = "" then some false
  else none

def echo (line : String) : Program Unit := do
  match (← read).screen with
  | .recorded => out (line ++ "\n")
  | .plain => return ()

def abort {α : Type} : Program α := do
  err "Aborted!\n"
  exit 1

def confirm (question : String) : List Input → Program Bool
  | [] => do
    out question
    noteEnd
    match (← read).screen with
    | .recorded =>
      echo ""
      return false
    | .plain => abort
  | .interrupt :: _ => do
    out question
    abort
  | .line text :: rest => do
    out question
    echo text
    match answer? text with
    | some b => return b
    | none =>
      out "Error: invalid input\n"
      confirm question rest

def clearQuestion : String := "Are you sure you want to clear all DocuAgent data? [y/N]: "

def clear (repo : Path) : Program Unit := do
  let store ← storeOf repo
  if ← confirm clearQuestion (← takeInput) then
    act store.clear
    print "[green]All data cleared.[/green]"

end Apidoc.Backup
