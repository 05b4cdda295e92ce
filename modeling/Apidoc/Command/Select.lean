import Apidoc.Command.Display
import Apidoc.Command.Generate
import Apidoc.Text.Case

/-!
# A session of choosing

One order a line, until the user quits or interrupts or the input ends.  Letter case does not
matter.  What was chosen is saved at the end.
-/

namespace Apidoc.Select

open Program

inductive Order where
  | quit
  | save
  | list
  | toggle (ref : String)
  | set (ref : String) (included : Bool)
  | help
  | unknown

def after? (long short line : List Char) : Option String :=
  ((Text.dropWord? (long ++ [' ']) line).orElse fun _ => Text.dropWord? (short ++ [' ']) line).map
    String.ofList

def Order.ofText (line : String) : Order :=
  let cs := line.toList
  if line = "quit" ∨ line = "q" then .quit
  else if line = "save" ∨ line = "s" then .save
  else if line = "list" ∨ line = "l" then .list
  else match after? "toggle".toList ['t'] cs, after? "include".toList ['i'] cs,
      after? "exclude".toList ['e'] cs with
    | some ref, _, _ => .toggle ref
    | none, some ref, _ => .set ref true
    | none, none, some ref => .set ref false
    | none, none, none => if line = "help" ∨ line = "h" then .help else .unknown

def welcome : String :=
  "[bold]Interactive Selection Mode[/bold]\n" ++
  "Toggle components to include/exclude from documentation.\n" ++
  "Commands: [cyan]toggle <id>[/cyan], [cyan]include <id>[/cyan], " ++
  "[cyan]exclude <id>[/cyan], [cyan]list[/cyan], [cyan]save[/cyan], [cyan]quit[/cyan]"

def helpLines : String :=
  "[cyan]Commands:[/cyan]\n" ++
  "  toggle <id/number> - Toggle selection\n" ++
  "  include <id/number> - Include component\n" ++
  "  exclude <id/number> - Exclude component\n" ++
  "  list - Show all components\n" ++
  "  save - Save selections\n" ++
  "  quit - Exit (auto-saves)"

def save (store : Store) (s : Selections) : Program Unit := do
  act (store.save s .null)
  print "[green]Selections saved![/green]"

def chosen (r : Selections × Event) : Program Selections := do
  emit r.2
  return r.1

/-- What an order does to the selections; quitting leaves them. -/
def obey (store : Store) (entries : List Entry) (s : Selections) : Order → Program Selections
  | .quit => return s
  | .save => do
    save store s
    return s
  | .list => do
    emit (.table (Chooser.grid entries s))
    return s
  | .toggle ref => chosen (Chooser.toggle entries s ref)
  | .set ref included => chosen (Chooser.set entries s ref included)
  | .help => do
    print helpLines
    return s
  | .unknown => do
    print "[red]Unknown command. Type 'help' for available commands.[/red]"
    return s

def orderText (line : String) : String := Text.lower (Text.trimString line)

def prompt : Event := .input "\n[bold]> [/bold]"

def session (store : Store) (entries : List Entry) : List Input → Selections → Program Selections
  | [], s => do
    emit prompt
    noteEnd
    return s
  | .interrupt :: _, s => do
    emit prompt
    return s
  | .line text :: rest, s => do
    emit prompt
    match Order.ofText (orderText text) with
    | .quit => return s
    | order => session store entries rest (← obey store entries s order)

def run (repo : Path) : Program Unit := do
  let ms ← modulesOf repo false
  if ms.isEmpty then print Display.noModules
  else
    let entries := contents .full ms
    let store ← storeOf repo
    let s ← act (store.start entries true)
    let flat := Entry.flatten entries
    emit (.panel welcome)
    emit (.table (Chooser.grid flat s))
    let s ← session store flat (← takeInput) s
    save store s

end Apidoc.Select
