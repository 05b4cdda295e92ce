import Apidoc.Fault

/-!
# Actions on the disk

An action changes the disk and gives a result or a fault.  What it did before a fault stays done.
-/

namespace Apidoc

abbrev Action (α : Type) := ExceptT Fault (StateM Disk) α

namespace Action

def ask {α : Type} (f : Disk → Except DiskFault α) : Action α := do
  match f (← get) with
  | .ok a => return a
  | .error e => throw (.disk e)

def change (f : Disk → Except DiskFault Disk) : Action Unit := do
  match f (← get) with
  | .ok d => set d
  | .error e => throw (.disk e)

def exists? (p : Path) : Action Bool := ask fun d => d.exists? p

def write (p : Path) (text : String) : Action Unit := change fun d => d.write p text

def makeFolder (p : Path) : Action Unit := change fun d => d.makeFolder p

def remove (p : Path) : Action Unit := change fun d => d.remove p

/-- the text of a file, with its line ends made alike -/
def readText (p : Path) : Action String := do
  match ← ask fun d => d.read p with
  | .text s => return String.ofList (Text.unifyNewlines s.toList)
  | .binary bs => throw (.notText (Text.utf8Fault bs))

def lift {α : Type} (x : Except Fault α) : Action α :=
  match x with
  | .ok a => return a
  | .error e => throw e

end Action

end Apidoc
