import Apidoc.Console.Layout
import Apidoc.Describe.Agent
import Apidoc.Repository.Action
import Apidoc.Repository.Survey

/-!
# Programs

A program works on a world: the disk, the requests that were made, the input that is left, and what
was shown so far.  It ends by itself, with a fault, or with an exit code; what it did before that
stays done.
-/

namespace Apidoc

inductive Screen where
  /-- Events are recorded as they are and answers are shown after their questions; a question
    after the end of
  the input is answered with nothing. -/
  | recorded
  /-- Events are laid out as text; a question after the end of the input ends the program. -/
  | plain
  deriving DecidableEq, Repr

/-- cells in a line of help; a plain screen keeps two of its 80 free -/
def Screen.helpWidth : Screen → Nat
  | .recorded => 80
  | .plain => 78

structure Surroundings where
  /-- how the program is called -/
  program : String
  screen : Screen
  /-- the time that is written into files of the store -/
  now : String
  /-- the time that is shown on pages -/
  stamp : String
  serviceKey : Option String
  service : Service

inductive Shown where
  | out (text : String)
  | err (text : String)
  | event (e : Event)

inductive Input where
  | line (text : String)
  | interrupt
  deriving DecidableEq, Repr

structure World where
  disk : Disk
  requests : List Request := []
  input : List Input := []
  shown : List Shown := []
  /-- files that could not be read as modules -/
  malformed : List String := []
  /-- how much had been shown when a line was asked for and none was left -/
  awaited : Option Nat := none

inductive Halt where
  | fault (f : Fault)
  | exit (code : Nat)

abbrev Program (α : Type) := ReaderT Surroundings (ExceptT Halt (StateM World)) α

namespace Program

def fail {α : Type} (f : Fault) : Program α := throw (.fault f)

def exit {α : Type} (code : Nat) : Program α := throw (.exit code)

/-! ## showing -/

def put (s : Shown) : Program Unit := modify fun w => { w with shown := w.shown ++ [s] }

def out (text : String) : Program Unit := put (.out text)

def err (text : String) : Program Unit := put (.err text)

def emit (e : Event) : Program Unit := do
  match (← read).screen with
  | .recorded => put (.event e)
  | .plain =>
    match e.text? with
    | some text => out text
    | none => fail .badStyle

def print (text : String) : Program Unit := emit (.print text)

/-! ## input -/

def takeInput : Program (List Input) := do
  let w ← get
  set { w with input := [] }
  return w.input

def noteEnd : Program Unit := modify fun w => { w with awaited := some w.shown.length }

/-! ## working -/

def attempt {α : Type} (a : Action α) : Program (Except Fault α) := do
  let w ← get
  let (r, d) := a.run w.disk
  set { w with disk := d }
  return r

def act {α : Type} (a : Action α) : Program α := do
  match ← attempt a with
  | .ok x => return x
  | .error f => fail f

def talk {α : Type} (x : Exchange α) : Program α := do
  let w ← get
  let (r, log) := x.run w.requests
  set { w with requests := log }
  match r with
  | .ok a => return a
  | .error f => fail f

def resolve (text : String) : Program Path := do
  return (Path.ofText text).resolve (← get).disk.home

end Program

def SurveyFault.toFault : SurveyFault → Fault
  | .disk f => .disk f
  | .unprintable f => .unprintable f

namespace Program

def modulesOf (repo : Path) (includePrivate : Bool) : Program (List ModuleDoc) := do
  let w ← get
  let s := survey w.disk repo ⟨includePrivate, false, []⟩
  set { w with malformed := w.malformed ++ s.malformed }
  match s.modules with
  | .ok ms => return ms
  | .error f => fail f.toFault

end Program

end Apidoc
