import Apidoc.Command.Usage
import Apidoc.Repository.Disk
import Apidoc.Text.Similar

/-!
# Command lines

A command line is read in two passes: first options and arguments are told apart, then arguments get
their defaults and are checked.  A fault of the first pass comes before any of the second, and help
before those.
-/

namespace Apidoc

structure ReadLine where
  options : List (String × Option String)
  rest : List String

namespace ReadLine

def add (name : String) (value : Option String) (r : ReadLine) : ReadLine :=
  { r with options := (name, value) :: r.options }

def addRest (arg : String) (r : ReadLine) : ReadLine := { r with rest := arg :: r.rest }

/-- The last value of an option counts. -/
def value? (r : ReadLine) (name : String) : Option String :=
  ((r.options.reverse.find? fun o => o.1 == name).map (·.2)).join

def has (r : ReadLine) (name : String) : Bool := r.options.any fun o => o.1 == name

end ReadLine

inductive ReadOption where
  | flag (name : String)
  | valued (name value : String)
  | awaiting (name shownName : String)

/-- A long option, perhaps with a value after an equals sign. -/
def readLong? (specs : List OptionSpec) (arg : String) : Except UsageFault ReadOption :=
  let name := String.ofList (arg.toList.takeWhile (· != '='))
  let value := if arg.toList.contains '=' then
    some (String.ofList (arg.toList.drop (name.length + 1))) else none
  match specs.find? fun o => o.long == name, value with
  | none, _ => .error (.noSuchOption name (Text.closeMatches name (specs.map (·.long))))
  | some o, some v => if o.takesValue then .ok (.valued o.long v) else .error (.takesNoValue name)
  | some o, none => if o.takesValue then .ok (.awaiting o.long name) else .ok (.flag o.long)

/-- A letter after one dash, perhaps with its value right after it. -/
def readShort? (specs : List OptionSpec) (arg : String) : Except UsageFault ReadOption :=
  let name := String.ofList (arg.toList.take 2)
  let value := String.ofList (arg.toList.drop 2)
  match specs.find? fun o => o.short == some name with
  | none => .error (.noSuchOption name [])
  | some o => .ok (if value = "" then .awaiting o.long name else .valued o.long value)

def readOption? (specs : List OptionSpec) (arg : String) : Except UsageFault ReadOption :=
  if arg.toList.take 2 = ['-', '-'] then readLong? specs arg else readShort? specs arg

def isOptionText (arg : String) : Bool := arg.toList.head? == some '-' && 1 < arg.length

/-- Tells options and arguments apart.  Two dashes end the options; `mixed` allows options after
arguments. -/
def readLine (specs : List OptionSpec) (mixed : Bool) : List String → Except UsageFault ReadLine
  | [] => .ok ⟨[], []⟩
  | arg :: args =>
    if arg = "--" then .ok ⟨[], args⟩
    else if isOptionText arg then
      match readOption? specs arg with
      | .error f => .error f
      | .ok (.flag name) => (readLine specs mixed args).map (ReadLine.add name none)
      | .ok (.valued name v) => (readLine specs mixed args).map (ReadLine.add name (some v))
      | .ok (.awaiting name shown) =>
        match args with
        | [] => .error (.needsValue shown)
        | v :: args => (readLine specs mixed args).map (ReadLine.add name (some v))
    else if mixed then (readLine specs mixed args).map (ReadLine.addRest arg)
    else .ok ⟨[], arg :: args⟩

/-! ## checks -/

/-- Whether there is something at a path as it is written; a slash at the end asks for a directory.
-/
def existsAsWritten (d : Disk) (s : String) : Bool :=
  let p := Path.ofText s
  let asksFolder := match s.toList.reverse with
    | '/' :: _ => true
    | '.' :: '/' :: _ => true
    | _ => false
  s != "" && (if asksFolder then d.isFolder p else (d.lookup p).isSome)

def checkChoices (specs : List OptionSpec) (line : ReadLine) : Except UsageFault Unit :=
  match specs.find? fun o => !o.choices.isEmpty &&
      (match line.value? o.long with | some v => !o.choices.contains v | none => false) with
  | some o => .error (.badChoice o ((line.value? o.long).getD ""))
  | none => .ok ()

def checkArguments (d : Disk) : List ArgumentSpec → List String → Except UsageFault (List String)
  | [], [] => .ok []
  | [], extra => .error (.extraArguments extra)
  | a :: as, given =>
    match given.head?.orElse fun _ => a.default with
    | none => .error (.missingArgument a)
    | some v =>
      if a.mustExist && !existsAsWritten d v then .error (.noSuchPath a v)
      else (checkArguments d as given.tail).map (v :: ·)

end Apidoc
