import Apidoc.Command.Backup
import Apidoc.Command.Catalogue
import Apidoc.Command.Line
import Apidoc.Command.Select

/-!
# Running a command line

* `readWish`   what a line asks for;
* `runLine`    runs a line on a world and gives the exit code or a fault.
-/

namespace Apidoc

inductive Command where
  | analyze (repo : String) (includePrivate : Bool)
  | clear (repo : String)
  | exportTo (repo : String) (file : Option String)
  | generate (repo : String) (settings : GenerateSettings)
  | importFrom (repo file : String)
  | select (repo : String)
  | toc (repo : String) (format : String)

namespace Command

/-- The flag for source code is on by default, and giving it turns it off. -/
def generateSettings (line : ReadLine) : GenerateSettings :=
  { output := (line.value? "--output").getD "docs"
    title := (line.value? "--title").getD "API Documentation"
    includePrivate := line.has "--include-private"
    includeSource := !line.has "--include-source"
    describes := !line.has "--no-ai"
    useSelections := line.has "--use-selections"
    editable := line.has "--editable" }

def of? (name : String) (line : ReadLine) : List String → Option Command
  | [repo] => match name with
    | "analyze" => some (.analyze repo (line.has "--include-private"))
    | "clear" => some (.clear repo)
    | "export-selections" => some (.exportTo repo (line.value? "--output"))
    | "generate" => some (.generate repo (generateSettings line))
    | "select" => some (.select repo)
    | "toc" => some (.toc repo ((line.value? "--format").getD "tree"))
    | _ => none
  | [repo, file] => if name = "import-selections" then some (.importFrom repo file) else none
  | _ => none

open Program in
def run : Command → Program Unit
  | .analyze repo priv => do Display.analyze priv (← resolve repo)
  | .clear repo => do Backup.clear (← resolve repo)
  | .exportTo repo file => do Backup.exportTo file (← resolve repo)
  | .generate repo settings => do Generate.run settings (← resolve repo)
  | .importFrom repo file => do Backup.importFrom file (← resolve repo)
  | .select repo => do Select.run (← resolve repo)
  | .toc repo format => do Display.toc format (← resolve repo)

end Command

/-! ## reading a line -/

inductive Wish where
  | programHelp
  | version
  | commandHelp (spec : CommandSpec)
  | command (c : Command)

/-- a fault on a command line; with the command if it was clear which one is meant -/
structure LineFault where
  spec : Option CommandSpec
  cause : UsageFault

/-- Help comes before anything that is wrong with values and arguments. -/
def CommandSpec.read (d : Disk) (spec : CommandSpec) (args : List String) :
    Except UsageFault Wish := do
  let line ← readLine (spec.options ++ [helpOption]) true args
  if line.has helpOption.long then return .commandHelp spec
  else
    checkChoices spec.options line
    let values ← checkArguments d spec.arguments line.rest
    match Command.of? spec.name line values with
    | some c => return .command c
    | none => throw (.noSuchCommand spec.name)

def isOptionLike (name : String) : Bool :=
  match name.toList.head? with
  | none => false
  | some c => !(c != '_' && Text.isIdentStart c || (Text.decimalDigit? c).isSome)

/-- The command is the first word after the options of the program; without any words there is help,
and the first option of the program counts. -/
def readWish (d : Disk) (args : List String) : Except LineFault Wish :=
  if args.isEmpty then .ok .programHelp
  else
    match readLine (programSpec.options ++ [helpOption]) false args with
    | .error f => .error ⟨none, f⟩
    | .ok line =>
      match line.options, line.rest with
      | (name, _) :: _, _ => .ok (if name = versionOption.long then .version else .programHelp)
      | [], [] => .error ⟨none, .missingCommand⟩
      | [], name :: rest =>
        match programSpec.commands.find? fun c => c.name == name with
        | some spec => (spec.read d rest).mapError fun f => ⟨some spec, f⟩
        | none => if isOptionLike name then .ok .programHelp else .error ⟨none, .noSuchCommand name⟩

def LineFault.report (program : String) (f : LineFault) : String :=
  match f.spec with
  | some spec => f.cause.report (commandPath program spec) (spec.use program)
  | none => f.cause.report program (programUse program)

open Program in
def perform (args : List String) : Program Unit := do
  let program := (← read).program
  let width := (← read).screen.helpWidth
  match readWish (← get).disk args with
  | .ok .programHelp => out (programSpec.helpText width program)
  | .ok .version => out versionText
  | .ok (.commandHelp spec) => out (spec.helpText width program)
  | .ok (.command c) => c.run
  | .error f =>
    err (f.report program)
    exit 2

def runLine (s : Surroundings) (args : List String) (w : World) : Except Fault Nat × World :=
  match ((perform args).run s).run w with
  | (.ok _, w) => (.ok 0, w)
  | (.error (.exit code), w) => (.ok code, w)
  | (.error (.fault f), w) => (.error f, w)

def inputLines (text : String) : List String :=
  let lines := (Text.splitOn '\n' text.toList).map String.ofList
  if lines.getLast? = some "" then lines.dropLast else lines

end Apidoc
