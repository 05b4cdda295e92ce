import Apidoc.Text.Lines
import Apidoc.Text.Quoted

/-!
# Commands and their use

What a command takes, as data, and the texts that tell a user about it: the line on its use, its
help, and what is wrong with a command line.
-/

namespace Apidoc

/-- an option; one without a name for its value is a flag -/
structure OptionSpec where
  long : String
  short : Option String := none
  valueName : Option String := none
  /-- the values it may have, if only some are allowed -/
  choices : List String := []
  help : String

/-- a path on the command line; one without a default has to be given -/
structure ArgumentSpec where
  name : String
  default : Option String := none
  /-- there has to be something at the path -/
  mustExist : Bool := true

structure CommandSpec where
  name : String
  /-- what the list of commands says about it -/
  summary : String
  /-- the paragraphs of its help -/
  help : List String
  arguments : List ArgumentSpec := []
  options : List OptionSpec := []

def OptionSpec.takesValue (o : OptionSpec) : Bool := o.valueName.isSome

/-- Arguments that may be left out stand in brackets. -/
def ArgumentSpec.shown (a : ArgumentSpec) : String :=
  if a.default.isSome then "[" ++ a.name ++ "]" else a.name

/-! ## what can be wrong -/

inductive UsageFault where
  | noSuchOption (name : String) (similar : List String)
  | takesNoValue (name : String)
  | needsValue (name : String)
  | badChoice (option : OptionSpec) (value : String)
  | noSuchPath (argument : ArgumentSpec) (value : String)
  | missingArgument (argument : ArgumentSpec)
  | extraArguments (args : List String)
  | noSuchCommand (name : String)
  | missingCommand

def quotedList (xs : List String) : String := ", ".intercalate (xs.map Text.quoted)

def OptionSpec.hint (o : OptionSpec) : String :=
  " / ".intercalate ((o.long :: o.short.toList).map Text.quoted)

namespace UsageFault

def similarText : List String → String
  | [] => ""
  | [s] => " Did you mean " ++ s ++ "?"
  | ss => " (Possible options: " ++ ", ".intercalate (ss.mergeSort fun a b => a ≤ b) ++ ")"

def message : UsageFault → String
  | .noSuchOption name similar => "No such option: " ++ name ++ similarText similar
  | .takesNoValue name => "Option " ++ Text.quoted name ++ " does not take a value."
  | .needsValue name => "Option " ++ Text.quoted name ++ " requires an argument."
  | .badChoice o v =>
    "Invalid value for " ++ o.hint ++ ": " ++ Text.quoted v ++ " is not one of " ++
      quotedList o.choices ++ "."
  | .noSuchPath a v =>
    "Invalid value for '" ++ a.shown ++ "': Path " ++ Text.quoted v ++ " does not exist."
  | .missingArgument a => "Missing argument '" ++ a.shown ++ "'."
  | .extraArguments [x] => "Got unexpected extra argument (" ++ x ++ ")"
  | .extraArguments xs => "Got unexpected extra arguments (" ++ " ".intercalate xs ++ ")"
  | .noSuchCommand name => "No such command " ++ Text.quoted name ++ "."
  | .missingCommand => "Missing command."

def tellsUse : UsageFault → Bool
  | .takesNoValue _ => false
  | .needsValue _ => false
  | _ => true

end UsageFault

/-! ## help -/

def helpOption : OptionSpec := { long := "--help", help := "Show this message and exit." }

def fillWords (width : Nat) : String → List String → List String
  | line, [] => [line]
  | line, w :: ws =>
    if line.length + 1 + w.length ≤ width then fillWords width (line ++ " " ++ w) ws
    else line :: fillWords width w ws

def paragraphLines (width : Nat) (s : String) : List String :=
  match (Text.words s.toList).map String.ofList with
  | [] => []
  | w :: ws => fillWords width w ws

def blanks (n : Nat) : String := String.ofList (List.replicate n ' ')

def columns (width : Nat) (rows : List (String × String)) : List String :=
  let first := (rows.foldl (fun n r => max n r.1.length) 0) + 2
  rows.flatMap fun r =>
    match paragraphLines (width - first - 2) r.2 with
    | [] => ["  " ++ r.1]
    | l :: ls => ("  " ++ r.1 ++ blanks (first - r.1.length) ++
        l) :: ls.map (blanks (first + 2) ++ ·)

def OptionSpec.row (o : OptionSpec) : String × String :=
  (", ".intercalate (o.short.toList ++ [o.long]) ++
    (match o.valueName with | some v => " " ++ v | none => ""), o.help)

def commandPath (program : String) (c : CommandSpec) : String := program ++ " " ++ c.name

def CommandSpec.use (program : String) (c : CommandSpec) : String :=
  "Usage: " ++ commandPath program c ++ " [OPTIONS]" ++
    String.join (c.arguments.map fun a => " " ++ a.shown)

def textLines (ls : List String) : String := String.join (ls.map (· ++ "\n"))

def helpParagraphs (width : Nat) (ps : List String) : List String :=
  ps.flatMap fun p => "" :: (paragraphLines (width - 2) p).map ("  " ++ ·)

def CommandSpec.helpText (width : Nat) (program : String) (c : CommandSpec) : String :=
  textLines ([c.use program] ++ helpParagraphs width c.help ++
    ["", "Options:"] ++ columns width ((c.options ++ [helpOption]).map OptionSpec.row))

structure ProgramSpec where
  help : List String
  options : List OptionSpec
  /-- in alphabetical order -/
  commands : List CommandSpec

def programUse (program : String) : String := "Usage: " ++ program ++ " [OPTIONS] COMMAND [ARGS]..."

def ProgramSpec.helpText (width : Nat) (program : String) (p : ProgramSpec) : String :=
  textLines ([programUse program] ++ helpParagraphs width p.help ++
    ["", "Options:"] ++ columns width ((p.options ++ [helpOption]).map OptionSpec.row) ++
    ["", "Commands:"] ++ columns width (p.commands.map fun c => (c.name, c.summary)))

def UsageFault.report (path use : String) (f : UsageFault) : String :=
  (if f.tellsUse then use ++ "\nTry '" ++ path ++ " --help' for help.\n\n" else "") ++
    "Error: " ++ f.message ++ "\n"

end Apidoc
