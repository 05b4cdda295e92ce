import Apidoc.Console.Event
import Apidoc.Selection.Basic
import Apidoc.Text.Class

/-!
# Choosing entries

A user refers to an entry of a list by its number, counted from one, or by the start of its id.  A
number that is not in the list may still be the start of an id.

* `Chooser.find?`    the entry that is referred to;
* `Chooser.toggle`   includes an entry that is excluded and the other way round;
* `Chooser.set`      includes or excludes an entry;
* `Chooser.grid`     the entries with what is chosen about them.
-/

namespace Apidoc.Chooser

/-! ## numbers -/

/-- blanks that may stand around a number: among the ASCII characters only the common ones -/
def isNumberBlank (c : Char) : Bool :=
  if c.toNat < 127 then c == ' ' || (9 ≤ c.toNat && c.toNat ≤ 13) else Text.isBlank c

def trimNumber (cs : List Char) : List Char :=
  Text.dropWhileEnd isNumberBlank (cs.dropWhile isNumberBlank)

/-- Digits of any script, perhaps with single underscores between. -/
def digits? : List Char → Option (List Nat)
  | [] => none
  | [c] => (Text.decimalDigit? c).map ([·])
  | c :: '_' :: cs => do return (← Text.decimalDigit? c) :: (← digits? cs)
  | c :: cs => do return (← Text.decimalDigit? c) :: (← digits? cs)

/-- Numbers with more digits are not read. -/
def maxReadDigits : Nat := 4300

def natural? (cs : List Char) : Option Nat :=
  match digits? cs with
  | some ds => if ds.length ≤ maxReadDigits then some (ds.foldl (fun n d => 10 * n + d) 0) else none
  | none => none

def number? (s : String) : Option Int :=
  match trimNumber s.toList with
  | '-' :: cs => (natural? cs).map fun n => -(n : Int)
  | '+' :: cs => (natural? cs).map Int.ofNat
  | cs => (natural? cs).map Int.ofNat

/-! ## entries -/

def numbered? (entries : List Entry) (n : Int) : Option Entry :=
  if 1 ≤ n then entries[(n - 1).toNat]? else none

def find? (entries : List Entry) (ref : String) : Option Entry :=
  ((number? ref).bind (numbered? entries)).orElse fun _ =>
    entries.find? fun e => Text.isPrefix ref.toList e.id.toList

def choiceText (included : Bool) : String :=
  if included then "[green]included[/green]" else "[red]excluded[/red]"

/-- Chooses for the entry that is referred to; what else was chosen for it is dropped. -/
def choose (entries : List Entry) (s : Selections) (ref : String) (choice : Entry → Bool) :
    Selections × Event :=
  match find? entries ref with
  | some e =>
    (Ordered.set s (.str e.id) (.default (.str e.id) (choice e)),
      .print (e.heading.title ++ " is now " ++ choiceText (choice e)))
  | none => (s, .print ("[red]Entry not found: " ++ ref ++ "[/red]"))

def toggle (entries : List Entry) (s : Selections) (ref : String) : Selections × Event :=
  choose entries s ref fun e => !s.includes e.id

def set (entries : List Entry) (s : Selections) (ref : String) (included : Bool) :
    Selections × Event :=
  choose entries s ref fun _ => included

/-! ## the list -/

def indentation (level : Int) : String := String.ofList (List.replicate (2 * level.toNat) ' ')

def row (s : Selections) (number : Nat) (e : Entry) : List String :=
  [toString number,
   if s.includes e.id then "[green]✓[/green]" else "[red]✗[/red]",
   e.heading.kind.text,
   indentation e.heading.level ++ e.heading.title,
   String.ofList (e.id.toList.take 8)]

def rowsFrom (s : Selections) : Nat → List Entry → List (List String)
  | _, [] => []
  | n, e :: es => row s n e :: rowsFrom s (n + 1) es

def grid (entries : List Entry) (s : Selections) : Grid :=
  { title := "Components", columns := ["#", "Include", "Type", "Name", "ID"],
    rows := rowsFrom s 1 entries }

end Apidoc.Chooser
