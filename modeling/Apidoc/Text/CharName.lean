import Apidoc.Text.Ranges
import Apidoc.Text.Table.CharName

/-!
# Names of characters

* `charNamed?`   the code point that a name stands for; capital and small letters are not told
                 apart.
-/

namespace Apidoc.Text

def sides (entry : List Char) : Option (List Char × List Char) :=
  match splitOn '=' entry with
  | [left, right] => some (left, right)
  | _ => none

/-- The words of a name as they stand in the table. -/
def shortWords (name : List Char) : List (List Char) :=
  let table := (words Table.charWords.toList).filterMap sides
  (splitOn ' ' name).map fun word =>
    match table.find? fun p => p.2 == word with
    | some p => p.1
    | none => word

/-- How many words an entry shares with the one before, and its other words: a number at its head
changes how many. -/
def sharedWords (shared : Nat) : List (List Char) → Nat × List (List Char)
  | [] => (shared, [])
  | w :: ws => if w.all Char.isDigit then (hexNat w, ws) else (shared, w :: ws)

/-- the name of a small letter after that of the capital one -/
def smallWords (before : List (List Char)) : List (List Char) :=
  before.map fun w => if w = ['c'] then ['s'] else w

/-- The place of a name in a run of entries from `start` on. -/
def nameInRun? (name : List (List Char)) (start shared : Nat) (before : List (List Char)) :
    List (List Char) → Option Nat
  | [] => none
  | entry :: entries =>
    if words entry = [['~']] then
      if smallWords before == name then some start else nameInRun? name
        (start + 1) shared before entries
    else
      let p := sharedWords shared (words entry)
      let ws := before.take p.1 ++ p.2
      if ws == name then some start else nameInRun? name (start + 1) p.1 ws entries

/-- A run is its first code point, a colon, and entries with semicolons between. -/
def searchRun (name : List (List Char)) (run : List Char) : Option Nat :=
  match splitOn ':' run with
  | [start, entries] =>
    nameInRun? name (hexNat (start.filter fun c => (hexValue? c).isSome)) 0 [] (splitOn ';' entries)
  | _ => none

def charNamed? (name : List Char) : Option Nat :=
  let name := name.map Char.toUpper
  let aliases := (words Table.charAliases.toList).filterMap sides
  match aliases.find? fun a => splitOn '_' a.1 == splitOn ' ' name with
  | some a => some (hexNat a.2)
  | none => (splitOn '|' (spellOut Table.charPieces Table.charNames)).findSome? (searchRun
      (shortWords name))

end Apidoc.Text
