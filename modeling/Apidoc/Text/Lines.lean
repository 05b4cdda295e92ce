import Apidoc.Text.Class

/-!
# Lines

* `unifyNewlines`   carriage returns become line feeds, a pair becomes one;
* `expandTabs`      tabs become blanks up to the next column that is a multiple of eight;
* `dedent`          a quoted documentation text without the margin its lines share.
-/

namespace Apidoc.Text

/-- Every line ends in a single line feed, whatever ended it in the file. -/
def unifyNewlines : List Char → List Char
  | [] => []
  | '\r' :: '\n' :: cs => '\n' :: unifyNewlines cs
  | '\r' :: cs => '\n' :: unifyNewlines cs
  | c :: cs => c :: unifyNewlines cs

def expandTabsFrom (column : Nat) : List Char → List Char
  | [] => []
  | c :: cs =>
    if c = '\t' then
      let n := 8 - column % 8
      List.replicate n ' ' ++ expandTabsFrom (column + n) cs
    else if c = '\n' ∨ c = '\r' then c :: expandTabsFrom 0 cs
    else c :: expandTabsFrom (column + 1) cs

def expandTabs (cs : List Char) : List Char := expandTabsFrom 0 cs

def indentation? (line : List Char) : Option Nat :=
  let content := trimStart line
  if content.isEmpty then none else some (line.length - content.length)

def margin? (lines : List (List Char)) : Option Nat :=
  (lines.filterMap indentation?).min?

/-- Removes the margin that all lines but the first share, and empty lines at both ends. -/
def dedent (text : String) : String :=
  let lines := match splitOn '\n' (expandTabs text.toList) with
    | [] => []
    | first :: rest =>
      let rest := match margin? rest with
        | none => rest
        | some m => rest.map (List.drop m)
      trimStart first :: rest
  let lines := (lines.reverse.dropWhile List.isEmpty).reverse.dropWhile List.isEmpty
  String.ofList (join ['\n'] lines)

end Apidoc.Text
