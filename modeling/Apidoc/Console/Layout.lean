import Apidoc.Console.Event
import Apidoc.Console.Style
import Apidoc.Text.Table.Width

/-!
# Layout on the console

Text is broken into lines of 80 cells at most: at blanks, which stay at the end of the line, and
inside a word only if it is longer than a line.  A tree has its branches drawn in front of the
labels.

* `wrap`          the lines of a text;
* `Event.lines`   the lines of an event;
* `Event.text?`   its text.
-/

namespace Apidoc.Layout

def lineWidth : Nat := 80

def cellWidth (c : Char) : Nat :=
  if Text.Table.wide.contains c.toNat then 2
  else if Text.Table.weightless.contains c.toNat then 0
  else 1

def cells (cs : List Char) : Nat := cs.foldr (fun c n => cellWidth c + n) 0

/-- Tabs lead to the next multiple of eight cells. -/
def expandTabs : Nat → List Char → List Char
  | _, [] => []
  | column, c :: cs =>
    if c = '\t' then List.replicate (8 - column % 8) ' ' ++
      expandTabs (column + (8 - column % 8)) cs
    else c :: expandTabs (column + cellWidth c) cs

/-! ## words -/

def takeWord (cs : List Char) : List Char × List Char :=
  let word := cs.takeWhile fun c => !Text.isBlank c
  let blanks := (cs.drop word.length).takeWhile Text.isBlank
  (word ++ blanks, cs.drop (word.length + blanks.length))

def wordsFrom : Nat → List Char → List (List Char)
  | 0, _ => []
  | n + 1, cs =>
    if cs.isEmpty then []
    else
      let (word, rest) := takeWord cs
      word :: wordsFrom n rest

def splitWords (cs : List Char) : List (List Char) :=
  let blanks := cs.takeWhile Text.isBlank
  match wordsFrom cs.length (cs.drop blanks.length) with
  | w :: ws => (blanks ++ w) :: ws
  | [] => []

/-! ## lines -/

/-- Cuts a word into pieces of `width` cells at most; the current piece is reversed and takes `used`
cells. -/
def chopFrom (width : Nat) : Nat → List Char → List Char → List (List Char)
  | _, piece, [] => [piece.reverse]
  | used, piece, c :: cs =>
    if width < used + cellWidth c then piece.reverse :: chopFrom width (cellWidth c) [c] cs
    else chopFrom width (used + cellWidth c) (c :: piece) cs

def chop (width : Nat) (word : List Char) : List (List Char) := chopFrom width 0 [] word

/-- Fills lines with words: `line` is the current one and `used` its cells. -/
def fill (width : Nat) : List Char → Nat → List (List Char) → List (List Char)
  | line, _, [] => [line]
  | line, used, w :: ws =>
    let size := cells (Text.trimEnd w)
    if used + size ≤ width then fill width (line ++ w) (used + cells w) ws
    else if width < size then
      let pieces := chop width w
      let last := pieces.getLastD []
      (if line.isEmpty then [] else [line]) ++ pieces.dropLast ++ fill width last (cells last) ws
    else if used = 0 then fill width (line ++ w) used ws
    else line :: fill width w (cells w) ws

/-- Blanks that do not fit are dropped from the end of a line. -/
def dropExcess (width : Nat) (line : List Char) : List Char :=
  let blanks := line.length - (Text.trimEnd line).length
  line.take (line.length - min blanks (line.length - width))

/-- The start of a line that fits; half of a wide character becomes a blank. -/
def crop : Nat → List Char → List Char
  | _, [] => []
  | room, c :: cs =>
    if cellWidth c ≤ room then c :: crop (room - cellWidth c) cs
    else List.replicate room ' '

def wrapLine (width : Nat) (line : List Char) : List (List Char) :=
  let line := expandTabs 0 line
  let lines := match splitWords line with
    | [] => [line]
    | ws => fill width [] 0 ws
  lines.map fun l => crop width (dropExcess width l)

def wrap (width : Nat) (cs : List Char) : List (List Char) :=
  (Text.splitOn '\n' cs).flatMap (wrapLine width)

/-! ## trees -/

/-- Lines with one thing in front of the first and another in front of the others. -/
def hang (first others : List Char) : List (List Char) → List (List Char)
  | [] => []
  | l :: ls => (first ++ l) :: ls.map (others ++ ·)

def labelLines (guide : List Char) (label : String) : Option (List (List Char)) :=
  (Style.plainText label).map fun cs => wrap (lineWidth - guide.length) cs

mutual

/-- The lines of a branch: `first` stands in front of its label, `others` in front of what follows.
-/
def branchLines (first others : List Char) : Branch → Option (List (List Char))
  | .mk label children => do
    let own ← labelLines first label
    let below ← childLines others children
    return hang first others own ++ below

def childLines (guide : List Char) : List Branch → Option (List (List Char))
  | [] => some []
  | [b] => branchLines (guide ++ "└── ".toList) (guide ++ "    ".toList) b
  | b :: bs => do
    let own ← branchLines (guide ++ "├── ".toList) (guide ++ "│   ".toList) b
    let rest ← childLines guide bs
    return own ++ rest

end

/-! ## frames and tables -/

def padRight (width : Nat) (cs : List Char) : List Char :=
  cs ++ List.replicate (width - cells cs) ' '

def panelLines (cs : List Char) : List (List Char) :=
  let inner := lineWidth - 4
  let bar := List.replicate (lineWidth - 2) '─'
  ['╭' :: bar ++ ['╮']] ++
  ((wrap inner cs).map fun l => "│ ".toList ++ padRight inner l ++ " │".toList) ++
  ['╰' :: bar ++ ['╯']]

def columnWidth (rows : List (List (List Char))) (i : Nat) : Nat :=
  rows.foldl (fun w r => max w (cells (r.getD i []))) 0

def rowLine (widths : List Nat) (row : List (List Char)) : List Char :=
  Text.trimEnd (Text.join "  ".toList ((widths.zip row).map fun p => padRight p.1 p.2))

def gridLines (title : List Char) (columns : List (List Char)) (rows : List (List (List Char))) :
    List (List Char) :=
  let widths := (List.range columns.length).map (columnWidth (columns :: rows))
  title :: rowLine widths columns ::
    rowLine widths (widths.map fun w => List.replicate w '─') :: rows.map (rowLine widths)

end Apidoc.Layout

namespace Apidoc

open Layout in
/-- The lines of an event; none if its text has an end tag with nothing to end. -/
def Event.lines : Event → Option (List (List Char))
  | .print s => (Style.plainText s).map (wrap lineWidth)
  | .panel s => (Style.plainText s).map panelLines
  | .tree b => branchLines [] [] b
  | .table g => do
    let title ← Style.plainText g.title
    let columns ← g.columns.mapM Style.plainText
    let rows ← g.rows.mapM fun r => r.mapM Style.plainText
    return gridLines title columns rows
  | .update s => (Style.plainText s).map (wrap lineWidth)
  | .input _ => some []
  | .task _ _ => some []
  | .advance => some []

def Layout.lineText (ls : List (List Char)) : String :=
  String.join (ls.map fun l => String.ofList l ++ "\n")

/-- The text of an event.  Every line is ended, but not the last one of a prompt. -/
def Event.text? : Event → Option String
  | .input s => (Style.plainText s).map fun cs =>
      "\n".intercalate ((Layout.wrap Layout.lineWidth cs).map String.ofList)
  | e => e.lines.map Layout.lineText

end Apidoc
