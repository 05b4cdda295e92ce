/-!
# Cutting texts

Texts are cut as lists of characters, by recursion on the list, so that each cut has an equation per
constructor.

* `splitOn`      pieces between occurrences of one character;
* `cutAt`        what stands before and after the first occurrence of a word;
* `join`         the inverse of `splitOn`;
* `spellOut`     puts pieces of text for the signs that stand for them.
-/

namespace Apidoc.Text

/-- The pieces between occurrences of `sep`; there is always one more piece than occurrences. -/
def splitOn (sep : Char) : List Char → List (List Char)
  | [] => [[]]
  | c :: cs =>
    if c = sep then [] :: splitOn sep cs
    else match splitOn sep cs with
      | [] => [[c]]
      | w :: ws => (c :: w) :: ws

def join (sep : List Char) : List (List Char) → List Char
  | [] => []
  | [w] => w
  | w :: v :: ws => w ++ sep ++ join sep (v :: ws)

/-- the rest of a text after a word it starts with -/
def dropWord? : List Char → List Char → Option (List Char)
  | [], cs => some cs
  | _ :: _, [] => none
  | w :: ws, c :: cs => if w = c then dropWord? ws cs else none

/-- What stands before and after the first occurrence of `word`. -/
def cutAt (word : List Char) : List Char → Option (List Char × List Char)
  | [] => (dropWord? word []).map fun rest => ([], rest)
  | c :: cs =>
    match dropWord? word (c :: cs) with
    | some rest => some ([], rest)
    | none => (cutAt word cs).map fun p => (c :: p.1, p.2)

def contains (word text : List Char) : Bool := (cutAt word text).isSome

def substitute (old : Char → Bool) (new : Char) (cs : List Char) : List Char :=
  cs.map fun c => if old c then new else c

/-- Puts pieces of text for signs.  Every piece stands after its sign, and slashes stand between
them. -/
def spellOut (pieces text : String) : List Char :=
  let table := (splitOn '/' pieces.toList).map fun p => (p.headD '/', p.tail)
  text.toList.flatMap fun c => (table.lookup c).getD [c]

def words (cs : List Char) : List (List Char) :=
  (splitOn ' ' (substitute (· == '\n') ' ' cs)).filter fun w => !w.isEmpty

def dropWhileEnd (p : Char → Bool) (cs : List Char) : List Char :=
  (cs.reverse.dropWhile p).reverse

def isPrefix (p cs : List Char) : Bool := (dropWord? p cs).isSome

def isSuffix (s cs : List Char) : Bool := (dropWord? s.reverse cs.reverse).isSome

end Apidoc.Text
