import Apidoc.Text.Split

/-!
# Paths

A path is a list of names with a place it starts from.  Empty names and single points vanish when a
path is read, two points stay.  Paths are seen from the working directory: one that starts at the
root of the file system, or climbs above the working directory, is outside, even where it comes
back.
-/

namespace Apidoc

inductive Anchor where
  /-- the working directory, left unsaid -/
  | here
  /-- the root of the file system -/
  | root
  /-- the working directory, called by its full name -/
  | named (name : String)
  deriving DecidableEq, Repr

structure Path where
  anchor : Anchor
  parts : List String
  deriving DecidableEq, Repr

namespace Path

def ofText (s : String) : Path :=
  let cs := s.toList
  { anchor := if cs.head? = some '/' then .root else .here,
    parts := ((Text.splitOn '/' cs).map String.ofList).filter fun p => p != "" && p != "." }

def ofParts (parts : List String) : Path := ⟨.here, parts⟩

def text (p : Path) : String :=
  let body := "/".intercalate p.parts
  match p.anchor with
  | .here => if p.parts.isEmpty then "." else body
  | .root => "/" ++ body
  | .named name => if p.parts.isEmpty then name else name ++ "/" ++ body

def name (p : Path) : String := p.parts.getLastD ""

def child (p : Path) (name : String) : Path := { p with parts := p.parts ++ [name] }

/-- Takes every pair of points back to the directory above; the root is its own. -/
def collapse (parts : List String) : List String :=
  parts.foldl (fun done p => if p = ".." then done.dropLast else done ++ [p]) []

/-- The same from the directory `done` on, which is not left. -/
def climb? : List String → List String → Option (List String)
  | done, [] => some done
  | done, p :: ps =>
    if p = ".." then if done.isEmpty then none else climb? done.dropLast ps
    else climb? (done ++ [p]) ps

/-- the names that lead to a path from the working directory, unless it is outside -/
def inside? (p : Path) : Option (List String) :=
  if p.anchor = .root then none else climb? [] p.parts

def resolve (home : String) (p : Path) : Path :=
  match p.inside? with
  | some parts => ⟨.named home, parts⟩
  | none => ⟨.root, collapse (if p.anchor = .root then p.parts else (ofText home).parts ++ p.parts)⟩

/-- where the last point of a name stands, unless it is the first or the last character -/
def dotIndex? (name : List Char) : Option Nat :=
  let tail := (name.reverse.takeWhile fun c => c != '.').length
  if tail < name.length ∧ 0 < tail ∧
    tail + 1 < name.length then some (name.length - 1 - tail) else none

/-- the last name without what follows its last point -/
def stem (p : Path) : String :=
  let cs := p.name.toList
  match dotIndex? cs with
  | some i => String.ofList (cs.take i)
  | none => p.name

/-- the last point of the last name and what follows it -/
def suffix (p : Path) : String :=
  let cs := p.name.toList
  match dotIndex? cs with
  | some i => String.ofList (cs.drop i)
  | none => ""

end Path

end Apidoc
