import Apidoc.Text.Ranges
import Apidoc.Text.Table.Normal

/-!
# Compatibility normal form

Two spellings of an identifier name the same thing when their normal forms agree.  The normal form
decomposes every character as far as it goes, sorts the marks after each base by combining class,
and composes again what composes.
-/

namespace Apidoc.Text.Normal

/-- code points `lo` to `hi`; a run of several maps to a run that starts at the image -/
structure Entry where
  lo : Nat
  hi : Nat
  image : List Nat

/-- Images are written as numbers counted from `base`. -/
def readImage (base : Nat) (w : List Char) : List Nat :=
  (splitOn '+' w).map fun v => base + hexNat v

/-- An entry that gives no distance is one for the next code point. -/
def readEntry (base next : Nat) (w : List Char) : Entry :=
  match splitOn '=' w with
  | [image] => ⟨next, next, readImage base image⟩
  | [source, image] =>
    let p := hexPair source
    let lo := next + p.1
    ⟨lo, lo + p.2.getD 0, readImage base image⟩
  | _ => ⟨1, 0, []⟩

def readEntries (base : Nat) : Nat → List (List Char) → List Entry
  | _, [] => []
  | next, w :: ws =>
    let e := readEntry base next w
    e :: readEntries base (e.hi + 1) ws

def readTable (base : Nat) (text : List Char) : List Entry := readEntries base 0 (words text)

def lookup (t : List Entry) (n : Nat) : Option (List Nat) :=
  (t.find? fun e => e.lo ≤ n && n ≤ e.hi).map fun e =>
    if e.lo = e.hi then e.image else e.image.map (· + (n - e.lo))

/-- Nothing decomposes into a character before the digit zero. -/
def decompositionTable : List Entry :=
  readTable '0'.toNat (spellOut Table.decompositionParts Table.decompositions)

def classTable : List Entry := readTable 0 Table.combiningClasses.toList

def compositeTable : List (Nat × List Nat) :=
  (Ranges.ofText Table.composites).flatMap fun p =>
    (List.range' p.1 (p.2 + 1 - p.1)).map fun n => (n, (lookup decompositionTable n).getD [n])

/-- Pairs with what they compose to: the last part of a decomposition, and what composes from the
parts before it. -/
def compositionTable : List ((Nat × Nat) × Nat) :=
  compositeTable.filterMap fun p =>
    match p.2.dropLast, p.2.getLast? with
    | [a], some b => some ((a, b), p.1)
    | parts, some b => (compositeTable.find? fun q => q.2 == parts).map fun q => ((q.1, b), p.1)
    | _, none => none

def combiningClass (n : Nat) : Nat :=
  if n < 128 then 0
  else match classTable.find? fun e => e.lo ≤ n && n ≤ e.hi with
    | some e => e.image.headD 0
    | none => 0

/-- Hangul syllables decompose by arithmetic into two or three letters. -/
def decompose (n : Nat) : List Nat :=
  if n < 128 then [n]
  else if 0xac00 ≤ n ∧ n < 0xd7a4 then
    let s := n - 0xac00
    let tail := s % 28
    [0x1100 + s / 588, 0x1161 + s % 588 / 28] ++ (if tail = 0 then [] else [0x11a7 + tail])
  else (lookup decompositionTable n).getD [n]

def composePair (a b : Nat) : Option Nat :=
  if 0x1100 ≤ a ∧ a < 0x1113 ∧ 0x1161 ≤ b ∧ b < 0x1176 then
    some (0xac00 + ((a - 0x1100) * 21 + (b - 0x1161)) * 28)
  else if 0xac00 ≤ a ∧ a < 0xd7a4 ∧ (a - 0xac00) % 28 = 0 ∧ 0x11a8 ≤ b ∧ b < 0x11c3 then
    some (a + (b - 0x11a7))
  else (compositionTable.find? fun e => e.1 == (a, b)).map (·.2)

/-- Inserts a mark after the marks whose class is not larger. -/
def insertMark (m : Nat) : List Nat → List Nat
  | [] => [m]
  | x :: xs => if combiningClass m < combiningClass x then m :: x :: xs else x :: insertMark m xs

/-- Sorts every run of marks by class, keeping the order of equals. -/
def reorder (marks : List Nat) : List Nat → List Nat
  | [] => marks
  | n :: ns =>
    if combiningClass n = 0 then marks ++ n :: reorder [] ns
    else reorder (insertMark n marks) ns

/-- `base` is the last base seen and `marks` the marks kept after it, latest first. -/
def compose (base : Option Nat) (marks : List Nat) : List Nat → List Nat
  | [] => base.toList ++ marks.reverse
  | n :: ns =>
    match base with
    | none =>
      if combiningClass n = 0 then compose (some n) [] ns else n :: compose none [] ns
    | some b =>
      let blocked := match marks with
        | [] => false
        | m :: _ => combiningClass n ≤ combiningClass m
      match if blocked then none else composePair b n with
      | some c => compose (some c) marks ns
      | none =>
        if combiningClass n = 0 then b :: marks.reverse ++ compose (some n) [] ns
        else compose (some b) (n :: marks) ns

/-- The compatibility normal form of an identifier; plain ASCII is its own. -/
def normalize (s : String) : String :=
  if s.toList.all fun c => c.toNat < 128 then s
  else String.ofList
    ((compose none [] (reorder [] (s.toList.flatMap fun c => decompose c.toNat))).map Char.ofNat)

end Apidoc.Text.Normal
