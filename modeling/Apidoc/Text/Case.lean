import Apidoc.Text.Class
import Apidoc.Text.Table.Case

/-!
# Upper and lower case

`lower` is the full lower-casing of Unicode: it works character by character except for the dotted
capital I, which becomes two characters, and for a capital sigma that ends a word.
-/

namespace Apidoc.Text

def isUpper (c : Char) : Bool :=
  if c.toNat < 128 then c.isUpper else Table.upper.contains c.toNat

def isLower (c : Char) : Bool :=
  if c.toNat < 128 then c.isLower else Table.lower.contains c.toNat

def isTitle (c : Char) : Bool := Table.title.contains c.toNat

def isCased (c : Char) : Bool := isUpper c || isLower c || isTitle c

/-- All cased letters of the text are upper case, and there is one. -/
def isUpperText (cs : List Char) : Bool :=
  cs.any isUpper && cs.all fun c => !(isLower c || isTitle c)

/-- code points `lo`, `lo + step`, …, `hi`, each lowered by moving it by `distance` -/
structure Lowering where
  lo : Nat
  hi : Nat
  step : Nat
  up : Bool
  distance : Nat

def Lowering.entry (w : List Char) : Lowering :=
  let up := w.contains '+'
  match splitOn (if up then '+' else '~') w with
  | [range, d] =>
    match splitOn '-' range with
    | [a, b, s] => ⟨hexNat a, hexNat b, hexNat s, up, hexNat d⟩
    | _ => ⟨1, 0, 1, up, 0⟩
  | _ => ⟨1, 0, 1, up, 0⟩

def lowerings : List Lowering :=
  (words Table.lowering.toList).map Lowering.entry

def Lowering.applies (l : Lowering) (n : Nat) : Bool :=
  l.lo ≤ n && n ≤ l.hi && (n - l.lo) % l.step == 0

def Lowering.apply (l : Lowering) (n : Nat) : Nat :=
  if l.up then n + l.distance else n - l.distance

def lowerChar (c : Char) : List Char :=
  if c.toNat < 128 then [c.toLower]
  else if c.toNat = 0x130 then ['i', Char.ofNat 0x307]
  else match lowerings.find? (·.applies c.toNat) with
    | some l => [Char.ofNat (l.apply c.toNat)]
    | none => [c]

/-- `before` says whether the nearest cased neighbour to the left is a letter -/
def lowerFrom (before : Bool) : List Char → List Char
  | [] => []
  | c :: cs =>
    let low :=
      if c.toNat = 0x3a3 then
        if before && !((cs.find? fun d => d != '\'').map isCased).getD false then [Char.ofNat 0x3c2]
        else [Char.ofNat 0x3c3]
      else lowerChar c
    low ++ lowerFrom (isCased c) cs

def lower (s : String) : String := String.ofList (lowerFrom false s.toList)

end Apidoc.Text
