import Apidoc.Text.Class

/-!
# Quoted text

A text between quotes on one line.  Single quotes are used unless the text holds some and no double
ones.  Backslashes, the quote itself and whatever is not printable are escaped.

A text is given by its code points, because a literal may name half of a surrogate pair, which is no
character.  When such a literal becomes a text (`ofPoints`) halves are lost: two in a row become the
one character they make, and one alone becomes U+FFFD.  That half a pair cannot be written to a file
is not modelled.
-/

namespace Apidoc.Text

abbrev Points := List Nat

def points (cs : List Char) : Points := cs.map Char.toNat

def isHighUnit (n : Nat) : Bool := 0xd800 ≤ n && n < 0xdc00

def isLowUnit (n : Nat) : Bool := 0xdc00 ≤ n && n < 0xe000

def joinUnits (hi lo : Nat) : Nat := 0x10000 + (hi - 0xd800) * 0x400 + (lo - 0xdc00)

def joinPairs : Points → Points
  | hi :: lo :: ps =>
    if isHighUnit hi && isLowUnit lo then joinUnits hi lo :: joinPairs ps else hi ::
      joinPairs (lo :: ps)
  | ps => ps

/-- The text with the given code points; what is no character becomes the replacement character. -/
def ofPoints (ps : Points) : List Char :=
  (joinPairs ps).map fun n => if n.isValidChar then Char.ofNat n else '�'

def isPrintablePoint (n : Nat) : Bool := n.isValidChar && isPrintable (Char.ofNat n)

def hexText (width n : Nat) : List Char :=
  let ds := Nat.toDigits 16 n
  List.replicate (width - ds.length) '0' ++ ds

def escapePoint (n : Nat) : List Char :=
  if n = 9 then ['\\', 't']
  else if n = 10 then ['\\', 'n']
  else if n = 13 then ['\\', 'r']
  else if n = 92 then ['\\', '\\']
  else if n < 0x100 then '\\' :: 'x' :: hexText 2 n
  else if n < 0x10000 then '\\' :: 'u' :: hexText 4 n
  else '\\' :: 'U' :: hexText 8 n

/-- Writes a code point out if it is printable, and escapes it otherwise. -/
def showPoint (n : Nat) : List Char :=
  if n = 92 ∨ !isPrintablePoint n then escapePoint n else [Char.ofNat n]

def quoteFor (ps : Points) : Char :=
  if ps.contains 39 && !ps.contains 34 then '"' else '\''

def quotedBody (quote : Char) (ps : Points) : List Char :=
  ps.flatMap fun n => if n = quote.toNat then ['\\', quote] else showPoint n

def quotedPoints (ps : Points) : List Char :=
  let q := quoteFor ps
  q :: quotedBody q ps ++ [q]

def quoted (s : String) : String := String.ofList (quotedPoints (points s.toList))

/-- Bytes are quoted alike, behind a `b`; only printable ASCII is written out. -/
def quotedBytes (bs : List UInt8) : List Char :=
  let ps := bs.map UInt8.toNat
  let q := quoteFor ps
  'b' :: q :: (ps.flatMap fun n =>
    if n = q.toNat then ['\\', q]
    else if n = 92 ∨ n < 32 ∨ 127 ≤ n then escapePoint n
    else [Char.ofNat n]) ++ [q]

end Apidoc.Text
