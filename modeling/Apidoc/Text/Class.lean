import Apidoc.Text.Table.Identifier
import Apidoc.Text.Table.Printable
import Apidoc.Text.Table.Digit

/-!
# Character classes

Each class is decided directly on ASCII and by a table beyond it.

* `isBlank`          white space, as stripped from the ends of a text;
* `isIdentStart`, `isIdentContinue`   letters of identifiers;
* `isPrintable`      characters that need no escape in a quoted text;
* `decimalDigit?`    the value of a decimal digit of any script.
-/

namespace Apidoc.Text

/-- White space of any script, the four separators U+001C to U+001F included. -/
def isBlank (c : Char) : Bool :=
  let n := c.toNat
  (9 ≤ n && n ≤ 13) || (28 ≤ n && n ≤ 32) || n == 0x85 || n == 0xa0 || n == 0x1680 ||
    (0x2000 ≤ n && n ≤ 0x200a) || n == 0x2028 || n == 0x2029 || n == 0x202f || n == 0x205f ||
    n == 0x3000

def isIdentStart (c : Char) : Bool :=
  if c.toNat < 128 then c.isAlpha || c == '_' else Table.identStart.contains c.toNat

def isIdentContinue (c : Char) : Bool :=
  if c.toNat < 128 then c.isAlphanum || c == '_' else Table.identContinue.contains c.toNat

def isPrintable (c : Char) : Bool :=
  if c.toNat < 128 then 32 ≤ c.toNat && c.toNat < 127 else Table.printable.contains c.toNat

def decimalDigit? (c : Char) : Option Nat :=
  if c.toNat < 128 then if c.isDigit then some (c.toNat - 48) else none
  else (Table.digits.find? fun p => p.1 ≤ c.toNat && c.toNat ≤ p.2).map fun p => c.toNat - p.1

/-- An identifier starts with a letter and goes on with letters, digits and marks. -/
def isIdentifier : List Char → Bool
  | [] => false
  | c :: cs => isIdentStart c && cs.all isIdentContinue

def trimStart (cs : List Char) : List Char := cs.dropWhile isBlank

def trimEnd (cs : List Char) : List Char := dropWhileEnd isBlank cs

def trim (cs : List Char) : List Char := trimEnd (trimStart cs)

def trimString (s : String) : String := String.ofList (trim s.toList)

end Apidoc.Text
