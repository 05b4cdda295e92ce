import Apidoc.Text.Split

/-!
# Sets of code points as ranges

A Unicode property is a list of closed intervals in rising order, written down as hexadecimal text
such as `aa b 5-16` and read once.  A word gives the distance of an interval from the end of the one
before and, after a hyphen, how many more code points follow its first.  Membership is a search
through the intervals.
-/

namespace Apidoc.Text

abbrev Ranges := List (Nat × Nat)

def Ranges.contains (r : Ranges) (n : Nat) : Bool :=
  r.any fun p => decide (p.1 ≤ n) && decide (n ≤ p.2)

def hexValue? (c : Char) : Option Nat :=
  if '0' ≤ c ∧ c ≤ '9' then some (c.toNat - 48)
  else if 'a' ≤ c ∧ c ≤ 'f' then some (c.toNat - 87)
  else if 'A' ≤ c ∧ c ≤ 'F' then some (c.toNat - 55)
  else none

def hexNat (cs : List Char) : Nat :=
  cs.foldl (fun n c => 16 * n + (hexValue? c).getD 0) 0

def hexPair (w : List Char) : Nat × Option Nat :=
  match splitOn '-' w with
  | a :: b :: _ => (hexNat a, some (hexNat b))
  | [a] => (hexNat a, none)
  | [] => (0, none)

def Ranges.readFrom (last : Nat) : List (List Char) → Ranges
  | [] => []
  | w :: ws =>
    let p := hexPair w
    let lo := last + p.1
    let hi := lo + p.2.getD 0
    (lo, hi) :: readFrom hi ws

def Ranges.ofText (s : String) : Ranges := Ranges.readFrom 0 (words s.toList)

end Apidoc.Text
