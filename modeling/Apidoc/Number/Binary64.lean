/-!
# Double-precision numbers, exactly

A finite double is `± m · 2 ^ q`; decimal texts are read by rounding an exact quotient, and the
shortest decimal that reads back is found by trying one digit, two digits, and so on, on the two
neighbours of the value.  All of it is arithmetic on natural numbers.

* `Binary64.ofDecimal`   the double nearest to a decimal, ties to even;
* `Binary64.shortest`    the digits and exponent of the shortest decimal that reads back.
-/

namespace Apidoc

/-- The finite doubles have `m < 2 ^ 53` and `-1074 ≤ q ≤ 971`. -/
inductive Binary64 where
  | finite (negative : Bool) (m : Nat) (q : Int)
  | infinite (negative : Bool)
  | nan
  deriving DecidableEq, Repr

namespace Binary64

def roundDiv (num den : Nat) : Nat :=
  let n := num / den
  let r := num % den
  if 2 * r < den then n
  else if den < 2 * r then n + 1
  else if n % 2 = 0 then n else n + 1

def scaleUp (n : Nat) (k : Int) : Nat := n * Nat.pow 2 k.toNat

/-- the exponent `q` for which `num / den / 2 ^ q` has 53 bits, but not below `-1074` -/
def exponentOf (num den : Nat) : Int :=
  let guess : Int := (num.log2 : Int) - (den.log2 : Int) - 52
  let n := scaleUp num (-guess) / scaleUp den guess
  let q := if n < Nat.pow 2 52 then guess - 1 else if Nat.pow 2 53 ≤ n then guess + 1 else guess
  max q (-1074)

def ofQuotient (negative : Bool) (num den : Nat) : Binary64 :=
  if num = 0 then .finite negative 0 (-1074)
  else
    let q := exponentOf num den
    let m := roundDiv (scaleUp num (-q)) (scaleUp den q)
    let (m, q) := if m = Nat.pow 2 53 then (Nat.pow 2 52, q + 1) else (m, q)
    if 971 < q then .infinite negative else .finite negative m q

def digitCount (n : Nat) : Nat := (Nat.toDigits 10 n).length

/-- The double nearest to `digits · 10 ^ exponent`; far outside the range nothing is computed. -/
def ofDecimal (negative : Bool) (digits : Nat) (exponent : Int) : Binary64 :=
  let size : Int := exponent + digitCount digits
  if digits = 0 ∨ size < -400 then .finite negative 0 (-1074)
  else if 400 < size then .infinite negative
  else ofQuotient negative (digits * Nat.pow 10 exponent.toNat) (Nat.pow 10 (-exponent).toNat)

/-- least `k` with `den ≤ num · 10 ^ k`, looked for among `fuel` values -/
def leadingZeros : Nat → Nat → Nat → Nat
  | 0, _, _ => 0
  | fuel + 1, num, den => if den ≤ num then 0 else leadingZeros fuel (10 * num) den + 1

def decimalExponent (num den : Nat) : Int :=
  if den ≤ num then (digitCount (num / den) : Int) - 1
  else -(leadingZeros 400 num den : Int)

/-- the grid neighbours of `num / den` with `count` digits that read back, the nearer first -/
def neighbours (m : Nat) (q : Int) (num den count : Nat) (e : Int) : List (Nat × Int) :=
  let s := e - (count : Int) + 1
  let a := num * Nat.pow 10 (-s).toNat
  let b := den * Nat.pow 10 s.toNat
  let lo := a / b
  let nearerLow := 2 * (a % b) ≤ b
  let order := if nearerLow then [lo, lo + 1] else [lo + 1, lo]
  (order.filter fun d => ofDecimal false d s == .finite false m q).map fun d => (d, s)

def shortestFrom (m : Nat) (q : Int) (num den : Nat) (e : Int) : List Nat → Nat × Int
  | [] => (0, 0)
  | count :: rest =>
    match neighbours m q num den count e with
    | p :: _ => p
    | [] => shortestFrom m q num den e rest

def stripZeros : Nat → Nat → Int → Nat × Int
  | 0, d, e => (d, e)
  | fuel + 1, d, e => if d ≠ 0 ∧ d % 10 = 0 then stripZeros fuel (d / 10) (e + 1) else (d, e)

/-- Digits `d` and exponent `e` with `d · 10 ^ e` the shortest decimal that reads back as `m · 2 ^
q`. -/
def shortest (m : Nat) (q : Int) : Nat × Int :=
  if m = 0 then (0, 0)
  else
    let num := scaleUp m q
    let den := scaleUp 1 (-q)
    let e := decimalExponent num den
    let p := shortestFrom m q num den e [1, 2, 3, 4, 5, 6, 7, 8, 9, 10, 11, 12, 13, 14, 15, 16, 17]
    stripZeros 20 p.1 p.2

end Binary64

end Apidoc
