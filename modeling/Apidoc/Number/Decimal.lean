import Apidoc.Number.Binary64

/-!
# Decimal notation of doubles

Positional notation is used from `1e-4` up to below `1e16`; outside, the mantissa has one digit
before the point and the exponent has a sign and at least two digits.
-/

namespace Apidoc.Binary64

def digitsText (n : Nat) : List Char := Nat.toDigits 10 n

def exponentText (e : Int) : List Char :=
  let ds := digitsText e.natAbs
  (if e < 0 then '-' else '+') :: (if ds.length < 2 then '0' :: ds else ds)

/-- The value `d · 10 ^ e`; `whole` is written after a value that has no fraction. -/
def decimalText (whole : List Char) (d : Nat) (e : Int) : List Char :=
  let ds := digitsText d
  let lead : Int := e + ds.length - 1
  if lead < -4 ∨ 16 ≤ lead then
    (match ds with
      | [] => []
      | [c] => [c]
      | c :: cs => c :: '.' :: cs) ++ 'e' :: exponentText lead
  else if lead < 0 then '0' :: '.' :: List.replicate ((-lead).toNat - 1) '0' ++ ds
  else if 0 ≤ e then ds ++ List.replicate e.toNat '0' ++ whole
  else ds.take (lead.toNat + 1) ++ '.' :: ds.drop (lead.toNat + 1)

def textWith (whole infinity notNumber : String) : Binary64 → String
  | .nan => notNumber
  | .infinite neg => (if neg then "-" else "") ++ infinity
  | .finite neg m q =>
    let p := shortest m q
    (if neg then "-" else "") ++ String.ofList (decimalText whole.toList p.1 p.2)

/-- Whole values keep a fraction `.0`. -/
def text (x : Binary64) : String := textWith ".0" "inf" "nan" x

end Apidoc.Binary64
