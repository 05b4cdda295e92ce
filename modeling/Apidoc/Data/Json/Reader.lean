import Apidoc.Data.Json.Writer
import Apidoc.Data.Ordered

/-!
# Reading JSON

The grammar of JSON, with the names of the three numbers that have no digits added.  A key that
comes again replaces the earlier one.  Integers with more than 4300 digits are refused.
-/

namespace Apidoc.Json

inductive Fault where
  | malformed
  | longInteger (digits : Nat)
  deriving DecidableEq, Repr

def maxDigits : Nat := 4300

abbrev Read (α : Type) := Except Fault α

def isSpace (c : Char) : Bool := c == ' ' || c == '\t' || c == '\n' || c == '\r'

def skipSpace (cs : List Char) : List Char := cs.dropWhile isSpace

/-! ## strings -/

def unit? (cs : List Char) : Option Nat :=
  let ds := cs.take 4
  if ds.length = 4 ∧ ds.all fun c => (Text.hexValue? c).isSome then some (Text.hexNat ds) else none

def escapedPoint? : Char → Option Nat
  | '"' => some 34
  | '\\' => some 92
  | '/' => some 47
  | 'b' => some 8
  | 'f' => some 12
  | 'n' => some 10
  | 'r' => some 13
  | 't' => some 9
  | _ => none

def unitPoint? (cs : List Char) : Option (Nat × Nat) :=
  match unit? cs with
  | none => none
  | some hi =>
    match Text.isHighUnit hi, cs.drop 4 with
    | true, '\\' :: 'u' :: ds =>
      match unit? ds with
      | some lo => if Text.isLowUnit lo then some (Text.joinUnits hi lo, 10) else some (hi, 4)
      | none => if ds.length < 5 then some (hi, 4) else none
    | _, _ => some (hi, 4)

/-- The code points up to the closing quote, and what follows it.  `skip` counts characters already
read. -/
def readPoints : Nat → List Char → Option (Text.Points × List Char)
  | _, [] => none
  | skip + 1, _ :: cs => readPoints skip cs
  | 0, c :: cs =>
    if c = '"' then some ([], cs)
    else if c.toNat < 32 then none
    else if c ≠ '\\' then (readPoints 0 cs).map fun p => (c.toNat :: p.1, p.2)
    else match cs with
      | [] => none
      | d :: ds =>
        if d = 'u' then
          match unitPoint? ds with
          | some (n, used) => (readPoints (used + 1) cs).map fun p => (n :: p.1, p.2)
          | none => none
        else match escapedPoint? d with
          | some n => (readPoints 1 cs).map fun p => (n :: p.1, p.2)
          | none => none

def readString (cs : List Char) : Read (String × List Char) :=
  match readPoints 0 cs with
  | some (ps, rest) => .ok (String.ofList (Text.ofPoints ps), rest)
  | none => .error .malformed

/-! ## numbers -/

def digitsOf (cs : List Char) : List Char := cs.takeWhile Char.isDigit

def natOf (ds : List Char) : Nat := ds.foldl (fun n d => 10 * n + (d.toNat - 48)) 0

/-- the digits of the whole part: a zero stands alone -/
def wholeDigits : List Char → List Char
  | '0' :: _ => ['0']
  | cs => digitsOf cs

def fractionDigits : List Char → List Char
  | '.' :: cs => digitsOf cs
  | _ => []

def exponentPart : List Char → Int × Nat
  | e :: cs =>
    if e = 'e' ∨ e = 'E' then
      let (sign, ds, n) := match cs with
        | '-' :: r => (-1, digitsOf r, 1)
        | '+' :: r => (1, digitsOf r, 1)
        | r => ((1 : Int), digitsOf r, 0)
      if ds.isEmpty then (0, 0) else (sign * natOf ds, 1 + n + ds.length)
    else (0, 0)
  | [] => (0, 0)

def readNumber (cs : List Char) : Read (Data × List Char) :=
  let (negative, body) := match cs with
    | '-' :: r => (true, r)
    | r => (false, r)
  let whole := wholeDigits body
  if whole.isEmpty then .error .malformed
  else
    let rest := body.drop whole.length
    let fraction := fractionDigits rest
    let rest' := if fraction.isEmpty then rest else rest.drop (fraction.length + 1)
    let (exponent, used) := exponentPart rest'
    if fraction.isEmpty ∧ used = 0 then
      if maxDigits < whole.length then .error (.longInteger whole.length)
      else .ok (.int (if negative then -(natOf whole) else natOf whole), rest)
    else
      .ok (.float (Binary64.ofDecimal negative (natOf (whole ++ fraction))
        (exponent - fraction.length)),
        rest'.drop used)

/-! ## values -/

def literals : List (List Char × Data) :=
  [("null".toList, .null), ("true".toList, .bool true), ("false".toList, .bool false),
   ("NaN".toList, .float .nan), ("Infinity".toList, .float (.infinite false)),
   ("-Infinity".toList, .float (.infinite true))]

def readLiteral (cs : List Char) : Option (Data × List Char) :=
  literals.findSome? fun l => (Text.dropWord? l.1 cs).map fun rest => (l.2, rest)

def setPair (ps : List (Data × Data)) (k v : Data) : List (Data × Data) := Ordered.set ps k v

mutual

def readValue : Nat → List Char → Read (Data × List Char)
  | 0, _ => .error .malformed
  | n + 1, cs =>
    match cs with
    | '"' :: r => do
      let (s, rest) ← readString r
      return (.str s, rest)
    | '[' :: r =>
      match skipSpace r with
      | ']' :: rest => .ok (.list [], rest)
      | r => do
        let (xs, rest) ← readItems n r
        return (.list xs, rest)
    | '\x7b' :: r =>
      match skipSpace r with
      | '\x7d' :: rest => .ok (.map [], rest)
      | r => do
        let (ps, rest) ← readPairs n [] r
        return (.map ps, rest)
    | cs =>
      match readLiteral cs with
      | some p => .ok p
      | none => readNumber cs

def readItems : Nat → List Char → Read (List Data × List Char)
  | 0, _ => .error .malformed
  | n + 1, cs => do
    let (x, rest) ← readValue n cs
    match skipSpace rest with
    | ']' :: rest => return ([x], rest)
    | ',' :: rest =>
      let (xs, rest) ← readItems n (skipSpace rest)
      return (x :: xs, rest)
    | _ => .error .malformed

def readPairs : Nat → List (Data × Data) → List Char → Read (List (Data × Data) × List Char)
  | 0, _, _ => .error .malformed
  | n + 1, done, cs =>
    match cs with
    | '"' :: r => do
      let (k, rest) ← readString r
      match skipSpace rest with
      | ':' :: rest =>
        let (v, rest) ← readValue n (skipSpace rest)
        let done := setPair done (.str k) v
        match skipSpace rest with
        | '\x7d' :: rest => return (done, rest)
        | ',' :: rest => readPairs n done (skipSpace rest)
        | _ => .error .malformed
      | _ => .error .malformed
    | _ => .error .malformed

end

def parse (s : String) : Read Data := do
  let cs := s.toList
  let (v, rest) ← readValue (cs.length + 1) (skipSpace cs)
  if (skipSpace rest).isEmpty then return v else .error .malformed

end Apidoc.Json
