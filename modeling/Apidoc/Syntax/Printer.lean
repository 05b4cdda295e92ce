import Apidoc.Number.Decimal
import Apidoc.Syntax.Expr
import Apidoc.Text.Split

/-!
# The text of an expression

An expression is written in one way, whatever its source looked like: one blank around operators and
after commas, parentheses only where binding strength asks for them, strings in quotes chosen by
their contents.

A field of a formatted string may hold no backslash, so inside one (`inField`) strings are written
with the quotes that need none; where that fails there is no text for the expression.
-/

namespace Apidoc.Syntax

open Apidoc.Text

inductive PrintFault where
  /-- a field of a formatted string would need a backslash -/
  | backslash
  /-- an integer has too many digits -/
  | longInteger
  deriving DecidableEq, Repr

def PrintFault.message : PrintFault → String
  | .backslash => "Unable to avoid backslash in f-string expression part"
  | .longInteger => "Exceeds the limit (4300 digits) for integer string conversion; " ++
      "use sys.set_int_max_str_digits() to increase the limit"

abbrev Printed (α : Type) := Except PrintFault α

/-! ## binding strength -/

namespace Strength

def named : Nat := 0
def tuple : Nat := 1
def yield : Nat := 2
def test : Nat := 3
def or : Nat := 4
def and : Nat := 5
def not : Nat := 6
def compare : Nat := 7
def bitOr : Nat := 8
def bitXor : Nat := 9
def bitAnd : Nat := 10
def shift : Nat := 11
def sum : Nat := 12
def term : Nat := 13
def factor : Nat := 14
def power : Nat := 15
def await : Nat := 16
def atom : Nat := 17

end Strength

def BinaryOp.strength : BinaryOp → Nat
  | .add | .sub => Strength.sum
  | .mul | .matMul | .div | .mod | .floorDiv => Strength.term
  | .pow => Strength.power
  | .shiftLeft | .shiftRight => Strength.shift
  | .bitOr => Strength.bitOr
  | .bitXor => Strength.bitXor
  | .bitAnd => Strength.bitAnd

def BinaryOp.text : BinaryOp → String
  | .add => "+"
  | .sub => "-"
  | .mul => "*"
  | .matMul => "@"
  | .div => "/"
  | .mod => "%"
  | .floorDiv => "//"
  | .pow => "**"
  | .shiftLeft => "<<"
  | .shiftRight => ">>"
  | .bitOr => "|"
  | .bitXor => "^"
  | .bitAnd => "&"

def CompareOp.text : CompareOp → String
  | .eq => "=="
  | .ne => "!="
  | .lt => "<"
  | .le => "<="
  | .gt => ">"
  | .ge => ">="
  | .is => "is"
  | .isNot => "is not"
  | .isIn => "in"
  | .notIn => "not in"

def BoolOp.text : BoolOp → String
  | .and => "and"
  | .or => "or"

def BoolOp.strength : BoolOp → Nat
  | .and => Strength.and
  | .or => Strength.or

def UnaryOp.text : UnaryOp → String
  | .invert => "~"
  | .not => "not "
  | .plus => "+"
  | .minus => "-"

def UnaryOp.strength : UnaryOp → Nat
  | .not => Strength.not
  | _ => Strength.factor

def Conversion.letter : Conversion → Char
  | .str => 's'
  | .repr => 'r'
  | .ascii => 'a'

def parens (needed : Bool) (s : String) : String := if needed then "(" ++ s ++ ")" else s

/-- the elements with commas between; one element alone keeps its comma -/
def tupleText : List String → String
  | [s] => s ++ ","
  | ss => ", ".intercalate ss

/-! ## string literals -/

def allQuotes : List String := ["'", "\"", "\"\"\"", "'''"]

def isTriple (q : String) : Bool := q.length == 3

def firstChar (q : String) : Option Char := q.toList.head?

/-- Escapes backslashes and what is not printable; line ends and tabs only if `whitespace` asks for
it. -/
def escapeLiteral (whitespace : Bool) (ps : Points) : List Char :=
  ps.flatMap fun n => if !whitespace && (n == 9 || n == 10) then [Char.ofNat n] else showPoint n

/-- A text written without escaped quotes, and the quotes that fit around it, best first.  If none
of the given ones fits, the text is quoted on one line. -/
def literalBody (quotes : List String) (whitespace : Bool) (ps : Points) :
    List Char × List String :=
  let body := escapeLiteral whitespace ps
  let fits := quotes.filter fun q =>
    (isTriple q || !body.contains '\n') && !Text.contains q.toList body
  match fits with
  | [] =>
    let q := quoteFor ps
    let outer := (quotes.find? fun t => t.toList.contains q).getD (String.singleton q)
    (quotedBody q ps, [outer])
  | _ =>
    match body.getLast? with
    | none => (body, fits)
    | some c =>
      -- a quote that the text ends with comes last
      let sorted := fits.filter (fun q => firstChar q != some c) ++
        fits.filter (fun q => firstChar q == some c)
      if (sorted.head?.bind firstChar) = some c then (body.dropLast ++ ['\\', c], sorted)
      else (body, sorted)

def wrapQuotes (body : List Char) (quotes : List String) : String :=
  let q := quotes.headD "'"
  q ++ String.ofList body ++ q

def plainLiteral (ps : Points) : String :=
  let (body, quotes) := literalBody allQuotes false ps
  wrapQuotes body quotes

/-- The parts of a formatted string under quotes that fit all of them, if there are such. -/
def formattedBody : List String → List (Points × Bool) → Option (List Char × List String)
  | quotes, [] => some ([], quotes)
  | quotes, (ps, isText) :: rest =>
    let (body, fits) := literalBody quotes isText ps
    if fits.any quotes.contains then
      (formattedBody fits rest).map fun r => (body ++ r.1, r.2)
    else none

def formattedLiteral (parts : List (Points × Bool)) : String :=
  match formattedBody allQuotes parts with
  | some (body, quotes) => "f" ++ wrapQuotes body quotes
  | none =>
    "f" ++ wrapQuotes (parts.flatMap fun p => quotedBody '\'' p.1) ["'''"]

/-- Braces in the text of a formatted string are doubled. -/
def doubleBraces (ps : Points) : Points :=
  ps.flatMap fun n => if n == 123 || n == 125 then [n, n] else [n]

/-! ## constants -/

def infinityText : String := "1e309"

def maxPrintedDigits : Nat := 4300

def integerText (n : Nat) : Printed String :=
  let s := toString n
  if maxPrintedDigits < s.length then .error .longInteger else .ok s

def Constant.print (inField : Bool) : Constant → Printed String
  | .none => .ok "None"
  | .true => .ok "True"
  | .false => .ok "False"
  | .ellipsis => .ok "..."
  | .int n => integerText n
  | .float x => .ok (Binary64.textWith ".0" infinityText "" x)
  | .imaginary x => .ok (Binary64.textWith "" infinityText "" x ++ "j")
  | .str ps unicode =>
    .ok ((if unicode then "u" else "") ++
      (if inField then plainLiteral ps else String.ofList (quotedPoints ps)))
  | .bytes bs => .ok (String.ofList (quotedBytes bs))

/-- A point right after these would be read as part of a number, so a blank precedes it. -/
def Expr.needsBlank : Expr → Bool
  | .constant (.int _) | .constant .true | .constant .false => true
  | _ => false

/-! ## lambda parameters -/

def withDefaults (names : List String) (defaults : List String) : List String :=
  let plain := names.length - defaults.length
  names.take plain ++ List.zipWith (fun n d => n ++ "=" ++ d) (names.drop plain) defaults

def lambdaHead (positionalOnly positional : List String) (defaults : List String)
    (variadic : Option String) (keywordOnly : List String) (keywordDefaults : List (Option String))
    (keywords : Option String) : String :=
  let ps := withDefaults (positionalOnly ++ positional) defaults
  let front := ps.take positionalOnly.length ++ (if positionalOnly.isEmpty then [] else ["/"]) ++
    ps.drop positionalOnly.length
  let star := match variadic with
    | some v => ["*" ++ v]
    | none => if keywordOnly.isEmpty then [] else ["*"]
  let keys := List.zipWith (fun n d => match d with | some t => n ++ "=" ++ t | none => n)
    keywordOnly keywordDefaults
  let spread := match keywords with
    | some k => ["**" ++ k]
    | none => []
  let all := front ++ star ++ keys ++ spread
  if all.isEmpty then "lambda: " else "lambda " ++ ", ".intercalate all ++ ": "

/-! ## expressions -/

mutual

/-- The text of an expression where the place it stands in binds with strength `s`. -/
def Expr.print (inField : Bool) (s : Nat) : Expr → Printed String
  | .name id => .ok id
  | .constant c => c.print inField
  | .attribute e attr => do
    let t ← Expr.print inField Strength.atom e
    return t ++ (if e.needsBlank then " ." else ".") ++ attr
  | .call f args keys => do
    let t ← Expr.print inField Strength.atom f
    let as ← Expr.printAll inField Strength.test args
    let ks ← Expr.printKeys inField keys
    return t ++ "(" ++ ", ".intercalate (as ++ ks) ++ ")"
  | .subscript e index => do
    let t ← Expr.print inField Strength.atom e
    let i ← match index with
      | .tuple (e :: es) => (Expr.printAll inField Strength.test (e :: es)).map tupleText
      | i => Expr.print inField Strength.test i
    return t ++ "[" ++ i ++ "]"
  | .slice lower upper step => do
    let l ← Expr.printOption inField lower
    let u ← Expr.printOption inField upper
    let p ← Expr.printOption inField step
    return l.getD "" ++ ":" ++ u.getD "" ++ (match p with | some t => ":" ++ t | none => "")
  | .starred e => do return "*" ++ (← Expr.print inField Strength.bitOr e)
  | .tuple es => do
    let ts ← Expr.printAll inField Strength.test es
    return parens (es.isEmpty || Strength.tuple < s) (tupleText ts)
  | .list es => do return "[" ++ ", ".intercalate (← Expr.printAll inField Strength.test es) ++ "]"
  | .set es => do
    return "\x7b" ++ ", ".intercalate (← Expr.printAll inField Strength.test es) ++ "\x7d"
  | .dict items => do return "\x7b" ++ ", ".intercalate (← Expr.printItems inField items) ++ "\x7d"
  | .unary op e => do
    return parens (op.strength < s) (op.text ++ (← Expr.print inField op.strength e))
  | .binary l op r => do
    let p := op.strength
    let (pl, pr) := if op = .pow then (p + 1, p) else (p, p + 1)
    let tl ← Expr.print inField pl l
    let tr ← Expr.print inField pr r
    return parens (p < s) (tl ++ " " ++ op.text ++ " " ++ tr)
  | .boolean op es => do
    let ts ← Expr.printRising inField op.strength es
    return parens (op.strength < s) ((" " ++ op.text ++ " ").intercalate ts)
  | .compare e rest => do
    let t ← Expr.print inField Strength.bitOr e
    let ts ← Expr.printComparisons inField rest
    return parens (Strength.compare < s) (t ++ ts)
  | .conditional test body alternative => do
    let b ← Expr.print inField Strength.or body
    let t ← Expr.print inField Strength.or test
    let a ← Expr.print inField Strength.test alternative
    return parens (Strength.test < s) (b ++ " if " ++ t ++ " else " ++ a)
  | .lambda positionalOnly positional defaults variadic keywordOnly keywordDefaults keywords body =>
    do
    let ds ← Expr.printAll inField Strength.test defaults
    let ks ← Expr.printOptions inField keywordDefaults
    let b ← Expr.print inField Strength.test body
    return parens (Strength.test < s)
      (lambdaHead positionalOnly positional ds variadic keywordOnly ks keywords ++ b)
  | .comprehension kind e cs => do
    let t ← Expr.print inField Strength.test e
    let ts ← Expr.printClauses inField cs
    return match kind with
      | .list => "[" ++ t ++ ts ++ "]"
      | .set => "\x7b" ++ t ++ ts ++ "\x7d"
      | .generator => "(" ++ t ++ ts ++ ")"
  | .dictComprehension k v cs => do
    let tk ← Expr.print inField Strength.test k
    let tv ← Expr.print inField Strength.test v
    let ts ← Expr.printClauses inField cs
    return "\x7b" ++ tk ++ ": " ++ tv ++ ts ++ "\x7d"
  | .await e => do
    return parens (Strength.await < s) ("await " ++ (← Expr.print inField Strength.atom e))
  | .yield e => do
    let t ← Expr.printYielded inField e
    return parens (Strength.yield < s) ("yield" ++ t)
  | .yieldFrom e => do
    return parens (Strength.yield < s) ("yield from " ++ (← Expr.print inField Strength.atom e))
  | .named target e => do
    return parens (Strength.named < s) (target ++ " := " ++ (← Expr.print inField Strength.atom e))
  | .formatted ps => do
    let parts ← Expr.printPieces ps
    return if inField then "f" ++ plainLiteral (parts.flatMap (·.1)) else formattedLiteral parts

def Expr.printAll (inField : Bool) (s : Nat) : List Expr → Printed (List String)
  | [] => .ok []
  | e :: es => do
    let t ← Expr.print inField s e
    return t :: (← Expr.printAll inField s es)

/-- operands of one Boolean operator: each one has to bind more strongly than the one before -/
def Expr.printRising (inField : Bool) (s : Nat) : List Expr → Printed (List String)
  | [] => .ok []
  | e :: es => do
    let next := min (s + 1) Strength.atom
    let t ← Expr.print inField next e
    return t :: (← Expr.printRising inField next es)

def Expr.printOption (inField : Bool) : Option Expr → Printed (Option String)
  | none => .ok none
  | some e => do return some (← Expr.print inField Strength.test e)

def Expr.printYielded (inField : Bool) : Option Expr → Printed String
  | none => .ok ""
  | some e => do return " " ++ (← Expr.print inField Strength.atom e)

def Expr.printOptions (inField : Bool) : List (Option Expr) → Printed (List (Option String))
  | [] => .ok []
  | e :: es => do
    let t ← Expr.printOption inField e
    return t :: (← Expr.printOptions inField es)

def Expr.printKey (inField : Bool) : Keyarg → Printed String
  | .mk (some n) e => do return n ++ "=" ++ (← Expr.print inField Strength.test e)
  | .mk none e => do return "**" ++ (← Expr.print inField Strength.test e)

def Expr.printKeys (inField : Bool) : List Keyarg → Printed (List String)
  | [] => .ok []
  | k :: ks => do
    let t ← Expr.printKey inField k
    return t :: (← Expr.printKeys inField ks)

def Expr.printItem (inField : Bool) : Item → Printed String
  | .pair k v => do
    let t ← Expr.print inField Strength.test k
    return t ++ ": " ++ (← Expr.print inField Strength.test v)
  | .spread e => do return "**" ++ (← Expr.print inField Strength.bitOr e)

def Expr.printItems (inField : Bool) : List Item → Printed (List String)
  | [] => .ok []
  | i :: is => do
    let t ← Expr.printItem inField i
    return t :: (← Expr.printItems inField is)

def Expr.printComparison (inField : Bool) : Comparison → Printed String
  | .mk op e => do return " " ++ op.text ++ " " ++ (← Expr.print inField Strength.bitOr e)

def Expr.printComparisons (inField : Bool) : List Comparison → Printed String
  | [] => .ok ""
  | c :: cs => do
    let t ← Expr.printComparison inField c
    return t ++ (← Expr.printComparisons inField cs)

def Expr.printClause (inField : Bool) : Clause → Printed String
  | .mk isAsync target source conditions => do
    let t ← Expr.print inField Strength.tuple target
    let i ← Expr.print inField Strength.or source
    let cs ← Expr.printAll inField Strength.or conditions
    return (if isAsync then " async for " else " for ") ++ t ++ " in " ++ i ++
      "".intercalate (cs.map (" if " ++ ·))

def Expr.printClauses (inField : Bool) : List Clause → Printed String
  | [] => .ok ""
  | c :: cs => do
    let t ← Expr.printClause inField c
    return t ++ (← Expr.printClauses inField cs)

/-- a part of a formatted string, and whether it is text -/
def Expr.printPiece : Piece → Printed (Points × Bool)
  | .text ps => .ok (doubleBraces ps, true)
  | .field e conversion hasFormat format => do
    let t ← Expr.print true Strength.or e
    let spec ← Expr.printPieces format
    if t.toList.contains '\\' then .error .backslash
    else
      let blank := if t.toList.head? = some '\x7b' then " " else ""
      let mark := match conversion with
        | some c => "!" ++ String.singleton c.letter
        | none => ""
      return (points ("\x7b" ++ blank ++ t ++ mark).toList ++
        (if hasFormat then 58 :: spec.flatMap (·.1) else []) ++ [125], false)

def Expr.printPieces : List Piece → Printed (List (Points × Bool))
  | [] => .ok []
  | p :: ps => do
    let t ← Expr.printPiece p
    return t :: (← Expr.printPieces ps)

end

def Expr.text (e : Expr) : Printed String := e.print false Strength.test

end Apidoc.Syntax
