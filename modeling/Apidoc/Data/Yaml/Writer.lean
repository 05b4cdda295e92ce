import Apidoc.Data.Yaml.Scalar

/-!
# Writing YAML

A document is one map, written with a line for each pair.  Strings are plain where their form says
that they are strings, else in single quotes, else in double quotes with escapes; the text is ASCII.
Lines are folded at a space once they are longer than 80 characters.

* `wrap`       a plain or single quoted text, folded;
* `escaped`    a double quoted text, folded;
* `document`   a map as text.
-/

namespace Apidoc.Yaml

/-- the length from which on a line is folded -/
def lineWidth : Nat := 80

/-- the length from which on a key has to be announced by a mark -/
def keyWidth : Nat := 128

def spaces (n : Nat) : List Char := List.replicate n ' '

def newline (indent : Nat) : List Char := '\n' :: spaces indent

/-! ## styles -/

def isAsciiText (c : Char) : Bool := ' ' ≤ c && c ≤ '~'

def isIndicator (c : Char) : Bool := "#,[]\x7b\x7d&*!|>'\"%@`".toList.contains c

def isSpaceOrEnd : List Char → Bool
  | [] => true
  | c :: _ => c == ' '

/-- a colon that ends a key, or a hash that starts a comment -/
def hasMark : List Char → Bool
  | [] => false
  | c :: cs => (c == ':' && isSpaceOrEnd cs) || (c == ' ' && cs.head? == some '#') || hasMark cs

/-- Whether a text at the start of a scalar would be read as structure. -/
def startsStructure (cs : List Char) : Bool :=
  Text.isPrefix "---".toList cs || Text.isPrefix "...".toList cs ||
    match cs with
    | c :: r => isIndicator c || ((c == '?' || c == '-') && isSpaceOrEnd r)
    | [] => false

def isPlain (cs : List Char) : Bool :=
  !cs.isEmpty && Tag.ofPlain cs == .str && cs.all isAsciiText &&
    cs.head? != some ' ' && cs.getLast? != some ' ' && !startsStructure cs && !hasMark cs

/-- A space beside a line end would be lost in single quotes. -/
def isSingle (cs : List Char) : Bool :=
  (cs.all fun c => isAsciiText c || c == '\n') &&
    !Text.contains [' ', '\n'] cs && !Text.contains ['\n', ' '] cs

/-! ## plain and single quoted text -/

/-- Whether the line is folded at a single space between two other characters. -/
def foldsAt (fold : Option Nat) (column : Nat) (before : Option Char) (after : List Char) : Bool :=
  fold.isSome && lineWidth < column &&
    (before.isSome && before != some ' ') && (!after.isEmpty && after.head? != some ' ')

/-- A line end is written as one more line end than there are in a row, a quote twice if the text is
`quoted`.  Without `fold` nothing is folded. -/
def wrap (fold : Option Nat) (quoted : Bool) : Nat → Option Char → List Char → List Char
  | _, _, [] => []
  | column, before, c :: cs =>
    let indent := fold.getD 0
    if c = ' ' then
      if foldsAt fold column before cs then newline indent ++ wrap fold quoted indent (some c) cs
      else c :: wrap fold quoted (column + 1) (some c) cs
    else if c = '\n' then
      (if before = some '\n' then ['\n'] else ['\n', '\n']) ++
        if cs.head? = some '\n' then wrap fold quoted 0 (some c) cs
        else spaces indent ++ wrap fold quoted indent (some c) cs
    else if quoted ∧ c = '\'' then c :: c :: wrap fold quoted (column + 2) (some c) cs
    else c :: wrap fold quoted (column + 1) (some c) cs

/-! ## double quoted text -/

def escapeLetters : List (Nat × Char) :=
  [(0, '0'), (7, 'a'), (8, 'b'), (9, 't'), (10, 'n'), (11, 'v'), (12, 'f'), (13, 'r'), (0x1b, 'e'),
   (0x22, '"'), (0x5c, '\\'), (0x85, 'N'), (0xa0, '_'), (0x2028, 'L'), (0x2029, 'P')]

def hexUpper (width n : Nat) : List Char := (Text.hexText width n).map Char.toUpper

def escape? (c : Char) : Option (List Char) :=
  if isAsciiText c && c != '"' && c != '\\' then none
  else match escapeLetters.find? fun e => e.1 == c.toNat with
    | some e => some ['\\', e.2]
    | none =>
      if c.toNat ≤ 0xff then some ('\\' :: 'x' :: hexUpper 2 c.toNat)
      else if c.toNat ≤ 0xffff then some ('\\' :: 'u' :: hexUpper 4 c.toNat)
      else some ('\\' :: 'U' :: hexUpper 8 c.toNat)

/-- A backslash ends a folded line, and one keeps a space at the start of the next. -/
def foldMark (indent : Nat) (next : Option Char) : List Char :=
  '\\' :: newline indent ++ if next = some ' ' then ['\\'] else []

def foldColumn (indent : Nat) (next : Option Char) : Nat :=
  if next = some ' ' then indent + 1 else indent

/-- `first` holds at the first character, `loose` after an escape: lines are folded after escapes
and before spaces, never before the first or the last character. -/
def escaped (fold : Option Nat) : Nat → Bool → Bool → List Char → List Char
  | _, _, _, [] => []
  | column, first, loose, c :: cs =>
    let indent := fold.getD 0
    let inner := fold.isSome && !first && !cs.isEmpty
    match escape? c with
    | some e =>
      let column := column + e.length
      if inner && lineWidth + 1 < column then
        e ++ foldMark indent cs.head? ++ escaped fold (foldColumn indent cs.head?) false true cs
      else e ++ escaped fold column false true cs
    | none =>
      if inner && (c == ' ' || loose) && lineWidth < column then
        foldMark indent (some c) ++ c ::
          escaped fold (foldColumn indent (some c) + 1) false false cs
      else c :: escaped fold (column + 1) false false cs

/-! ## scalars -/

def stringText (fold : Option Nat) (column : Nat) (cs : List Char) : List Char :=
  if isPlain cs then wrap fold false column none cs
  else if isSingle cs then '\'' :: wrap fold true (column + 1) none cs ++ ['\'']
  else '"' :: escaped fold (column + 1) true false cs ++ ['"']

/-- A float with an exponent has a point before it. -/
def floatText (x : Binary64) : List Char :=
  let cs := (Binary64.textWith ".0" ".inf" ".nan" x).toList
  if cs.contains '.' then cs
  else cs.flatMap fun c => if c = 'e' then ['.', '0', 'e'] else [c]

/-- A scalar that is no string, and the length of the name of its kind. -/
def formOf? : Data → Option (List Char × Nat)
  | .null => some ("null".toList, 6)
  | .bool b => some ((if b then "true" else "false").toList, 6)
  | .int n => some ((toString n).toList, 5)
  | .float x => some (floatText x, 7)
  | .date y m d => some ((Data.dateText y m d).toList, 11)
  | .moment m => some ((Data.momentText " " m).toList, 11)
  | _ => none

def isSimpleKey : Data → Bool
  | .str s => s.length + 5 < keyWidth && s != "" && !s.toList.any isLineEnd
  | k => match formOf? k with
    | some (cs, n) => cs.length + n < keyWidth
    | none => false

def scalarText (fold : Option Nat) (column : Nat) : Data → List Char
  | .str s => stringText fold column s.toList
  | v => match formOf? v with
    | some (cs, _) => wrap fold false column none cs
    | none => []

/-! ## bytes -/

def letters : List Char := "ABCDEFGHIJKLMNOPQRSTUVWXYZabcdefghijklmnopqrstuvwxyz0123456789+/".toList

def letter (n : Nat) : Char := letters.getD (n % 64) 'A'

def sextets : List UInt8 → List Char
  | a :: b :: c :: r =>
    letter (a.toNat / 4) :: letter (16 * a.toNat + b.toNat / 16) ::
      letter (4 * b.toNat + c.toNat / 64) ::
      letter c.toNat :: sextets r
  | [a, b] => [letter (a.toNat / 4), letter (16 * a.toNat + b.toNat / 16),
      letter (4 * b.toNat), '=']
  | [a] => [letter (a.toNat / 4), letter (16 * a.toNat), '=', '=']
  | [] => []

def letterLines (indent : Nat) : Nat → List Char → List Char
  | 0, _ => []
  | n + 1, cs =>
    if cs.isEmpty then [] else newline indent ++ cs.take 76 ++ letterLines indent n (cs.drop 76)

def bytesText (indent : Nat) (bs : List UInt8) : List Char :=
  if bs.isEmpty then " !!binary ''".toList
  else
    let cs := sextets bs
    " !!binary |".toList ++ letterLines indent cs.length cs

/-! ## maps and lists -/

mutual

/-- what follows the colon of a key at the column `indent`, from `column` on -/
def afterKey (indent column : Nat) : Data → List Char
  | .map [] => " \x7b\x7d".toList
  | .list [] => " []".toList
  | .set [] => " !!set \x7b\x7d".toList
  | .map ps => pairLines (indent + 2) false ps
  | .list xs => itemLines indent false xs
  | .set xs => " !!set".toList ++ memberLines (indent + 2) xs
  | .bytes bs => bytesText (indent + 2) bs
  | v => ' ' :: scalarText (some (indent + 2)) (column + 1) v

/-- what follows a mark at the column `indent` -/
def afterMark (indent : Nat) : Data → List Char
  | .map [] => " \x7b\x7d".toList
  | .list [] => " []".toList
  | .set [] => " !!set \x7b\x7d".toList
  | .map ps => ' ' :: pairLines (indent + 2) true ps
  | .list xs => ' ' :: itemLines (indent + 2) true xs
  | .set xs => " !!set".toList ++ memberLines (indent + 2) xs
  | .bytes bs => bytesText (indent + 2) bs
  | v => ' ' :: scalarText (some (indent + 2)) (indent + 2) v

/-- pairs, each at the start of a line but the first if it `stays` on its line -/
def pairLines (indent : Nat) (stays : Bool) : List (Data × Data) → List Char
  | [] => []
  | (k, v) :: ps =>
    (if stays then [] else newline indent) ++
    (if isSimpleKey k then
      let key := scalarText none 0 k
      key ++ ':' :: afterKey indent (indent + key.length + 1) v
    else '?' :: afterMark indent k ++ newline indent ++ ':' :: afterMark indent v) ++
    pairLines indent false ps

def itemLines (indent : Nat) (stays : Bool) : List Data → List Char
  | [] => []
  | x :: xs =>
    (if stays then [] else newline indent) ++ '-' :: afterMark indent x ++ itemLines indent false xs

def memberLines (indent : Nat) : List Data → List Char
  | [] => []
  | x :: xs =>
    newline indent ++
    (if isSimpleKey x then scalarText none 0 x ++ ": null".toList
    else '?' :: afterMark indent x ++ newline indent ++ ": null".toList) ++
    memberLines indent xs

end

def document (pairs : List (Data × Data)) : String :=
  match pairs with
  | [] => "\x7b\x7d\n"
  | ps => String.ofList (pairLines 0 true ps ++ ['\n'])

/-! ## sorted keys -/

def comparable : Data → Data → Bool
  | .str _, .str _ => true
  | .date _ _ _, .date _ _ _ => true
  | .moment m, .moment n => m.offset.isSome == n.offset.isSome
  | .bytes _, .bytes _ => true
  | a, b => isNumber a && isNumber b
where
  isNumber : Data → Bool
    | .bool _ => true
    | .int _ => true
    | .float _ => true
    | _ => false

def quotient : Data → Int × Nat
  | .float (.finite negative m q) =>
    let n : Int := if negative then -m else m
    if 0 ≤ q then (n * (Nat.pow 2 q.toNat : Nat), 1) else (n, Nat.pow 2 (-q).toNat)
  | .float (.infinite negative) =>
    (if negative then -(Nat.pow 2 1100 : Nat) else (Nat.pow 2 1100 : Nat), 1)
  | v => (v.wholeNumber?.getD 0, 1)

/-- The order of lists by their first numbers that differ. -/
def numbersLe : List Nat → List Nat → Bool
  | [], _ => true
  | _ :: _, [] => false
  | a :: as, b :: bs => if a = b then numbersLe as bs else a < b

def keyLe : Data → Data → Bool
  | .str s, .str t => s ≤ t
  | .date y m d, .date y' m' d' => numbersLe [y, m, d] [y', m', d']
  | .moment m, .moment n => Data.momentText " " m ≤ Data.momentText " " n
  | .bytes bs, .bytes cs => numbersLe (bs.map UInt8.toNat) (cs.map UInt8.toNat)
  | a, b =>
    let (p, q) := quotient a
    let (r, s) := quotient b
    p * s ≤ r * q

/-- Pairs by their keys, as they are if some keys cannot be compared. -/
def sortPairs (ps : List (Data × Data)) : List (Data × Data) :=
  if ps.all fun p => ps.all fun q => comparable p.1 q.1 then ps.mergeSort fun p q =>
    keyLe p.1 q.1 else ps

mutual

def sorted : Data → Data
  | .map ps => .map (sortPairs (sortedPairs ps))
  | .list xs => .list (sortedItems xs)
  | v => v

def sortedPairs : List (Data × Data) → List (Data × Data)
  | [] => []
  | (k, v) :: ps => (k, sorted v) :: sortedPairs ps

def sortedItems : List Data → List Data
  | [] => []
  | x :: xs => sorted x :: sortedItems xs

end

end Apidoc.Yaml
