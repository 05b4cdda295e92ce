import Apidoc.Syntax.Token
import Apidoc.Text.Class
import Apidoc.Text.Normal

/-!
# From source text to tokens

The lexer walks over the text once.  At the start of a line outside brackets it compares the line's
indentation with the open blocks; inside brackets line ends and indentation mean nothing.  A text
that is not made of tokens has no token list at all.

Indentation is measured twice, with tabs to the next multiple of eight and with tabs as single
columns; a line whose two measures compare differently with the open blocks is refused, so that no
block depends on the width of a tab.

* `lex`   the tokens of a text, or nothing.
-/

namespace Apidoc.Syntax

open Apidoc.Text

/-- Characters a name is cut out by; whether it is an identifier is decided afterwards. -/
def isNameChar (c : Char) : Bool := c.isAlphanum || c == '_' || 128 ≤ c.toNat

def isNameStart (c : Char) : Bool := c.isAlpha || c == '_' || 128 ≤ c.toNat

/-! ## numbers -/

/-- Digits in groups that single underscores join; a dangling underscore is an error. -/
def digitGroups (ok : Char → Bool) : List Char → Option (List Char × List Char)
  | [] => some ([], [])
  | c :: cs =>
    if ok c then (digitGroups ok cs).map fun p => (c :: p.1, p.2)
    else if c = '_' then
      match cs with
      | [] => none
      | d :: _ => if ok d then (digitGroups ok cs).map fun p => (c :: p.1, p.2) else none
    else some ([], c :: cs)

/-- What may follow a number directly: no letter, unless one of a few keywords starts there. -/
def endsNumber : List Char → Bool
  | 'a' :: 'n' :: 'd' :: _ => true
  | 'e' :: 'l' :: 's' :: 'e' :: _ => true
  | 'f' :: 'o' :: 'r' :: _ => true
  | 'i' :: 'f' :: _ => true
  | 'i' :: 'n' :: _ => true
  | 'i' :: 's' :: _ => true
  | 'o' :: 'r' :: _ => true
  | 'n' :: 'o' :: 't' :: _ => true
  | c :: _ => !isNameChar c
  | [] => true

def valueIn (base : Nat) (ds : List Char) : Nat :=
  ds.foldl (fun n c => match hexValue? c with
    | some d => base * n + d
    | none => n) 0

def countDigits (ds : List Char) : Nat := (ds.filter fun c => c != '_').length

structure Scan (α : Type) where
  value : α
  taken : List Char
  rest : List Char

def radixNumber (base : Nat) (lead : List Char) (rest : List Char) : Option (Scan Numeral) :=
  let ok (c : Char) := ((hexValue? c).map fun d => decide (d < base)).getD false
  match digitGroups ok rest with
  | some (ds, r) =>
    if ds.isEmpty || (r.head?.map Char.isDigit).getD false || !endsNumber r then none
    else some ⟨.int (valueIn base ds), lead ++ ds, r⟩
  | none => none

def exponentPart : List Char → Option (Option (Int × List Char) × List Char)
  | e :: cs =>
    if e = 'e' ∨ e = 'E' then
      match cs with
      | s :: d :: ds =>
        if s = '+' ∨ s = '-' then
          if d.isDigit then
            (digitGroups Char.isDigit (d :: ds)).map fun p =>
              (some ((if s = '-' then -(valueIn 10 p.1 : Int) else valueIn 10 p.1), e ::
                s :: p.1), p.2)
          else none
        else if s.isDigit then
          (digitGroups Char.isDigit (s :: d :: ds)).map fun p =>
            (some ((valueIn 10 p.1 : Int), e :: p.1), p.2)
        else if endsNumber (e :: cs) then some (none, e :: cs) else none
      | [s] =>
        if s.isDigit then some (some ((valueIn 10 [s] : Int), [e, s]), [])
        else if s = '+' ∨ s = '-' then none
        else if endsNumber (e :: cs) then some (none, e :: cs) else none
      | [] => none
    else some (none, e :: cs)
  | [] => some (none, [])

def fractionPart : List Char → Option (List Char × List Char)
  | '.' :: cs =>
    if (cs.head?.map Char.isDigit).getD false then
      (digitGroups Char.isDigit cs).map fun p => ('.' :: p.1, p.2)
    else some (['.'], cs)
  | cs => some ([], cs)

/-- whole numbers longer than this many digits are refused -/
def maxDecimalDigits : Nat := 4300

/-- A decimal number; one that starts with a zero and is whole has no other digit than zero. -/
def decimalNumber (cs : List Char) : Option (Scan Numeral) := do
  let (whole, r) ← digitGroups Char.isDigit cs
  let (fraction, r) ← fractionPart r
  let (exponent, r') ← exponentPart r
  let taken := whole ++ fraction ++ (exponent.map (·.2)).getD []
  let stopped := exponent.isNone && (r.head?.map fun c => c == 'e' || c == 'E').getD false
  let digits := whole ++ fraction.drop 1
  let value := Binary64.ofDecimal false (valueIn 10 digits)
    ((exponent.map (·.1)).getD 0 - countDigits (fraction.drop 1))
  if stopped then
    return ⟨if fraction.isEmpty then .int (valueIn 10 whole) else .float value, taken, r'⟩
  match r' with
  | c :: rest =>
    if c = 'j' ∨ c = 'J' then
      if endsNumber rest then return ⟨.imaginary value, taken ++ [c], rest⟩ else none
  | [] => pure ()
  if !endsNumber r' then none
  else if !(fraction.isEmpty && exponent.isNone) then return ⟨.float value, taken, r'⟩
  else if whole.head? == some '0' && valueIn 10 whole != 0 then none
  else if maxDecimalDigits < countDigits whole then none
  else return ⟨.int (valueIn 10 whole), taken, r'⟩

def scanNumber (cs : List Char) : Option (Scan Numeral) :=
  match cs with
  | '0' :: x :: rest =>
    if x = 'x' ∨ x = 'X' then radixNumber 16 ['0', x] rest
    else if x = 'o' ∨ x = 'O' then radixNumber 8 ['0', x] rest
    else if x = 'b' ∨ x = 'B' then radixNumber 2 ['0', x] rest
    else decimalNumber cs
  | _ => decimalNumber cs

/-! ## string literals -/

/-- The text up to the closing quote, which ends on the same line unless a backslash hides the end.
-/
def untilQuote (q : Char) : List Char → Option (List Char × List Char)
  | [] => none
  | c :: cs =>
    if c = q then some ([], cs)
    else if c = '\n' then none
    else if c = '\\' then
      match cs with
      | [] => none
      | d :: ds => (untilQuote q ds).map fun p => (c :: d :: p.1, p.2)
    else (untilQuote q cs).map fun p => (c :: p.1, p.2)

def untilTriple (q : Char) : List Char → Option (List Char × List Char)
  | [] => none
  | c :: cs =>
    if c = q ∧ cs.take 2 = [q, q] then some ([], cs.drop 2)
    else if c = '\\' then
      match cs with
      | [] => none
      | d :: ds => (untilTriple q ds).map fun p => (c :: d :: p.1, p.2)
    else (untilTriple q cs).map fun p => (c :: p.1, p.2)

def isQuoteMark (c : Char) : Bool := c == '\'' || c == '"'

/-- The letters that may stand before a quote: `b`, `r`, `u`, `f`, and `r` with `b` or `f`. -/
def quoteLetters (cs : List Char) : Option (List Char × List Char) :=
  let letters := cs.takeWhile fun c => c.isAlpha
  let rest := cs.drop letters.length
  if letters.length ≤ 2 && (rest.head?.map isQuoteMark).getD false then
    let low := String.ofList (letters.map Char.toLower)
    if ["", "b", "r", "u", "f", "br", "rb", "fr", "rf"].contains low then some (letters, rest)
    else none
  else none

def scanQuote (letters rest : List Char) : Option (Scan Quote) := do
  let make (body : List Char) : Quote :=
    let has (c : Char) := letters.any fun d => d.toLower == c
    { raw := has 'r', bytes := has 'b', formatted := has 'f', unicode := letters == ['u'],
      body := body }
  match rest with
  | q :: cs =>
    if cs.take 2 = [q, q] then
      let (body, r) ← untilTriple q (cs.drop 2)
      return ⟨make body, letters ++ [q, q, q] ++ body ++ [q, q, q], r⟩
    else
      let (body, r) ← untilQuote q cs
      return ⟨make body, letters ++ [q] ++ body ++ [q], r⟩
  | [] => none

/-! ## names and symbols -/

def keyword? (cs : List Char) : Option Keyword :=
  (Keyword.table.find? fun p => p.1.toList == cs).map (·.2)

/-- A word is a keyword as spelled, else an identifier in its normal form. -/
def wordLexeme (cs : List Char) : Option Lexeme :=
  match keyword? cs with
  | some k => some (.keyword k)
  | none => if isIdentifier cs then some (.name (Normal.normalize (String.ofList cs))) else none

def scanSymbol (cs : List Char) : Option (Scan Symbol) :=
  (Symbol.table.find? fun p => (dropWord? p.1.toList cs).isSome).map fun p =>
    ⟨p.2, p.1.toList, cs.drop p.1.length⟩

def scanLexeme (cs : List Char) : Option (Scan Lexeme) :=
  match quoteLetters cs with
  | some (letters, rest) => (scanQuote letters rest).map fun s => ⟨.quote s.value, s.taken, s.rest⟩
  | none =>
    match cs with
    | [] => none
    | c :: cs' =>
      if isNameStart c then
        let word := c :: cs'.takeWhile isNameChar
        (wordLexeme word).map fun l => ⟨l, word, cs'.dropWhile isNameChar⟩
      else if c.isDigit || (c == '.' && (cs'.head?.map Char.isDigit).getD false) then
        (scanNumber cs).map fun s => ⟨.number s.value, s.taken, s.rest⟩
      else (scanSymbol cs).map fun s => ⟨.symbol s.value, s.taken, s.rest⟩

/-! ## lines and blocks -/

structure Place where
  rest : List Char
  line : Nat
  offset : Nat
  /-- indentations of the open blocks, innermost first, each in both measures -/
  blocks : List (Nat × Nat)
  /-- the closing brackets awaited, innermost first -/
  brackets : List Symbol

def Place.move (p : Place) (taken rest : List Char) : Place :=
  { p with rest := rest, line := p.line + taken.count '\n', offset := p.offset + taken.length }

def Place.token (p : Place) (l : Lexeme) (length : Nat) : Token :=
  ⟨l, p.line, p.offset, p.offset + length⟩

structure Margin where
  columns : Nat
  single : Nat
  /-- the columns before the first line continuation, which then count alone -/
  continued : Nat
  taken : List Char

/-- Measures white space; a backslash at the end of a line carries on with the next one. -/
def measureMargin (m : Margin) : List Char → Option (Margin × List Char)
  | ' ' :: cs =>
    measureMargin { m with columns := m.columns + 1, single := m.single + 1,
                           taken := ' ' :: m.taken } cs
  | '\t' :: cs =>
    measureMargin { m with columns := (m.columns / 8 + 1) * 8, single := m.single + 1,
                           taken := '\t' :: m.taken } cs
  | '\x0c' :: cs =>
    measureMargin { m with columns := 0, single := 0, taken := '\x0c' :: m.taken } cs
  | '\\' :: '\n' :: cs =>
    if cs.isEmpty then none
    else measureMargin { m with continued := if m.continued = 0 then m.columns else m.continued,
                                taken := '\n' :: '\\' :: m.taken } cs
  | '\\' :: _ => none
  | cs => some (m, cs)

def maxBlocks : Nat := 100

def maxBrackets : Nat := 200

def openBlocks (blocks : List (Nat × Nat)) (column single : Nat) :
    Option (List (Nat × Nat) × List Lexeme) :=
  let top := blocks.headD (0, 0)
  if column = top.1 then if single = top.2 then some (blocks, []) else none
  else if top.1 < column then
    if maxBlocks ≤ blocks.length + 1 ∨ single ≤ top.2 then none
    else some ((column, single) :: blocks, [.indent])
  else
    let closed := blocks.takeWhile fun b => column < b.1
    let kept := blocks.drop closed.length
    if kept.headD (0, 0) = (column, single) then some (kept, closed.map fun _ => .dedent) else none

/-- Reads the indentation of a line.  The flag says that the line was skipped whole, because it
holds nothing but a comment. -/
def startLine (p : Place) : Option (Place × List Token × Bool) := do
  let (m, rest) ← measureMargin ⟨0, 0, 0, []⟩ p.rest
  let here := p.move m.taken rest
  match rest with
  | '#' :: _ | '\n' :: _ =>
    let comment := rest.takeWhile fun c => c != '\n'
    return (here.move (comment ++ ['\n']) (rest.drop (comment.length + 1)), [], true)
  | _ =>
    if p.brackets.isEmpty then
      let column := if m.continued = 0 then m.columns else m.continued
      let single := if m.continued = 0 then m.single else m.continued
      let (blocks, marks) ← openBlocks p.blocks column single
      return ({ here with blocks := blocks }, marks.map fun l => here.token l 0, false)
    else return (here, [], false)

def nestBrackets (brackets : List Symbol) (l : Lexeme) : Option (List Symbol) :=
  match l with
  | .symbol s =>
    match s.closing with
    | some c => if maxBrackets ≤ brackets.length then none else some (c :: brackets)
    | none =>
      if s.isClosing then
        match brackets with
        | b :: bs => if b = s then some bs else none
        | [] => none
      else some brackets
  | _ => some brackets

/-- One step inside a line: skips a blank, ends the line, or takes a token.  The flag says whether a
line starts next. -/
def stepLine (p : Place) : Option (Place × Option Token × Bool) :=
  match p.rest with
  | [] => none
  | c :: cs =>
    if c = ' ' ∨ c = '\t' ∨ c = '\x0c' then some (p.move [c] cs, none, false)
    else if c = '#' then
      let comment := cs.takeWhile fun d => d != '\n'
      some (p.move (c :: comment) (cs.drop comment.length), none, false)
    else if c = '\n' then
      some (p.move [c] cs, if p.brackets.isEmpty then some (p.token .newline 1) else none, true)
    else if c = '\\' then
      match cs with
      | '\n' :: d :: ds => some (p.move [c, '\n'] (d :: ds), none, false)
      | _ => none
    else do
      let s ← scanLexeme p.rest
      let brackets ← nestBrackets p.brackets s.value
      some ({ p.move s.taken s.rest with brackets := brackets },
        some (p.token s.value s.taken.length), false)

/-- `tokens` holds the tokens so far, latest first; `fresh` says that a line starts here. -/
def lexFrom : Nat → Bool → Place → List Token → Option (List Token)
  | 0, _, _, _ => none
  | fuel + 1, fresh, p, tokens =>
    if p.rest.isEmpty then
      if p.brackets.isEmpty && fresh then
        some ((p.token .stop 0 :: ((p.blocks.map fun _ => p.token .dedent 0) ++ tokens)).reverse)
      else none
    else if fresh then
      match startLine p with
      | none => none
      | some (p', ts, skipped) => lexFrom fuel skipped p' (ts.reverse ++ tokens)
    else
      match stepLine p with
      | none => none
      | some (p', t, fresh') => lexFrom fuel fresh' p' (t.toList ++ tokens)

/-- The tokens of a text; a last line without a line end is given one. -/
def lex (text : List Char) : Option (List Token) :=
  if text.contains '\x00' then none
  else
    let text := if text.getLast? = some '\n' then text else text ++ ['\n']
    lexFrom (2 * text.length + 2) true ⟨text, 1, 0, [], []⟩ []

end Apidoc.Syntax
