import Apidoc.Syntax.Grammar.Basic
import Apidoc.Text.Class
import Apidoc.Text.CharName

/-!
# String literals

What the text between quotes means: escapes, bytes, the fields of formatted strings, and the joining
of adjacent literals.

A formatted string is text with fields in braces.  A field is an expression, an equals sign that
repeats the expression as text, a conversion and a format, each but the first optional; a format is
again text with fields, which may not nest further.
-/

namespace Apidoc.Syntax

open Apidoc.Text

/-! ## escapes -/

def isOctal (c : Char) : Bool := '0' ≤ c && c ≤ '7'

def simpleEscape? : Char → Option Char
  | '\\' => some '\\'
  | '\'' => some '\''
  | '"' => some '"'
  | 'a' => some '\x07'
  | 'b' => some '\x08'
  | 'f' => some '\x0c'
  | 'n' => some '\n'
  | 'r' => some '\r'
  | 't' => some '\t'
  | 'v' => some '\x0b'
  | _ => none

/-- how many hexadecimal digits follow the letter of a numbered escape -/
def escapeWidth? : Char → Option Nat
  | 'x' => some 2
  | 'u' => some 4
  | 'U' => some 8
  | _ => none

/-- the code point that a fixed number of hexadecimal digits names, half of a surrogate pair
included -/
def hexEscape? (width : Nat) (cs : List Char) : Option Nat :=
  let ds := cs.take width
  let n := hexNat ds
  if ds.length = width ∧ ds.all (fun c => (hexValue? c).isSome) ∧ n ≤ 0x10ffff then
    some n
  else none

/-- Reads up to `n` octal digits. -/
def octalDigits : Nat → List Char → List Char
  | 0, _ => []
  | _, [] => []
  | n + 1, c :: cs => if isOctal c then c :: octalDigits n cs else []

def octalValue (cs : List Char) : Nat := cs.foldl (fun n c => 8 * n + (c.toNat - 48)) 0

/-- The text that escapes stand for.  `skip` counts characters already used by an escape; an escape
nobody knows stands for itself. -/
def unescapeFrom : Nat → List Char → Option Points
  | _, [] => some []
  | skip + 1, _ :: cs => unescapeFrom skip cs
  | 0, c :: cs =>
    if c ≠ '\\' then (unescapeFrom 0 cs).map (c.toNat :: ·)
    else match cs with
      | [] => some [92]
      | d :: ds =>
        if d = '\n' then unescapeFrom 1 cs
        else if let some e := simpleEscape? d then (unescapeFrom 1 cs).map (e.toNat :: ·)
        else if isOctal d then
          let os := octalDigits 3 (d :: ds)
          (unescapeFrom os.length cs).map (octalValue os :: ·)
        else if let some w := escapeWidth? d then
          match hexEscape? w ds with
          | some n => (unescapeFrom (w + 1) cs).map (n :: ·)
          | none => none
        else if d = 'N' then
          match ds with
          | '\x7b' :: es =>
            let name := es.takeWhile fun c => c != '\x7d'
            if name.length < es.length then
              match charNamed? name with
              | some n => (unescapeFrom (name.length + 3) cs).map (n :: ·)
              | none => none
            else none
          | _ => none
        else (unescapeFrom 0 cs).map (c.toNat :: ·)

def unescape (cs : List Char) : Option Points := unescapeFrom 0 cs

/-- The bytes that escapes stand for; only ASCII may be written out. -/
def unescapeBytesFrom : Nat → List Char → Option (List UInt8)
  | _, [] => some []
  | skip + 1, _ :: cs => unescapeBytesFrom skip cs
  | 0, c :: cs =>
    if 128 ≤ c.toNat then none
    else if c ≠ '\\' then (unescapeBytesFrom 0 cs).map (c.toNat.toUInt8 :: ·)
    else match cs with
      | [] => some [92]
      | d :: ds =>
        if d = '\n' then unescapeBytesFrom 1 cs
        else if let some e := simpleEscape? d then
          (unescapeBytesFrom 1 cs).map (e.toNat.toUInt8 :: ·)
        else if isOctal d then
          let os := octalDigits 3 (d :: ds)
          (unescapeBytesFrom os.length cs).map ((octalValue os).toUInt8 :: ·)
        else if d = 'x' then
          match hexEscape? 2 ds with
          | some n => (unescapeBytesFrom 3 cs).map (n.toUInt8 :: ·)
          | none => none
        else (unescapeBytesFrom 0 cs).map (92 :: ·)

def rawBytes : List Char → Option (List UInt8)
  | [] => some []
  | c :: cs => if 128 ≤ c.toNat then none else (rawBytes cs).map (c.toNat.toUInt8 :: ·)

/-! ## fields of formatted strings -/

def isBrace (c : Char) : Bool := c == '\x7b' || c == '\x7d'

/-- Text up to a brace that opens a field or, inside a format, closes one.  At the top a doubled
brace stands for itself: it ends the stretch of text, and the flag says that more text follows.
`keep` counts characters that are text whatever they are. -/
def textPart (raw top : Bool) : Nat → List Char → Option (List Char × Bool × List Char)
  | _, [] => some ([], false, [])
  | keep + 1, c :: cs => (textPart raw top keep cs).map fun p => (c :: p.1, p.2)
  | 0, c :: cs =>
    if isBrace c then
      if top then
        if cs.head? = some c then some ([c], true, cs.drop 1)
        else if c = '\x7d' then none
        else some ([], false, c :: cs)
      else some ([], false, c :: cs)
    else if c = '\\' && !raw then
      match cs with
      | [] => some ([c], false, [])
      | d :: ds =>
        let keep? : Option Nat :=
          if isBrace d then some 0
          else if d = 'N' then
            -- the braces around the name of a character are no field
            match ds with
            | '\x7b' :: es =>
              let name := es.takeWhile fun e => e != '\x7d'
              if name.length < es.length then some (name.length + 3) else none
            | _ => none
          else some 1
        match keep? with
        | none => none
        | some k => (textPart raw top k cs).map fun p => (c :: p.1, p.2)
    else (textPart raw top 0 cs).map fun p => (c :: p.1, p.2)

def closerOf : Char → Option Char
  | '(' => some ')'
  | '[' => some ']'
  | '\x7b' => some '\x7d'
  | _ => none

/-- The text of the expression in a field, up to the sign that ends it.  `inside` is the quote of a
string literal the reader is in, and whether it is tripled; `stack` holds the brackets awaited;
`keep` counts characters already looked at. -/
def fieldText (inside : Option (Char × Bool)) (stack : List Char) :
    Nat → List Char → Option (List Char × List Char)
  | _, [] => none
  | keep + 1, c :: cs => (fieldText inside stack keep cs).map fun p => (c :: p.1, p.2)
  | 0, c :: cs =>
    let take (inside : Option (Char × Bool)) (stack : List Char) (keep : Nat) :=
      (fieldText inside stack keep cs).map fun p => (c :: p.1, p.2)
    if c = '\\' then none
    else match inside with
      | some (q, triple) =>
        if c = q then
          if triple then if cs.take 2 = [q, q] then take none stack 2 else take inside stack 0
          else take none stack 0
        else take inside stack 0
      | none =>
        if c = '\'' ∨ c = '"' then
          if cs.take 2 = [c, c] then take (some (c, true)) stack 2 else take
            (some (c, false)) stack 0
        else if let some close := closerOf c then
          if 200 ≤ stack.length then none else take none (close :: stack) 0
        else if c = '#' then none
        else if stack.isEmpty && ['!', ':', '\x7d', '=', '<', '>'].contains c then
          if ['!', '=', '<', '>'].contains c && cs.head? == some '=' then take none stack 1
          else if c = '<' ∨ c = '>' then take none stack 0
          else some ([], c :: cs)
        else if c = ')' ∨ c = ']' ∨ c = '\x7d' then
          match stack with
          | top :: rest => if top = c then take none rest 0 else none
          | [] => none
        else take none stack 0

def isLayoutBlank (c : Char) : Bool := c == ' ' || c == '\t' || c == '\n' || c == '\x0c'

def isAsciiBlank (c : Char) : Bool := isLayoutBlank c || c == '\r' || c == '\x0b'

structure Pieces where
  done : List Piece
  text : Points

def Pieces.addText (p : Pieces) (cs : Points) : Pieces := { p with text := p.text ++ cs }

def Pieces.flush (p : Pieces) : Pieces :=
  if p.text.isEmpty then p else ⟨.text p.text :: p.done, []⟩

def Pieces.addField (p : Pieces) (f : Piece) : Pieces := ⟨f :: p.flush.done, []⟩

def Pieces.toList (p : Pieces) : List Piece := p.flush.done.reverse

def conversionPart : List Char → Option (Option Conversion × List Char)
  | '!' :: c :: d :: cs =>
    if d = '\x7d' ∨ d = ':' then
      match c with
      | 's' => some (some .str, d :: cs)
      | 'r' => some (some .repr, d :: cs)
      | 'a' => some (some .ascii, d :: cs)
      | _ => none
    else none
  | '!' :: _ => none
  | cs => some (none, cs)

/-- The pieces of a formatted string, up to its end or, inside a format, up to the closing brace. -/
def formattedFrom (field : List Char → Option Expr) (raw : Bool) :
    Nat → Nat → Pieces → List Char → Option (Pieces × List Char)
  | 0, _, _, _ => none
  | fuel + 1, depth, acc, cs => do
    let (written, more, rest) ← textPart raw (depth == 0) 0 cs
    let acc := acc.addText (← if raw then some (points written) else unescape written)
    if more then formattedFrom field raw fuel depth acc rest
    else match rest with
      | '\x7b' :: rest =>
        if 2 ≤ depth then none
        else
          let (source, rest) ← fieldText none [] 0 rest
          if source.all isLayoutBlank then none
          else
            let value ← field source
            let (shown, rest) := match rest with
              | '=' :: r =>
                let blanks := r.takeWhile isAsciiBlank
                (some (source ++ '=' :: blanks), r.drop blanks.length)
              | r => (none, r)
            let (conversion, rest) ← conversionPart rest
            let (format, rest) ← match rest with
              | ':' :: r =>
                if r.isEmpty then none
                else (formattedFrom field raw fuel (depth + 1) ⟨[], []⟩ r).map fun p =>
                  (some p.1.toList, p.2)
              | r => some (none, r)
            match rest with
            | '\x7d' :: rest =>
              let conversion :=
                if shown.isSome && format.isNone && conversion.isNone then some
                  .repr else conversion
              let acc := acc.addText (points (shown.getD []))
              formattedFrom field raw fuel depth
                (acc.addField (.field value conversion format.isSome (format.getD []))) rest
            | _ => none
      | _ => if depth != 0 && rest.isEmpty then none else some (acc, rest)

/-! ## adjacent literals -/

inductive Joined where
  | text (pieces : Pieces) (formatted : Bool)
  | bytes (values : List UInt8)

def joinQuote (field : List Char → Option Expr) (acc : Option Joined) (q : Quote) : Option Joined :=
  if q.bytes then do
    let bs ← if q.raw then rawBytes q.body else unescapeBytesFrom 0 q.body
    match acc with
    | none => some (.bytes bs)
    | some (.bytes done) => some (.bytes (done ++ bs))
    | some (.text _ _) => none
  else
    let start : Option (Pieces × Bool) := match acc with
      | none => some (⟨[], []⟩, false)
      | some (.text p f) => some (p, f)
      | some (.bytes _) => none
    match start with
    | none => none
    | some (p, f) =>
      if q.formatted then
        (formattedFrom field q.raw (q.body.length + 1) 0 p q.body).map fun r => .text r.1 true
      else
        (if q.raw then some (points q.body) else unescape q.body).map fun cs => .text
          (p.addText cs) f

def joinQuotes (field : List Char → Option Expr) : Option Joined → List Quote → Option Joined
  | acc, [] => acc
  | acc, q :: qs =>
    match joinQuote field acc q with
    | none => none
    | some j => joinQuotes field (some j) qs

/-- Adjacent literals make one; text and bytes do not mix, and one formatted literal makes all of
them formatted. -/
def concatenate (field : List Char → Option Expr) (qs : List Quote) : Option Expr :=
  match joinQuotes field none qs with
  | none => none
  | some (.bytes bs) => some (.constant (.bytes bs))
  | some (.text p false) =>
    some (.constant (.str p.text ((qs.head?.map (·.unicode)).getD false)))
  | some (.text p true) => some (.formatted p.toList)

end Apidoc.Syntax
