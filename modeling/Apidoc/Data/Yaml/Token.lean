import Apidoc.Data.Yaml.Scalar

/-!
# Tokens of YAML

The marks and scalars of a document.  Indentation becomes tokens that open and close blocks.  That a
scalar is a key shows only at the colon after it; the marks for it are then put in front of it.

* `Cursor`       a place in the text;
* `Quoted`, `Plain`, `Literal`   the text of the scalars;
* `Scan.step`    one token more;
* `tokens?`      all tokens of a document, none if the text has a place where no token can be.
-/

namespace Apidoc.Yaml

inductive Token where
  | version (major : Nat)
  | handle (name : List Char) (expansion : List Char)
  /-- a directive without a meaning -/
  | directive
  | documentStart
  | documentEnd
  | openSequence
  | openMapping
  | closeBlock
  | openBracket
  | closeBracket
  | openBrace
  | closeBrace
  | item
  | comma
  | key
  | value
  | reference (name : List Char)
  | anchor (name : List Char)
  | tag (handle : Option (List Char)) (rest : List Char)
  | scalar (text : List Char) (plain : Bool)
  deriving DecidableEq, Repr

/-! ## places -/

structure Cursor where
  rest : List Char
  index : Nat
  line : Nat
  column : Nat

namespace Cursor

def next (c : Cursor) : Cursor :=
  match c.rest with
  | [] => c
  | ch :: rest =>
    if isLineEnd ch then ⟨rest, c.index + 1, c.line + 1, 0⟩
    else ⟨rest, c.index + 1, c.line, if ch = '\ufeff' then c.column else c.column + 1⟩

def skip : Nat → Cursor → Cursor
  | 0, c => c
  | n + 1, c => skip n c.next

def moveTo (c : Cursor) (rest : List Char) : Cursor := c.skip (c.rest.length - rest.length)

end Cursor

def startsWith (p : Char → Bool) : List Char → Bool
  | c :: _ => p c
  | [] => false

def endsOr (p : Char → Bool) : List Char → Bool
  | c :: _ => p c
  | [] => true

def isGap (c : Char) : Bool := c == ' ' || c == '\t' || isLineEnd c

def isSpaceOrLineEnd (c : Char) : Bool := c == ' ' || isLineEnd c

def lineEnd (c : Char) : Char := if c = '\u0085' then '\n' else c

def isSeparator (cs : List Char) : Bool :=
  (Text.isPrefix "---".toList cs || Text.isPrefix "...".toList cs) && endsOr isGap (cs.drop 3)

/-- A line end becomes a space, further ones stay. -/
def joinLines (first : Char) (more : List Char) : List Char :=
  if lineEnd first ≠ '\n' then lineEnd first :: more
  else if more.isEmpty then [' '] else more

/-! ## quoted scalars -/

namespace Quoted

/-- The empty lines at the start of a text, and what follows the blanks after them.  `fresh` holds
at the start of a line, where no document may end. -/
def breaks : Bool → List Char → Option (List Char × List Char)
  | _, [] => some ([], [])
  | fresh, c :: cs =>
    if fresh && isSeparator (c :: cs) then none
    else if c = ' ' ∨ c = '\t' then breaks false cs
    else if isLineEnd c then (breaks true cs).map fun p => (lineEnd c :: p.1, p.2)
    else some ([], c :: cs)

/-- Blanks and line ends, as they count in the text. -/
def gap (cs : List Char) : Option (List Char × List Char) :=
  let blanks := cs.takeWhile fun c => c == ' ' || c == '\t'
  match cs.drop blanks.length with
  | [] => none
  | c :: rest =>
    if isLineEnd c then (breaks true rest).map fun p => (joinLines c p.1, p.2)
    else some (blanks, c :: rest)

def letters : List (Char × Nat) :=
  [('0', 0), ('a', 7), ('b', 8), ('t', 9), ('\t', 9), ('n', 10), ('v', 11), ('f', 12), ('r', 13),
   ('e', 0x1b), (' ', 0x20), ('"', 0x22), ('\\', 0x5c), ('/', 0x2f), ('N', 0x85), ('_', 0xa0),
   ('L', 0x2028), ('P', 0x2029)]

def widths : List (Char × Nat) := [('x', 2), ('u', 4), ('U', 8)]

def code? (width : Nat) (cs : List Char) : Option (Nat × List Char) :=
  let ds := cs.take width
  if ds.length = width ∧ ds.all fun c => (Text.hexValue? c).isSome then
    some (Text.hexNat ds, cs.drop width)
  else none

def escape (cs : List Char) : Option (List Nat × List Char) :=
  match cs with
  | [] => none
  | c :: rest =>
    match letters.find? (·.1 == c), widths.find? (·.1 == c) with
    | some e, _ => some ([e.2], rest)
    | none, some w => (code? w.2 rest).map fun p => ([p.1], p.2)
    | none, none =>
      if isLineEnd c then (breaks true rest).map fun p => (p.1.map Char.toNat, p.2) else none

def piece (double : Bool) (c : Char) (cs : List Char) : Option (Option Text.Points × List Char) :=
  if double ∧ c = '"' then some (none, cs)
  else if double ∧ c = '\\' then (escape cs).map fun p => (some p.1, p.2)
  else if !double ∧ c = '\'' then
    match cs with
    | '\'' :: rest => some (some [c.toNat], rest)
    | rest => some (none, rest)
  else if isGap c then (gap (c :: cs)).map fun p => (some (p.1.map Char.toNat), p.2)
  else some (some [c.toNat], cs)

def body (double : Bool) : Nat → List Char → Option (Text.Points × List Char)
  | n + 1, c :: cs =>
    match piece double c cs with
    | some (some points, rest) => (body double n rest).map fun p => (points ++ p.1, p.2)
    | some (none, rest) => some ([], rest)
    | none => none
  | _, _ => none

end Quoted

/-! ## plain scalars -/

namespace Plain

def isFlowMark (c : Char) : Bool := ",[]\x7b\x7d".toList.contains c

/-- Whether a plain scalar ends here; inside brackets their marks end it too. -/
def ends (flow : Bool) : List Char → Bool
  | [] => true
  | c :: cs =>
    isGap c || (c == ':' && endsOr (fun d => isGap d || (flow && isFlowMark d)) cs) ||
      (flow && (isFlowMark c || c == '?'))

def chunk (flow : Bool) : List Char → List Char
  | [] => []
  | c :: cs => if ends flow (c :: cs) then [] else c :: chunk flow cs

/-- The empty lines after a line end, the column of what follows, and what follows; nothing follows
a line that parts documents. -/
def breaks : Bool → Nat → List Char → List Char × Option Nat × List Char
  | _, column, [] => ([], some column, [])
  | fresh, column, c :: cs =>
    if fresh && isSeparator (c :: cs) then ([], none, c :: cs)
    else if c = ' ' then breaks false (column + 1) cs
    else if isLineEnd c then
      let (ls, column, rest) := breaks true 0 cs
      (lineEnd c :: ls, column, rest)
    else ([], some column, c :: cs)

/-- The text, what follows it, and whether that is on a new line. -/
def body (flow : Bool) (indent : Int) : Nat → List Char → List Char × List Char × Bool
  | 0, cs => ([], cs, false)
  | n + 1, cs =>
    let first := chunk flow cs
    let rest := cs.drop first.length
    let blanks := rest.takeWhile (· == ' ')
    if first.isEmpty ∨ cs.head? = some '#' then ([], cs, false)
    else match rest.drop blanks.length with
      | [] => (first, [], false)
      | c :: after =>
        if isLineEnd c then
          match breaks true 0 after with
          | (_, none, rest) => (first, rest, true)
          | (ls, some column, rest) =>
            if rest.head? = some '#' ∨ (!flow ∧ (column : Int) < indent) then (first, rest, true)
            else
              let (more, rest', fresh) := body flow indent n rest
              if more.isEmpty then (first, rest, true)
              else (first ++ joinLines c ls ++ more, rest', fresh)
        else if blanks.isEmpty ∨ c = '#' then (first, c :: after, false)
        else
          let (more, rest', fresh) := body flow indent n (c :: after)
          if more.isEmpty then (first, c :: after, false)
          else (first ++ blanks ++ more, rest', fresh)

end Plain

/-! ## literal and folded scalars -/

namespace Literal

inductive Chomp where
  | strip | clip | keep
  deriving DecidableEq

def chomp? : Char → Option Chomp
  | '+' => some .keep
  | '-' => some .strip
  | _ => none

def width? (c : Char) : Option Nat := if c.isDigit then some (c.toNat - 48) else none

/-- The marks after `|` or `>`: what to do with the end, and the indentation if it is given. -/
def marks (cs : List Char) : Option (Chomp × Option Nat × List Char) :=
  let result : Chomp × Option Nat × List Char :=
    match cs with
    | [] => (.clip, none, [])
    | c :: r =>
      match chomp? c, width? c with
      | some k, _ =>
        match r.head?.bind width? with
        | some w => (k, some w, r.drop 1)
        | none => (k, none, r)
      | none, some w =>
        match r.head?.bind chomp? with
        | some k => (k, some w, r.drop 1)
        | none => (.clip, some w, r)
      | none, none => (.clip, none, c :: r)
  if result.2.1 = some 0 ∨ !(endsOr isSpaceOrLineEnd result.2.2) then none else some result

def restOfLine (cs : List Char) : Option (List Char) :=
  let cs := cs.dropWhile (· == ' ')
  let cs := if cs.head? = some '#' then cs.dropWhile fun c => !isLineEnd c else cs
  match cs with
  | [] => some []
  | c :: rest => if isLineEnd c then some rest else none

/-- Empty lines before a line with `indent` blanks, the column reached, and what follows. -/
def breaks (indent : Nat) : Nat → List Char → List Char × Nat × List Char
  | column, [] => ([], column, [])
  | column, c :: cs =>
    if c = ' ' ∧ column < indent then breaks indent (column + 1) cs
    else if isLineEnd c then
      let (ls, column, rest) := breaks indent 0 cs
      (lineEnd c :: ls, column, rest)
    else ([], column, c :: cs)

/-- Empty lines, the longest run of blanks in front of a line, the column reached, and what follows.
-/
def indentation : Nat → Nat → List Char → List Char × Nat × Nat × List Char
  | longest, column, [] => ([], longest, column, [])
  | longest, column, c :: cs =>
    if c = ' ' then indentation (max longest (column + 1)) (column + 1) cs
    else if isLineEnd c then
      let (ls, longest, column, rest) := indentation longest 0 cs
      (lineEnd c :: ls, longest, column, rest)
    else ([], longest, column, c :: cs)

/-- The lines of the text, the last line end, the empty lines after it, and what follows. -/
def lines (folded : Bool) (indent : Nat) :
    Nat → List Char → List Char → List Char × List Char × List Char × List Char
  | 0, _, cs => ([], [], [], cs)
  | n + 1, before, cs =>
    let line := cs.takeWhile fun c => !isLineEnd c
    match cs.drop line.length with
    | [] => (before ++ line, [], [], [])
    | c :: rest =>
      let (ls, column, rest) := breaks indent 0 rest
      if column = indent ∧ !rest.isEmpty then
        let isText (cs : List Char) := !(startsWith (fun c => c == ' ' || c == '\t') cs)
        let between :=
          if folded ∧ lineEnd c = '\n' ∧ isText cs ∧
            isText rest then if ls.isEmpty then [' '] else []
          else [lineEnd c]
        let (more, last, tail, rest) := lines folded indent n ls rest
        (before ++ line ++ between ++ more, last, tail, rest)
      else (before ++ line, [lineEnd c], ls, rest)

def body (folded : Bool) (outer : Int) (cs : List Char) : Option (List Char × List Char) := do
  let (chomp, width, cs) ← marks cs
  let cs ← restOfLine cs
  let least := max 1 (outer + 1).toNat
  let (indent, ls, column, cs) := match width with
    | some w =>
      let indent := least + w - 1
      let (ls, column, cs) := breaks indent 0 cs
      (indent, ls, column, cs)
    | none =>
      let (ls, longest, column, cs) := indentation 0 0 cs
      (max least longest, ls, column, cs)
  let (text, last, tail, rest) :=
    if column = indent ∧ !cs.isEmpty then lines folded indent cs.length ls cs else ([], [], ls, cs)
  return (text ++ (if chomp = .strip then [] else last) ++
    (if chomp = .keep then tail else []), rest)

end Literal

/-! ## names -/

def isNameChar (c : Char) : Bool := c.isAlphanum || c == '-' || c == '_'

def anchorName (cs : List Char) : Option (List Char × List Char) :=
  let name := cs.takeWhile isNameChar
  let rest := cs.drop name.length
  if name.isEmpty ∨ !(endsOr (fun c => isGap c || "?:,]\x7d%@`".toList.contains c) rest) then none
  else some (name, rest)

def isUriChar (c : Char) : Bool := c.isAlphanum || "-;/?:@&=+$,_.!~*'()[]".toList.contains c

def hexPair? : List Char → Option Nat
  | [a, b] => match Text.hexValue? a, Text.hexValue? b with
    | some x, some y => some (16 * x + y)
    | _, _ => none
  | _ => none

/-- The characters of an address; a percent sign names a byte by two digits. -/
def uriFrom : Nat → List Char → Option (List UInt8 × List Char)
  | 0, cs => some ([], cs)
  | _, [] => some ([], [])
  | n + 1, c :: cs =>
    if c = '%' then do
      let x ← hexPair? (cs.take 2)
      let (bs, rest) ← uriFrom n (cs.drop 2)
      return (x.toUInt8 :: bs, rest)
    else if isUriChar c then (uriFrom n cs).map fun p => (c.toNat.toUInt8 :: p.1, p.2)
    else some ([], c :: cs)

def uri (cs : List Char) : Option (List Char × List Char) := do
  let (bs, rest) ← uriFrom cs.length cs
  let text ← String.fromUTF8? ⟨bs.toArray⟩
  if bs.isEmpty then none else return (text.toList, rest)

def handleName (cs : List Char) : Option (List Char × List Char) :=
  match cs with
  | '!' :: r =>
    if r.head? = some ' ' then some (['!'], r)
    else
      let name := r.takeWhile isNameChar
      match r.drop name.length with
      | '!' :: rest => some ('!' :: name ++ ['!'], rest)
      | _ => none
  | _ => none

def tagToken (cs : List Char) : Option (Token × List Char) := do
  let (token, rest) ← match cs with
    | '!' :: '<' :: r => do
      let (text, rest) ← uri r
      match rest with
      | '>' :: rest => some (Token.tag none text, rest)
      | _ => none
    | '!' :: r =>
      if endsOr isGap r then some (.tag none ['!'], r)
      else if (r.takeWhile fun c => !isSpaceOrLineEnd c).contains '!' then do
        let (name, rest) ← handleName cs
        let (text, rest) ← uri rest
        return (.tag (some name) text, rest)
      else do
        let (text, rest) ← uri r
        return (.tag (some ['!']) text, rest)
    | _ => none
  if endsOr isSpaceOrLineEnd rest then some (token, rest) else none

/-- A directive, from its percent sign on, to the end of its line. -/
def directiveToken (cs : List Char) : Option (Token × List Char) := do
  let cs := cs.drop 1
  let name := cs.takeWhile isNameChar
  let rest := cs.drop name.length
  if name.isEmpty ∨ !(endsOr isSpaceOrLineEnd rest) then none
  else
    let blank (cs : List Char) := cs.dropWhile (· == ' ')
    let (token, rest) ←
      if name = "YAML".toList then do
        let rest := blank rest
        let major := rest.takeWhile Char.isDigit
        match rest.drop major.length with
        | '.' :: r =>
          let minor := r.takeWhile Char.isDigit
          if major.isEmpty ∨ minor.isEmpty then none
          else some (Token.version (digitsNat major), r.drop minor.length)
        | _ => none
      else if name = "TAG".toList then do
        let (handle, rest) ← handleName (blank rest)
        if rest.head? ≠ some ' ' then none
        else
          let (text, rest) ← uri (blank rest)
          return (.handle handle text, rest)
      else some (.directive, rest.dropWhile fun c => !isLineEnd c)
    if endsOr isSpaceOrLineEnd rest then
      let rest ← Literal.restOfLine rest
      return (token, rest)
    else none

/-! ## the scan -/

structure KeyPlace where
  /-- how many tokens there were before it -/
  position : Nat
  /-- it is at the column of a mapping, so that it has to be a key -/
  required : Bool
  index : Nat
  line : Nat
  column : Nat

structure Scan where
  cursor : Cursor
  indent : Int
  /-- the indentations of the blocks around -/
  outer : List Int
  /-- the number of open brackets -/
  depth : Nat
  keyAllowed : Bool
  /-- by depth -/
  places : List (Nat × KeyPlace)
  /-- the latest first -/
  tokens : List Token
  count : Nat

namespace Scan

def emit (s : Scan) (t : Token) : Scan := { s with tokens := t :: s.tokens, count := s.count + 1 }

def insert (s : Scan) (position : Nat) (t : Token) : Scan :=
  let after := s.count - position
  { s with tokens := s.tokens.take after ++ t :: s.tokens.drop after, count := s.count + 1 }

def place? (s : Scan) : Option KeyPlace := (s.places.find? (·.1 == s.depth)).map (·.2)

def dropPlace (s : Scan) : Scan := { s with places := s.places.filter (·.1 != s.depth) }

def forget (s : Scan) : Option Scan :=
  match s.place? with
  | some p => if p.required then none else some s.dropPlace
  | none => some s

def propose (s : Scan) : Option Scan :=
  if s.keyAllowed then do
    let s ← s.forget
    let c := s.cursor
    let p : KeyPlace := ⟨s.count, s.depth == 0 && s.indent == c.column, c.index, c.line, c.column⟩
    return { s with places := (s.depth, p) :: s.places }
  else some s

/-- A key ends on its line and has at most 1024 characters. -/
def expire (s : Scan) : Option Scan :=
  let isStale (p : KeyPlace) := p.line != s.cursor.line || p.index + 1024 < s.cursor.index
  if s.places.any fun p => isStale p.2 && p.2.required then none
  else some { s with places := s.places.filter fun p => !isStale p.2 }

def unwindFrom (column : Int) : List Int → Scan → Scan
  | [], s => s
  | i :: outer, s =>
    if column < s.indent then unwindFrom column outer
      ({ s with indent := i, outer := outer }.emit .closeBlock)
    else s

def unwind (column : Int) (s : Scan) : Scan :=
  if s.depth = 0 then unwindFrom column s.outer s else s

def deepen (s : Scan) (column : Nat) : Option Scan :=
  if s.indent < column then some { s with indent := column, outer := s.indent :: s.outer } else none

def allow (s : Scan) (b : Bool) : Scan := { s with keyAllowed := b }

def skip (s : Scan) (n : Nat) : Scan := { s with cursor := s.cursor.skip n }

def moveTo (s : Scan) (rest : List Char) : Scan := { s with cursor := s.cursor.moveTo rest }

/-- Blanks, comments and line ends, and whether there was a line end. -/
def gap : Bool → List Char → List Char × Bool
  | _, [] => ([], false)
  | comment, c :: cs =>
    if isLineEnd c then ((gap false cs).1, true)
    else if comment then gap true cs
    else if c = ' ' then gap false cs
    else if c = '#' then gap true cs
    else (c :: cs, false)

def skipGap (s : Scan) : Scan :=
  let s := if s.cursor.index = 0 ∧ s.cursor.rest.head? = some '\ufeff' then s.skip 1 else s
  let (rest, crossed) := gap false s.cursor.rest
  let s := s.moveTo rest
  if crossed ∧ s.depth = 0 then s.allow true else s

/-- Ends all blocks, before a directive, a mark between documents or the end. -/
def close (s : Scan) : Option Scan := do
  let s ← (s.unwind (-1)).forget
  return s.allow false

def openFlow (s : Scan) (t : Token) : Option Scan := do
  let s ← s.propose
  return ({ s with depth := s.depth + 1 }.allow true |>.skip 1).emit t

def closeFlow (s : Scan) (t : Token) : Option Scan := do
  let s ← s.forget
  if s.depth =
    0 then none else return ({ s with depth := s.depth - 1 }.allow false |>.skip 1).emit t

def comma (s : Scan) : Option Scan := do
  let s ← (s.allow true).forget
  return (s.skip 1).emit .comma

def openBlock (s : Scan) (t : Token) : Option Scan :=
  if s.depth ≠ 0 then some s
  else if !s.keyAllowed then none
  else match s.deepen s.cursor.column with
    | some s => some (s.emit t)
    | none => some s

def item (s : Scan) : Option Scan := do
  let s ← s.openBlock .openSequence
  let s ← (s.allow true).forget
  return (s.skip 1).emit .item

def key (s : Scan) : Option Scan := do
  let s ← s.openBlock .openMapping
  let s ← (s.allow (s.depth == 0)).forget
  return (s.skip 1).emit .key

/-- A colon: what started at the noted place is a key. -/
def value (s : Scan) : Option Scan :=
  match s.place? with
  | some p =>
    let s := s.dropPlace.insert p.position .key
    let s := if s.depth ≠ 0 then s
      else match s.deepen p.column with
        | some s => s.insert p.position .openMapping
        | none => s
    some (((s.allow false).skip 1).emit .value)
  | none => do
    let s ← s.openBlock .openMapping
    let s ← (s.allow (s.depth == 0)).forget
    return (s.skip 1).emit .value

/-- A scalar, or a mark that may come before one. -/
def content (s : Scan) (t : Token) (rest : List Char) (fresh : Bool) : Option Scan := do
  let s ← s.propose
  return ((s.moveTo rest).allow fresh).emit t

def literal (s : Scan) (folded : Bool) : Option Scan := do
  let s ← (s.allow true).forget
  let (text, rest) ← Literal.body folded s.indent (s.cursor.rest.drop 1)
  return (s.moveTo rest).emit (.scalar text false)

def quoted (s : Scan) (double : Bool) : Option Scan := do
  let cs := s.cursor.rest.drop 1
  let (points, rest) ← Quoted.body double (cs.length + 1) cs
  s.content (.scalar (Text.ofPoints points) false) rest false

def plain (s : Scan) : Option Scan :=
  let cs := s.cursor.rest
  let (text, rest, fresh) := Plain.body (s.depth != 0) (s.indent + 1) (cs.length + 1) cs
  s.content (.scalar text true) rest fresh

def isPlainStart (flow : Bool) : List Char → Bool
  | [] => false
  | c :: cs =>
    !(isGap c || "-?:,[]\x7b\x7d#&*!|>'\"%@`".toList.contains c) ||
      (!(endsOr isGap cs) && (c == '-' || (!flow && (c == '?' || c == ':'))))

def token (s : Scan) (c : Char) (cs : List Char) : Option Scan :=
  let flow := s.depth != 0
  let atStart := s.cursor.column == 0
  if c = '%' ∧ atStart then do
    let s ← s.close
    let (t, rest) ← directiveToken (c :: cs)
    return (s.moveTo rest).emit t
  else if atStart ∧ isSeparator (c :: cs) then do
    let s ← s.close
    return (s.skip 3).emit (if c = '-' then .documentStart else .documentEnd)
  else if c = '[' then s.openFlow .openBracket
  else if c = '\x7b' then s.openFlow .openBrace
  else if c = ']' then s.closeFlow .closeBracket
  else if c = '\x7d' then s.closeFlow .closeBrace
  else if c = ',' then s.comma
  else if c = '-' ∧ endsOr isGap cs then s.item
  else if c = '?' ∧ (flow ∨ endsOr isGap cs) then s.key
  else if c = ':' ∧ (flow ∨ endsOr isGap cs) then s.value
  else if c = '*' then do
    let (name, rest) ← anchorName cs
    s.content (.reference name) rest false
  else if c = '&' then do
    let (name, rest) ← anchorName cs
    s.content (.anchor name) rest false
  else if c = '!' then do
    let (t, rest) ← tagToken (c :: cs)
    s.content t rest false
  else if c = '|' ∧ !flow then s.literal false
  else if c = '>' ∧ !flow then s.literal true
  else if c = '\'' then s.quoted false
  else if c = '"' then s.quoted true
  else if isPlainStart flow (c :: cs) then s.plain
  else none

def run : Nat → Scan → Option Scan
  | 0, _ => none
  | n + 1, s => do
    let s := s.skipGap
    let s ← s.expire
    let s := s.unwind s.cursor.column
    match s.cursor.rest with
    | [] => s.close
    | c :: cs =>
      let s ← s.token c cs
      run n s

def start (cs : List Char) : Scan :=
  { cursor := ⟨cs, 0, 0, 0⟩, indent := -1, outer := [], depth := 0, keyAllowed := true,
    places := [],
    tokens := [], count := 0 }

end Scan

def isAllowed (c : Char) : Bool :=
  let n := c.toNat
  n == 9 || n == 10 || n == 13 || (0x20 ≤ n && n ≤ 0x7e) || n == 0x85 ||
    (0xa0 ≤ n && n != 0xfffe && n != 0xffff)

def tokens? (cs : List Char) : Option (List Token) :=
  if cs.all isAllowed then (Scan.run (cs.length + 2) (Scan.start cs)).map fun s =>
    s.tokens.reverse else none

end Apidoc.Yaml
