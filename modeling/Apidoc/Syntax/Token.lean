import Apidoc.Number.Binary64

/-!
# Tokens of Python source

A token is a lexeme with the line it starts on and the offsets, in characters, of its start and end.
Line structure is made of tokens too: `newline` ends a logical line, `indent` and `dedent` open and
close a block, and `stop` ends the text.
-/

namespace Apidoc.Syntax

inductive Keyword where
  | False | None | True | And | As | Assert | Async | Await | Break | Class | Continue | Def | Del
  | Elif | Else | Except | Finally | For | From | Global | If | Import | In | Is | Lambda | Nonlocal
  | Not | Or | Pass | Raise | Return | Try | While | With | Yield
  deriving DecidableEq, Repr

def Keyword.table : List (String × Keyword) :=
  [("False", .False), ("None", .None), ("True", .True), ("and", .And), ("as", .As),
   ("assert", .Assert), ("async", .Async), ("await", .Await), ("break", .Break), ("class", .Class),
   ("continue", .Continue), ("def", .Def), ("del", .Del), ("elif", .Elif), ("else", .Else),
   ("except", .Except), ("finally", .Finally), ("for", .For), ("from", .From), ("global", .Global),
   ("if", .If), ("import", .Import), ("in", .In), ("is", .Is), ("lambda", .Lambda),
   ("nonlocal", .Nonlocal), ("not", .Not), ("or", .Or), ("pass", .Pass), ("raise", .Raise),
   ("return", .Return), ("try", .Try), ("while", .While), ("with", .With), ("yield", .Yield)]

inductive Symbol where
  | leftParen | rightParen | leftBracket | rightBracket | leftBrace | rightBrace
  | comma | colon | semicolon | dot | ellipsis | arrow | atSign | colonEqual | equal
  | plus | minus | star | slash | percent | doubleStar | doubleSlash | leftShift | rightShift
  | ampersand | bar | caret | tilde
  | less | greater | lessEqual | greaterEqual | doubleEqual | notEqual
  | plusEqual | minusEqual | starEqual | slashEqual | percentEqual | atEqual | ampersandEqual
  | barEqual | caretEqual | leftShiftEqual | rightShiftEqual | doubleStarEqual | doubleSlashEqual
  deriving DecidableEq, Repr

def Symbol.table : List (String × Symbol) :=
  [("...", .ellipsis), ("**=", .doubleStarEqual), ("//=", .doubleSlashEqual),
   ("<<=", .leftShiftEqual), (">>=", .rightShiftEqual),
   ("!=", .notEqual), ("%=", .percentEqual), ("&=", .ampersandEqual), ("**", .doubleStar),
   ("*=", .starEqual), ("+=", .plusEqual), ("-=", .minusEqual), ("->", .arrow),
   ("//", .doubleSlash), ("/=", .slashEqual), (":=", .colonEqual), ("<<", .leftShift),
   ("<=", .lessEqual), ("==", .doubleEqual), (">=", .greaterEqual), (">>", .rightShift),
   ("@=", .atEqual), ("^=", .caretEqual), ("|=", .barEqual),
   ("(", .leftParen), (")", .rightParen), ("[", .leftBracket), ("]", .rightBracket),
   ("\x7b", .leftBrace), ("\x7d", .rightBrace), (",", .comma), (":", .colon), (";", .semicolon),
   (".", .dot), ("@", .atSign), ("=", .equal), ("+", .plus), ("-", .minus), ("*", .star),
   ("/", .slash), ("%", .percent), ("&", .ampersand), ("|", .bar), ("^", .caret), ("~", .tilde),
   ("<", .less), (">", .greater)]

def Symbol.closing : Symbol → Option Symbol
  | .leftParen => some .rightParen
  | .leftBracket => some .rightBracket
  | .leftBrace => some .rightBrace
  | _ => none

def Symbol.isClosing (s : Symbol) : Bool :=
  s == .rightParen || s == .rightBracket || s == .rightBrace

inductive Numeral where
  | int (value : Nat)
  | float (value : Binary64)
  | imaginary (value : Binary64)
  deriving DecidableEq, Repr

/-- A string literal as written: the letters before its quotes, and the text between them. -/
structure Quote where
  raw : Bool
  bytes : Bool
  formatted : Bool
  /-- the letter before the quotes is a small `u` -/
  unicode : Bool
  body : List Char
  deriving DecidableEq, Repr

inductive Lexeme where
  | name (id : String)
  | keyword (k : Keyword)
  | symbol (s : Symbol)
  | number (n : Numeral)
  | quote (q : Quote)
  | newline
  | indent
  | dedent
  | stop
  deriving DecidableEq, Repr

structure Token where
  lexeme : Lexeme
  line : Nat
  start : Nat
  stop : Nat
  deriving Repr

def Lexeme.isLayout : Lexeme → Bool
  | .newline | .indent | .dedent | .stop => true
  | _ => false

end Apidoc.Syntax
