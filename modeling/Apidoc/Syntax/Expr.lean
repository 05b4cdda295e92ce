import Apidoc.Number.Binary64
import Apidoc.Text.Quoted

/-!
# Expressions and statements

The tree keeps what a reader of an interface needs.  Expressions are complete, because type hints,
defaults, bases and decorators are shown as text.  Of statements it keeps definitions, assignments,
imports and documentation strings; the others only keep the blocks nested in them.
-/

namespace Apidoc.Syntax

inductive UnaryOp where
  | invert | not | plus | minus
  deriving DecidableEq, Repr

inductive BinaryOp where
  | add | sub | mul | matMul | div | mod | floorDiv | pow | shiftLeft | shiftRight
  | bitOr | bitXor | bitAnd
  deriving DecidableEq, Repr

inductive BoolOp where
  | and | or
  deriving DecidableEq, Repr

inductive CompareOp where
  | eq | ne | lt | le | gt | ge | is | isNot | isIn | notIn
  deriving DecidableEq, Repr

inductive Constant where
  | none
  | true
  | false
  | ellipsis
  | int (value : Nat)
  | float (value : Binary64)
  | imaginary (value : Binary64)
  /-- the code points of a text; `unicode` remembers a small `u` before the quotes -/
  | str (points : Text.Points) (unicode : Bool)
  | bytes (values : List UInt8)
  deriving DecidableEq, Repr

inductive Conversion where
  | str | repr | ascii
  deriving DecidableEq, Repr

inductive BracketKind where
  | list | set | generator
  deriving DecidableEq, Repr

mutual

inductive Expr where
  | name (id : String)
  | constant (value : Constant)
  | attribute (value : Expr) (name : String)
  | call (func : Expr) (args : List Expr) (keywords : List Keyarg)
  | subscript (value : Expr) (index : Expr)
  | slice (lower upper step : Option Expr)
  | starred (value : Expr)
  | tuple (elements : List Expr)
  | list (elements : List Expr)
  | set (elements : List Expr)
  | dict (items : List Item)
  | unary (op : UnaryOp) (operand : Expr)
  | binary (left : Expr) (op : BinaryOp) (right : Expr)
  | boolean (op : BoolOp) (operands : List Expr)
  | compare (first : Expr) (rest : List Comparison)
  | conditional (test body alternative : Expr)
  | lambda (positionalOnly positional : List String) (defaults : List Expr)
      (variadic : Option String) (keywordOnly : List String) (keywordDefaults : List (Option Expr))
      (keywords : Option String) (body : Expr)
  | comprehension (kind : BracketKind) (element : Expr) (clauses : List Clause)
  | dictComprehension (key value : Expr) (clauses : List Clause)
  | await (value : Expr)
  | yield (value : Option Expr)
  | yieldFrom (value : Expr)
  | named (target : String) (value : Expr)
  | formatted (pieces : List Piece)

/-- `name=value`, or `**value` without a name -/
inductive Keyarg where
  | mk (name : Option String) (value : Expr)

/-- `key: value`, or `**value` without a key -/
inductive Item where
  | pair (key value : Expr)
  | spread (value : Expr)

inductive Comparison where
  | mk (op : CompareOp) (operand : Expr)

inductive Clause where
  | mk (isAsync : Bool) (target source : Expr) (conditions : List Expr)

/-- a stretch of text, or a field, of a formatted string -/
inductive Piece where
  | text (points : Text.Points)
  | field (value : Expr) (conversion : Option Conversion) (hasFormat : Bool) (format : List Piece)

end

instance : Inhabited Expr := ⟨.constant .none⟩

structure Parameter where
  name : String
  hint : Option Expr

/-- The parameters of a function by group.  The defaults belong to the last of the positional-only
and positional parameters taken together. -/
structure Signature where
  positionalOnly : List Parameter
  positional : List Parameter
  defaults : List Expr
  variadic : Option Parameter
  keywordOnly : List (Parameter × Option Expr)
  keywords : Option Parameter

structure Span where
  line : Nat
  start : Nat
  stop : Nat
  deriving DecidableEq, Repr

structure Import where
  /-- the module names are taken from, none in a plain import -/
  source : Option String
  names : List String

mutual

inductive Stmt where
  | function (span : Span) (isAsync : Bool) (name : String) (signature : Signature)
      (returns : Option Expr) (decorators : List Expr) (body : List Stmt)
  | classDef (span : Span) (name : String) (bases : List Expr) (decorators : List Expr)
      (body : List Stmt)
  | assign (span : Span) (targets : List Expr) (value : Expr)
  | annotated (span : Span) (target : Expr) (hint : Expr) (value : Option Expr)
  | augmented (target : Expr) (op : BinaryOp) (value : Expr)
  | expression (value : Expr)
  | importing (source : Import)
  /-- another compound statement: its own blocks and those of its handlers or cases, in order -/
  | compound (parts : List Part)
  /-- another simple statement -/
  | simple

/-- a block of a compound statement, or the block of a handler or case, which lies one level deeper
-/
inductive Part where
  | block (body : List Stmt)
  | clause (body : List Stmt)

end

abbrev Module := List Stmt

end Apidoc.Syntax
