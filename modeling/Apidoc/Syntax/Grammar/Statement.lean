import Apidoc.Syntax.Grammar.Pattern

/-!
# The grammar of statements

A line holds simple statements with semicolons between; a compound statement has a head and a block,
and a block is either the rest of the line or the lines indented below it.
-/

namespace Apidoc.Syntax

open Rule

/-! ## simple statements -/

def augmentedOps : Symbol → Option BinaryOp
  | .plusEqual => some .add
  | .minusEqual => some .sub
  | .starEqual => some .mul
  | .atEqual => some .matMul
  | .slashEqual => some .div
  | .percentEqual => some .mod
  | .ampersandEqual => some .bitAnd
  | .barEqual => some .bitOr
  | .caretEqual => some .bitXor
  | .leftShiftEqual => some .shiftLeft
  | .rightShiftEqual => some .shiftRight
  | .doubleStarEqual => some .pow
  | .doubleSlashEqual => some .floorDiv
  | _ => none

/-- More values after an equals sign: all but the last are targets. -/
def assignedFrom (r : Rules) : Nat → List Expr → Rule (List Expr × Expr)
  | 0, _ => fail
  | n + 1, targets => do
    let v ← assignedValue r
    if ← takes .equal then
      check v.isTarget
      assignedFrom r n (targets ++ [v])
    else return (targets, v)

def assigned (r : Rules) (first : Expr) : Rule (List Expr × Expr) :=
  sized fun n => assignedFrom r (n + 1) [first]

inductive ExprStmt where
  | expression (e : Expr)
  | assign (targets : List Expr) (value : Expr)
  | annotated (target hint : Expr) (value : Option Expr)
  | augmented (target : Expr) (op : BinaryOp) (value : Expr)

/-- An expression, or an assignment whose first target it is. -/
def exprStatement (r : Rules) : Rule ExprStmt := do
  if ← aheadKeyword .Yield then
    return .expression (← yieldExpression r)
  let e ← starExpressions r
  match ← peek with
  | .symbol .equal =>
    check e.isTarget
    let _ ← next
    let (targets, value) ← assigned r e
    return .assign targets value
  | .symbol .colon =>
    check e.isSingle
    let _ ← next
    let hint ← r.expression
    let value ← if ← takes .equal then (do return some (← assignedValue r)) else Rule.pure none
    return .annotated e hint value
  | .symbol s =>
    match augmentedOps s with
    | some op =>
      check e.isSingle
      let _ ← next
      return .augmented e op (← assignedValue r)
    | none => return .expression e
  | _ => return .expression e

def dottedPath : Rule String := do
  let parts ← separated .dot identifier
  return ".".intercalate parts

def newName : Rule Unit := do
  if ← takesKeyword .As then
    let _ ← identifier

def importName : Rule Import := do
  keyword .Import
  let names ← separated .comma (do
    let n ← dottedPath
    newName
    return n)
  return ⟨none, names⟩

def importedNames : Rule (List String) := do
  let one : Rule String := do
    let n ← identifier
    newName
    return n
  if ← takes .star then return ["*"]
  if ← takes .leftParen then
    let names ← separated .comma one
    let _ ← takes .comma
    symbol .rightParen
    return names
  let names ← separated .comma one
  check (!(← aheadSymbol .comma))
  return names

/-- Dots before the module name count levels up; the name may then be missing. -/
def importFrom : Rule Import := do
  keyword .From
  let dots ← many (symbol .dot <|> symbol .ellipsis)
  let source ← if ← aheadKeyword .Import then Rule.pure none else (do return some (← dottedPath))
  check (source.isSome || !dots.isEmpty)
  keyword .Import
  return ⟨some (source.getD ""), ← importedNames⟩

def deletion (r : Rules) : Rule Unit := do
  keyword .Del
  let one : Rule Unit := do check (← r.primary).isDeletable
  let _ ← separated .comma one
  let _ ← takes .comma
  match ← peek with
  | .symbol .semicolon | .newline => return ()
  | _ => fail

def simpleStatement (r : Rules) : Rule Stmt := do
  match ← peek with
  | .keyword .Return =>
    let _ ← next
    let _ ← optional (starExpressions r)
    return .simple
  | .keyword .Import => return .importing (← importName)
  | .keyword .From => return .importing (← importFrom)
  | .keyword .Raise =>
    let _ ← next
    let raised ← optional r.expression
    if raised.isSome then
      if ← takesKeyword .From then
        let _ ← r.expression
    return .simple
  | .keyword .Pass | .keyword .Break | .keyword .Continue =>
    let _ ← next
    return .simple
  | .keyword .Del => deletion r; return .simple
  | .keyword .Assert =>
    let _ ← next
    let _ ← r.expression
    if ← takes .comma then
      let _ ← r.expression
    return .simple
  | .keyword .Global | .keyword .Nonlocal =>
    let _ ← next
    let _ ← separated .comma identifier
    return .simple
  | _ =>
    let (s, span) ← spanned (exprStatement r)
    match s with
    | .expression e => return .expression e
    | .assign ts v => return .assign span ts v
    | .annotated t a v => return .annotated span t a v
    | .augmented t o v => return .augmented t o v

def simpleLine (r : Rules) : Rule (List Stmt) := do
  let ss ← separated .semicolon (simpleStatement r)
  let _ ← takes .semicolon
  lexeme .newline
  return ss

/-! ## blocks and compound statements -/

def indentedBlock (r : Rules) : Rule (List Stmt) := do
  lexeme .newline
  lexeme .indent
  let ss ← many1 r.statement
  lexeme .dedent
  return ss.flatten

def block (r : Rules) : Rule (List Stmt) := do
  symbol .colon
  if ← ahead .newline then indentedBlock r else simpleLine r

def elseBlock (r : Rules) : Rule (List Part) := do
  if ← takesKeyword .Else then return [.block (← block r)] else return []

/-- An `elif` is an `if` in the block that is run otherwise. -/
def ifFrom (r : Rules) : Nat → Rule Stmt
  | 0 => fail
  | n + 1 => do
    let _ ← namedExpression r
    let body ← block r
    if ← takesKeyword .Elif then
      let other ← ifFrom r n
      return .compound [.block body, .block [other]]
    else
      let rest ← elseBlock r
      return .compound (.block body :: rest)

def ifStatement (r : Rules) : Rule Stmt := do
  keyword .If
  sized fun n => ifFrom r (n + 1)

def whileStatement (r : Rules) : Rule Stmt := do
  keyword .While
  let _ ← namedExpression r
  let body ← block r
  return .compound (.block body :: (← elseBlock r))

def forStatement (r : Rules) : Rule Stmt := do
  keyword .For
  let _ ← starTargets r
  keyword .In
  let _ ← starExpressions r
  let body ← block r
  return .compound (.block body :: (← elseBlock r))

def withItem (r : Rules) : Rule Unit := do
  let _ ← r.expression
  if ← takesKeyword .As then
    let _ ← starTarget r
    match ← peek with
    | .symbol .comma | .symbol .rightParen | .symbol .colon => return ()
    | _ => fail

/-- The items of a `with` statement may stand in parentheses of their own. -/
def withHead (r : Rules) : Rule Unit :=
  (do
    symbol .leftParen
    let _ ← separated .comma (withItem r)
    let _ ← takes .comma
    symbol .rightParen
    check (← aheadSymbol .colon)) <|>
  (do
    let _ ← separated .comma (withItem r))

def withStatement (r : Rules) : Rule Stmt := do
  keyword .With
  withHead r
  return .compound [.block (← block r)]

/-- one handler; `starred` handlers take groups of errors and always name a type -/
def handler (r : Rules) (starred : Bool) : Rule Part := do
  keyword .Except
  if starred then symbol .star
  let typed ← if starred then Rule.pure true else (do return !(← aheadSymbol .colon))
  if typed then
    let _ ← r.expression
    newName
  return .clause (← block r)

def tryStatement (r : Rules) : Rule Stmt := do
  keyword .Try
  let body ← block r
  let final : Rule (List Part) := do
    if ← takesKeyword .Finally then return [.block (← block r)] else return []
  if ← aheadKeyword .Finally then
    return .compound (.block body :: (← final))
  let starred := (← peekSecond) == .symbol .star
  let handlers ← many1 (handler r starred)
  check (!(← aheadKeyword .Except))
  let other ← elseBlock r
  return .compound (.block body :: handlers ++ other ++ (← final))

def decorators (r : Rules) : Rule (List Expr) :=
  many (do
    symbol .atSign
    let e ← namedExpression r
    lexeme .newline
    return e)

def functionDef (r : Rules) (decorators : List Expr) : Rule Stmt := do
  let ((isAsync, name, signature, returns, body), span) ← spanned (do
    let isAsync ← takesKeyword .Async
    keyword .Def
    let name ← identifier
    symbol .leftParen
    let signature ← parameters r true .rightParen
    let returns ← if ← takes .arrow then (do return some (← r.expression)) else Rule.pure none
    let body ← block r
    return (isAsync, name, signature, returns, body))
  return .function span isAsync name signature returns decorators body

def classDefinition (r : Rules) (decorators : List Expr) : Rule Stmt := do
  let ((name, bases, body), span) ← spanned (do
    keyword .Class
    let name ← identifier
    let (bases, _) ← if ← takes .leftParen then arguments r else Rule.pure ([], [])
    let body ← block r
    return (name, bases, body))
  return .classDef span name bases decorators body

def caseBlock (r : Rules) : Rule Part := do
  word "case"
  patterns r
  if ← takesKeyword .If then
    let _ ← namedExpression r
  return .clause (← block r)

/-- `match` is a word of the grammar only where the whole statement reads so. -/
def matchStatement (r : Rules) : Rule Stmt := do
  word "match"
  let starred ← aheadSymbol .star
  let subject ← tupleTail (← starNamedExpression r) (starNamedExpression r)
  check (!(starred && (match subject with | .starred _ => true | _ => false)))
  symbol .colon
  lexeme .newline
  lexeme .indent
  let cases ← many1 (caseBlock r)
  lexeme .dedent
  return .compound cases

def compoundStatement (r : Rules) : Rule Stmt := do
  match ← peek with
  | .keyword .If => ifStatement r
  | .keyword .While => whileStatement r
  | .keyword .For => forStatement r
  | .keyword .With => withStatement r
  | .keyword .Try => tryStatement r
  | .keyword .Def => functionDef r []
  | .keyword .Class => classDefinition r []
  | .keyword .Async =>
    match ← peekSecond with
    | .keyword .Def => functionDef r []
    | .keyword .For => let _ ← next; forStatement r
    | .keyword .With => let _ ← next; withStatement r
    | _ => fail
  | .symbol .atSign =>
    let ds ← decorators r
    if ← aheadKeyword .Class then classDefinition r ds else functionDef r ds
  | .name "match" => matchStatement r
  | _ => fail

def statement (r : Rules) : Rule (List Stmt) :=
  (do return [← compoundStatement r]) <|> simpleLine r

end Apidoc.Syntax
