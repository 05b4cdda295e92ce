import Apidoc.Syntax.Grammar.Literal

/-!
# The grammar of expressions

One rule per level of binding strength, from `expression` down to `atom`.  Targets of assignments,
loops and deletions are read as expressions and then tested with `Expr.isTarget`.
-/

namespace Apidoc.Syntax

open Rule

/-! ## targets -/

mutual

/-- What may stand to the left of an equals sign, or after `for`. -/
def Expr.isTarget : Expr → Bool
  | .name _ | .attribute _ _ | .subscript _ _ => true
  | .starred e => Expr.isPlainTarget e
  | .tuple es | .list es => Expr.areTargets es
  | _ => false

def Expr.isPlainTarget : Expr → Bool
  | .name _ | .attribute _ _ | .subscript _ _ => true
  | .tuple es | .list es => Expr.areTargets es
  | _ => false

def Expr.areTargets : List Expr → Bool
  | [] => true
  | e :: es => Expr.isTarget e && Expr.areTargets es

end

mutual

def Expr.isDeletable : Expr → Bool
  | .name _ | .attribute _ _ | .subscript _ _ => true
  | .tuple es | .list es => Expr.areDeletable es
  | _ => false

def Expr.areDeletable : List Expr → Bool
  | [] => true
  | e :: es => Expr.isDeletable e && Expr.areDeletable es

end

/-- A single name, attribute or subscript: what an augmented or annotated assignment may bind. -/
def Expr.isSingle : Expr → Bool
  | .name _ | .attribute _ _ | .subscript _ _ => true
  | _ => false

/-! ## small rules over the record -/

/-- `name := value`, or an expression that no `:=` follows -/
def namedExpression (r : Rules) : Rule Expr := do
  match ← peek, ← peekSecond with
  | .name id, .symbol .colonEqual =>
    let _ ← next
    let _ ← next
    return .named id (← r.expression)
  | _, _ =>
    let e ← r.expression
    check (!(← aheadSymbol .colonEqual))
    return e

def starExpression (r : Rules) : Rule Expr := do
  if ← takes .star then return .starred (← r.bitwiseOr) else r.expression

def starNamedExpression (r : Rules) : Rule Expr := do
  if ← takes .star then return .starred (← r.bitwiseOr) else namedExpression r

/-- elements with commas between, the first one given; a comma alone makes a tuple -/
def tupleTail (first : Expr) (p : Rule Expr) : Rule Expr := do
  if ← aheadSymbol .comma then
    let rest ← many (do symbol .comma; p)
    let _ ← takes .comma
    return .tuple (first :: rest)
  else return first

def starExpressions (r : Rules) : Rule Expr := do
  tupleTail (← starExpression r) (starExpression r)

def yieldExpression (r : Rules) : Rule Expr := do
  keyword .Yield
  if ← takesKeyword .From then return .yieldFrom (← r.expression)
  else return .yield (← optional (starExpressions r))

def assignedValue (r : Rules) : Rule Expr := do
  if ← aheadKeyword .Yield then yieldExpression r else starExpressions r

/-- targets after `for`: no operator can stand in them -/
def starTargets (r : Rules) : Rule Expr := do
  let one : Rule Expr := do
    let e ← if ← takes .star then (do return Expr.starred (← r.primary)) else r.primary
    check e.isTarget
    return e
  tupleTail (← one) one

def starTarget (r : Rules) : Rule Expr := do
  let e ← if ← takes .star then (do return Expr.starred (← r.primary)) else r.primary
  check e.isTarget
  return e

/-! ## comprehensions -/

def comprehensionClause (r : Rules) : Rule Clause := do
  let isAsync ← takesKeyword .Async
  keyword .For
  let target ← starTargets r
  keyword .In
  let source ← r.disjunction
  let conditions ← many (do keyword .If; r.disjunction)
  return .mk isAsync target source conditions

def clauseAhead : Rule Bool := do
  if ← aheadKeyword .For then return true
  else return (← aheadKeyword .Async) && (← peekSecond) == .keyword .For

/-- One or more clauses; once a clause has begun it has to be complete. -/
def clausesFrom (r : Rules) : Nat → Rule (List Clause)
  | 0 => Rule.pure []
  | n + 1 => do
    if ← clauseAhead then
      let c ← comprehensionClause r
      let cs ← clausesFrom r n
      return c :: cs
    else return []

def clauses (r : Rules) : Rule (List Clause) := sized (clausesFrom r)

/-! ## displays -/

/-- elements up to a closing bracket that is not taken, a trailing comma allowed -/
def elementsAfter (r : Rules) (first : Expr) : Rule (List Expr) := do
  let rest ← many (do symbol .comma; starNamedExpression r)
  let _ ← takes .comma
  return first :: rest

def parenthesized (r : Rules) : Rule Expr := do
  if ← takes .rightParen then return .tuple []
  if ← aheadKeyword .Yield then
    let e ← yieldExpression r
    symbol .rightParen
    return e
  let starred ← aheadSymbol .star
  let first ← starNamedExpression r
  if ← aheadSymbol .comma then
    let es ← elementsAfter r first
    symbol .rightParen
    return .tuple es
  check (!starred)
  if ← clauseAhead then
    let cs ← clauses r
    symbol .rightParen
    return .comprehension .generator first cs
  symbol .rightParen
  return first

def bracketed (r : Rules) : Rule Expr := do
  if ← takes .rightBracket then return .list []
  let starred ← aheadSymbol .star
  let first ← starNamedExpression r
  if ← clauseAhead then
    check (!starred)
    let cs ← clauses r
    symbol .rightBracket
    return .comprehension .list first cs
  let es ← elementsAfter r first
  symbol .rightBracket
  return .list es

def dictItem (r : Rules) : Rule Item := do
  if ← takes .doubleStar then return .spread (← r.bitwiseOr)
  let k ← r.expression
  symbol .colon
  return .pair k (← r.expression)

def dictAfter (r : Rules) (first : Item) : Rule Expr := do
  let rest ← many (do symbol .comma; dictItem r)
  let _ ← takes .comma
  symbol .rightBrace
  return .dict (first :: rest)

def braced (r : Rules) : Rule Expr := do
  if ← takes .rightBrace then return .dict []
  if ← aheadSymbol .doubleStar then
    dictAfter r (← dictItem r)
  else
    let starred ← aheadSymbol .star
    let named := (← peekSecond) == .symbol .colonEqual
    let first ← starNamedExpression r
    if ← aheadSymbol .colon then
      check (!starred && !named)
      let _ ← next
      let value ← r.expression
      if ← clauseAhead then
        let cs ← clauses r
        symbol .rightBrace
        return .dictComprehension first value cs
      dictAfter r (.pair first value)
    else if ← clauseAhead then
      check (!starred)
      let cs ← clauses r
      symbol .rightBrace
      return .comprehension .set first cs
    else
      let es ← elementsAfter r first
      symbol .rightBrace
      return .set es

/-! ## atoms -/

def quote : Rule Quote := do
  match (← next).lexeme with
  | .quote q => return q
  | _ => fail

def strings (r : Rules) : Rule Expr := do
  let qs ← many1 quote
  match concatenate r.field qs with
  | some e => return e
  | none => fail

def atom (r : Rules) : Rule Expr := do
  match ← peek with
  | .quote _ => strings r
  | _ =>
    match (← next).lexeme with
    | .name id => return .name id
    | .number (.int n) => return .constant (.int n)
    | .number (.float x) => return .constant (.float x)
    | .number (.imaginary x) => return .constant (.imaginary x)
    | .keyword .True => return .constant .true
    | .keyword .False => return .constant .false
    | .keyword .None => return .constant .none
    | .symbol .ellipsis => return .constant .ellipsis
    | .symbol .leftParen => parenthesized r
    | .symbol .leftBracket => bracketed r
    | .symbol .leftBrace => braced r
    | _ => fail

/-! ## calls and subscripts -/

inductive Arg where
  | positional (e : Expr)
  | starred (e : Expr)
  | named (name : String) (e : Expr)
  | spread (e : Expr)

def argument (r : Rules) : Rule Arg := do
  if ← takes .star then return .starred (← r.expression)
  if ← takes .doubleStar then return .spread (← r.expression)
  match ← peek, ← peekSecond with
  | .name id, .symbol .equal =>
    let _ ← next
    let _ ← next
    return .named id (← r.expression)
  | _, _ => return .positional (← namedExpression r)

/-- Positional arguments come before named ones, and starred ones before any spread. -/
def argsInOrder : (named spread : Bool) → List Arg → Bool
  | _, _, [] => true
  | named, spread, .positional _ :: as => !named && !spread && argsInOrder named spread as
  | named, spread, .starred _ :: as => !spread && argsInOrder named spread as
  | _, spread, .named _ _ :: as => argsInOrder true spread as
  | named, _, .spread _ :: as => argsInOrder named true as

def Arg.positional? : Arg → Option Expr
  | .positional e => some e
  | .starred e => some (.starred e)
  | _ => none

def Arg.keyword? : Arg → Option Keyarg
  | .named n e => some (.mk (some n) e)
  | .spread e => some (.mk none e)
  | _ => none

/-- arguments after the first one, up to the closing parenthesis, which is taken -/
def argumentsAfter (r : Rules) (first : Arg) : Rule (List Expr × List Keyarg) := do
  let rest ← many (do symbol .comma; argument r)
  let _ ← takes .comma
  symbol .rightParen
  let as := first :: rest
  check (argsInOrder false false as)
  return (as.filterMap Arg.positional?, as.filterMap Arg.keyword?)

/-- the arguments of a class: as in a call, but without a bare generator -/
def arguments (r : Rules) : Rule (List Expr × List Keyarg) := do
  if ← takes .rightParen then return ([], []) else argumentsAfter r (← argument r)

/-- A call whose only argument is a generator needs no parentheses of its own. -/
def callArguments (r : Rules) : Rule (List Expr × List Keyarg) := do
  if ← takes .rightParen then return ([], [])
  let first ← argument r
  match first, ← clauseAhead with
  | .positional e, true =>
    let cs ← clauses r
    symbol .rightParen
    return ([.comprehension .generator e cs], [])
  | _, _ => argumentsAfter r first

/-- `lower:upper:step` with every part optional, or a value -/
def sliceItem (r : Rules) : Rule Expr := do
  let bounded (lower : Option Expr) : Rule Expr := do
    symbol .colon
    let part : Rule (Option Expr) := optional r.expression
    let upper ← part
    let step ← if ← takes .colon then part else Rule.pure none
    return .slice lower upper step
  if ← aheadSymbol .colon then bounded none
  else
    match ← peek, ← peekSecond with
    | .name id, .symbol .colonEqual =>
      let _ ← next
      let _ ← next
      return .named id (← r.expression)
    | _, _ =>
      let e ← r.expression
      if ← aheadSymbol .colon then bounded (some e)
      else
        check (!(← aheadSymbol .colonEqual))
        return e

def sliceElement (r : Rules) : Rule Expr := do
  if ← takes .star then return .starred (← r.expression) else sliceItem r

/-- what stands between square brackets after a value; several items make a tuple, and so does a
star -/
def subscriptIndex (r : Rules) : Rule Expr := do
  let starred ← aheadSymbol .star
  let first ← sliceElement r
  if ← aheadSymbol .comma then
    let rest ← many (do symbol .comma; sliceElement r)
    let _ ← takes .comma
    symbol .rightBracket
    return .tuple (first :: rest)
  symbol .rightBracket
  return if starred then .tuple [first] else first

def trailersFrom (r : Rules) : Nat → Expr → Rule Expr
  | 0, e => Rule.pure e
  | n + 1, e => do
    match ← peek with
    | .symbol .dot =>
      let _ ← next
      trailersFrom r n (.attribute e (← identifier))
    | .symbol .leftParen =>
      let _ ← next
      let (args, keys) ← callArguments r
      trailersFrom r n (.call e args keys)
    | .symbol .leftBracket =>
      let _ ← next
      trailersFrom r n (.subscript e (← subscriptIndex r))
    | _ => return e

def primary (r : Rules) : Rule Expr := do
  let a ← atom r
  sized fun n => trailersFrom r n a

/-! ## operators -/

def awaitPrimary (r : Rules) : Rule Expr := do
  if ← takesKeyword .Await then return .await (← primary r) else primary r

def power (r : Rules) : Rule Expr := do
  let base ← awaitPrimary r
  if ← takes .doubleStar then return .binary base .pow (← r.factor) else return base

def factor (r : Rules) : Rule Expr := do
  match ← peek with
  | .symbol .plus => let _ ← next; return .unary .plus (← r.factor)
  | .symbol .minus => let _ ← next; return .unary .minus (← r.factor)
  | .symbol .tilde => let _ ← next; return .unary .invert (← r.factor)
  | _ => power r

def operator (table : Symbol → Option BinaryOp) : Rule (Option BinaryOp) := do
  match ← peek with
  | .symbol s =>
    match table s with
    | some o => let _ ← next; return some o
    | none => return none
  | _ => return none

def binaryLevel (table : Symbol → Option BinaryOp) (operand : Rule Expr) : Rule Expr :=
  chain (operator table) operand .binary

def termOps : Symbol → Option BinaryOp
  | .star => some .mul
  | .slash => some .div
  | .doubleSlash => some .floorDiv
  | .percent => some .mod
  | .atSign => some .matMul
  | _ => none

def sumOps : Symbol → Option BinaryOp
  | .plus => some .add
  | .minus => some .sub
  | _ => none

def shiftOps : Symbol → Option BinaryOp
  | .leftShift => some .shiftLeft
  | .rightShift => some .shiftRight
  | _ => none

def andOps : Symbol → Option BinaryOp
  | .ampersand => some .bitAnd
  | _ => none

def xorOps : Symbol → Option BinaryOp
  | .caret => some .bitXor
  | _ => none

def orOps : Symbol → Option BinaryOp
  | .bar => some .bitOr
  | _ => none

def bitwiseOr (r : Rules) : Rule Expr :=
  binaryLevel orOps (binaryLevel xorOps (binaryLevel andOps (binaryLevel shiftOps
    (binaryLevel sumOps (binaryLevel termOps (factor r))))))

def comparisonOp : Rule (Option CompareOp) := do
  match ← peek with
  | .symbol .doubleEqual => let _ ← next; return some .eq
  | .symbol .notEqual => let _ ← next; return some .ne
  | .symbol .less => let _ ← next; return some .lt
  | .symbol .lessEqual => let _ ← next; return some .le
  | .symbol .greater => let _ ← next; return some .gt
  | .symbol .greaterEqual => let _ ← next; return some .ge
  | .keyword .In => let _ ← next; return some .isIn
  | .keyword .Not =>
    if (← peekSecond) == .keyword .In then
      let _ ← next
      let _ ← next
      return some .notIn
    else return none
  | .keyword .Is =>
    let _ ← next
    if ← takesKeyword .Not then return some .isNot else return some .is
  | _ => return none

def comparisonsFrom (r : Rules) : Nat → Rule (List Comparison)
  | 0 => Rule.pure []
  | n + 1 => do
    match ← comparisonOp with
    | none => return []
    | some op =>
      let e ← bitwiseOr r
      return .mk op e :: (← comparisonsFrom r n)

def comparison (r : Rules) : Rule Expr := do
  let first ← bitwiseOr r
  let rest ← sized (comparisonsFrom r)
  return if rest.isEmpty then first else .compare first rest

def inversion (r : Rules) : Rule Expr := do
  if ← takesKeyword .Not then return .unary .not (← r.inversion) else comparison r

/-- operands joined by one word; a single operand stays as it is -/
def booleanLevel (k : Keyword) (op : BoolOp) (operand : Rule Expr) : Rule Expr := do
  let first ← operand
  if ← aheadKeyword k then
    let rest ← many1 (do keyword k; operand)
    return .boolean op (first :: rest)
  else return first

def disjunction (r : Rules) : Rule Expr :=
  booleanLevel .Or .or (booleanLevel .And .and (inversion r))

/-! ## lambdas and parameters -/

inductive ParamItem where
  | plain (p : Parameter) (default : Option Expr)
  | slash
  | star (p : Option Parameter)
  | doubleStar (p : Parameter)

/-- `typed` allows type hints -/
def paramItem (r : Rules) (typed : Bool) : Rule ParamItem := do
  let hint : Rule (Option Expr) := do
    if typed then if ← takes .colon then return some (← r.expression) else return none
    else return none
  let starHint : Rule (Option Expr) := do
    if typed then if ← takes .colon then return some (← starExpression r) else return none
    else return none
  if ← takes .slash then return .slash
  if ← takes .doubleStar then
    let name ← identifier
    return .doubleStar ⟨name, ← hint⟩
  if ← takes .star then
    match ← peek with
    | .name name =>
      let _ ← next
      return .star (some ⟨name, ← starHint⟩)
    | _ => return .star none
  let name ← identifier
  let note ← hint
  let default ← if ← takes .equal then (do return some (← r.expression)) else Rule.pure none
  return .plain ⟨name, note⟩ default

/-- Defaults, once begun, go on to the last positional parameter. -/
def defaultsInOrder : Bool → List (Parameter × Option Expr) → Bool
  | _, [] => true
  | begun, (_, d) :: ps => (d.isSome || !begun) && defaultsInOrder d.isSome ps

def plainItems : List ParamItem → List (Parameter × Option Expr) × List ParamItem
  | .plain p d :: rest => let (ps, r) := plainItems rest; ((p, d) :: ps, r)
  | rest => ([], rest)

/-- Puts the entries of a parameter list into groups, if they come in an order that makes sense. -/
def signatureOf (items : List ParamItem) : Option Signature :=
  let (before, rest) := plainItems items
  let split : Option (List (Parameter × Option Expr) × List (Parameter × Option Expr) ×
      List ParamItem) :=
    match rest with
    | .slash :: rest' =>
      if before.isEmpty then none
      else let (after, rest'') := plainItems rest'; some (before, after, rest'')
    | _ => some ([], before, rest)
  match split with
  | none => none
  | some (only, ordinary, rest) =>
    if !defaultsInOrder false (only ++ ordinary) then none
    else
      let make (variadic : Option Parameter) (keys : List (Parameter × Option Expr))
          (spread : Option Parameter) : Signature :=
        { positionalOnly := only.map (·.1), positional := ordinary.map (·.1),
          defaults := (only ++ ordinary).filterMap (·.2), variadic := variadic,
          keywordOnly := keys, keywords := spread }
      match rest with
      | [] => some (make none [] none)
      | [.doubleStar p] => some (make none [] (some p))
      | .star v :: rest' =>
        let (keys, rest'') := plainItems rest'
        if v.isNone && keys.isEmpty then none
        else match rest'' with
          | [] => some (make v keys none)
          | [.doubleStar p] => some (make v keys (some p))
          | _ => none
      | _ => none

/-- parameters up to a closing symbol, which is taken; a trailing comma is allowed after an entry -/
def parameters (r : Rules) (typed : Bool) (close : Symbol) : Rule Signature := do
  if ← takes close then
    match signatureOf [] with
    | some s => return s
    | none => fail
  let items ← separated .comma (paramItem r typed)
  let _ ← takes .comma
  symbol close
  match signatureOf items with
  | some s => return s
  | none => fail

def lambda (r : Rules) : Rule Expr := do
  keyword .Lambda
  let s ← parameters r false .colon
  let body ← r.expression
  return .lambda (s.positionalOnly.map (·.name)) (s.positional.map (·.name)) s.defaults
    (s.variadic.map (·.name)) (s.keywordOnly.map (·.1.name)) (s.keywordOnly.map (·.2))
    (s.keywords.map (·.name)) body

def expression (r : Rules) : Rule Expr := do
  if ← aheadKeyword .Lambda then lambda r
  else
    let body ← disjunction r
    if ← takesKeyword .If then
      let test ← disjunction r
      keyword .Else
      return .conditional test body (← r.expression)
    else return body

end Apidoc.Syntax
