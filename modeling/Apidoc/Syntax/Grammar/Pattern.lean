import Apidoc.Syntax.Grammar.Expression

/-!
# The grammar of case patterns

Patterns bind names but define nothing that an interface shows, so the rules only decide whether a
pattern is well formed.
-/

namespace Apidoc.Syntax

open Rule

/-- A rule that sees ahead whether one of the symbols follows. -/
def notFollowedBy (ss : List Symbol) : Rule Unit := do
  match ← peek with
  | .symbol s => check (!ss.contains s)
  | _ => return ()

def dottedName (least : Nat) : Rule Unit := do
  let _ ← identifier
  let dots ← many (do symbol .dot; identifier)
  check (least ≤ dots.length)

def captureTarget : Rule Unit := do
  let id ← identifier
  check (id != "_")
  notFollowedBy [.dot, .leftParen, .equal]

def numberLexeme : Rule Numeral := do
  match (← next).lexeme with
  | .number n => return n
  | _ => fail

def Numeral.isImaginary : Numeral → Bool
  | .imaginary _ => true
  | _ => false

def signedNumber : Rule Unit := do
  let _ ← takes .minus
  let n ← numberLexeme
  match ← peek with
  | .symbol .plus | .symbol .minus =>
    check !n.isImaginary
    let _ ← next
    let m ← numberLexeme
    check m.isImaginary
  | _ => return ()

def literalPattern (r : Rules) : Rule Unit := do
  match ← peek with
  | .number _ => signedNumber
  | .symbol .minus => signedNumber
  | .quote _ => let _ ← strings r; return ()
  | .keyword .None => let _ ← next; return ()
  | .keyword .True => let _ ← next; return ()
  | .keyword .False => let _ ← next; return ()
  | _ => fail

/-- a star with a name or underscore after it, or a pattern -/
def maybeStarPattern (r : Rules) : Rule Unit := do
  if ← takes .star then
    captureTarget <|> word "_"
  else r.pattern

/-- patterns with commas between, a trailing comma allowed; says whether any comma was there -/
def patternList (r : Rules) : Rule (Nat × Bool) := do
  let first ← separated .comma (maybeStarPattern r)
  let trailing ← takes .comma
  return (first.length, trailing)

def mappingItem (r : Rules) : Rule Bool := do
  if ← takes .doubleStar then
    captureTarget
    return true
  else
    literalPattern r <|> dottedName 1
    symbol .colon
    r.pattern
    return false

/-- A rest of a mapping comes last. -/
def mappingPattern (r : Rules) : Rule Unit := do
  if ← takes .rightBrace then return ()
  let items ← separated .comma (mappingItem r)
  let _ ← takes .comma
  symbol .rightBrace
  check (!(items.dropLast.any id))

def classArgument (r : Rules) : Rule Bool := do
  match ← peek, ← peekSecond with
  | .name _, .symbol .equal =>
    let _ ← next
    let _ ← next
    r.pattern
    return true
  | _, _ =>
    r.pattern
    return false

/-- Named arguments of a class pattern come after the others. -/
def namedLast : Bool → List Bool → Bool
  | _, [] => true
  | seen, named :: rest => (named || !seen) && namedLast named rest

def classArguments (r : Rules) : Rule Unit := do
  if ← takes .rightParen then return ()
  let items ← separated .comma (classArgument r)
  let _ ← takes .comma
  symbol .rightParen
  check (namedLast false items)

/-- a name: it is bound, stands for anything, is looked up, or is a class -/
def namePattern (r : Rules) : Rule Unit := do
  let id ← identifier
  if id == "_" then return ()
  let _ ← many (do symbol .dot; identifier)
  if ← takes .leftParen then classArguments r
  else notFollowedBy [.dot, .leftParen, .equal]

def closedPattern (r : Rules) : Rule Unit := do
  match ← peek with
  | .name _ => namePattern r
  | .symbol .leftParen =>
    let _ ← next
    if ← takes .rightParen then return ()
    let starred ← aheadSymbol .star
    let (count, trailing) ← patternList r
    symbol .rightParen
    -- a single starred pattern is a sequence only with a comma
    check (!(starred && count == 1 && !trailing))
  | .symbol .leftBracket =>
    let _ ← next
    if ← takes .rightBracket then return ()
    let _ ← patternList r
    symbol .rightBracket
  | .symbol .leftBrace =>
    let _ ← next
    mappingPattern r
  | _ => literalPattern r

def pattern (r : Rules) : Rule Unit := do
  let _ ← separated .bar (closedPattern r)
  if ← takesKeyword .As then captureTarget

def patterns (r : Rules) : Rule Unit := do
  let starred ← aheadSymbol .star
  let (count, trailing) ← patternList r
  check (!(starred && count == 1 && !trailing))

end Apidoc.Syntax
