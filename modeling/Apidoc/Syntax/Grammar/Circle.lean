import Apidoc.Syntax.Lexer
import Apidoc.Syntax.Grammar.Statement

/-!
# The whole grammar

The record of rules is tied to itself here, and a text becomes a module.
-/

namespace Apidoc.Syntax

open Rule

def Cursor.ofTokens (ts : List Token) : Cursor := ⟨ts, ts.length, 0⟩

def rules : Nat → Rules
  | 0 =>
    { expression := fail, disjunction := fail, inversion := fail, bitwiseOr := fail, factor := fail,
      primary := fail, field := fun _ => none, pattern := fail, statement := fail }
  | n + 1 =>
    { expression := delay fun _ => expression (rules n)
      disjunction := delay fun _ => disjunction (rules n)
      inversion := delay fun _ => inversion (rules n)
      bitwiseOr := delay fun _ => bitwiseOr (rules n)
      factor := delay fun _ => factor (rules n)
      primary := delay fun _ => primary (rules n)
      field := fun cs =>
        match lex ('(' :: cs ++ [')']) with
        | none => none
        | some ts => ((starExpressions (rules n)).run (Cursor.ofTokens ts)).map (·.1)
      pattern := delay fun _ => pattern (rules n)
      statement := delay fun _ => statement (rules n) }

def wholeModule (r : Rules) : Rule Module := do
  let ss ← many (statement r)
  lexeme .stop
  return ss.flatten

def parseModule (text : List Char) : Option Module :=
  match lex text with
  | none => none
  | some ts => ((wholeModule (rules (text.length + 8))).run (Cursor.ofTokens ts)).map (·.1)

end Apidoc.Syntax
