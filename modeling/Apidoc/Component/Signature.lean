import Apidoc.Component.Basic
import Apidoc.Syntax.Printer

/-!
# Parameters as they are shown

Ordinary parameters but `self` and `cls`, then a starred one, keyword-only ones and a doubly starred
one.  A default that has no text is left out; a type hint that has none is an error.
-/

namespace Apidoc

open Syntax

def hintText : Option Expr → Printed (Option String)
  | none => .ok none
  | some e => do return some (← e.text)

/-- the text of a default, if there is one and it can be written -/
def defaultText (e : Option Expr) : Option String := e.bind fun e => e.text.toOption

/-- Pairs ordinary parameters with their defaults.  The defaults are those of the last parameters,
so the last default belongs to the last parameter. -/
def pairDefaults (ps : List Parameter) (defaults : List Expr) : List (Parameter × Option Expr) :=
  ps.zipIdx.map fun p =>
    (p.1, if ps.length ≤
      p.2 + defaults.length then defaults[p.2 + defaults.length - ps.length]? else none)

def showParameter (stars : String) (p : Parameter) (default : Option Expr) :
    Printed ParameterDoc := do
  return ⟨stars ++ p.name, ← hintText p.hint, defaultText default, none⟩

def isReceiver (p : Parameter) : Bool := p.name == "self" || p.name == "cls"

def shownParameters (s : Signature) : List (String × Parameter × Option Expr) :=
  ((pairDefaults s.positional s.defaults).filter fun p => !isReceiver p.1).map
    (fun p => ("", p.1, p.2)) ++
    s.variadic.toList.map (fun p => ("*", p, none)) ++
    s.keywordOnly.map (fun p => ("", p.1, p.2)) ++
    s.keywords.toList.map (fun p => ("**", p, none))

def showParameters (s : Signature) : Printed (List ParameterDoc) :=
  (shownParameters s).mapM fun p => showParameter p.1 p.2.1 p.2.2

end Apidoc
