import Apidoc.Component.Identity
import Apidoc.Component.Signature
import Apidoc.Component.Visibility
import Apidoc.Syntax.Grammar.Circle
import Apidoc.Text.Lines

/-!
# Components of a source text

A parsed module becomes a `ModuleDoc`: its documentation, exports and imports, and the definitions
at its top and in its classes that are visible.
-/

namespace Apidoc

open Syntax

structure Source where
  path : String
  text : List Char
  includePrivate : Bool

namespace Source

def cut (src : Source) (span : Span) : String :=
  String.ofList ((src.text.drop span.start).take (span.stop - span.start))

def header (src : Source) (name key : String) (span : Span) (docs : Option String) : Header :=
  { id := componentId src.path key span.line, name := name, path := src.path, line := span.line,
    docs := docs, source := some (src.cut span), description := none }

end Source

def documentation : List Stmt → Option String
  | .expression (.constant (.str ps _)) :: _ =>
    some (Text.dedent (String.ofList (Text.ofPoints ps)))
  | _ => none

/-! ## exports and imports -/

def textElement : Expr → Option String
  | .constant (.str ps _) => some (String.ofList (Text.ofPoints ps))
  | _ => none

def bindsExports : Expr → Bool
  | .name "__all__" => true
  | _ => false

def declaredExports : Stmt → Option (List String)
  | .assign _ targets value =>
    if targets.any bindsExports then
      match value with
      | .list es | .tuple es => some (es.filterMap textElement)
      | _ => none
    else none
  | _ => none

/-- the first such declaration at the top of a module -/
def exportsOf (m : Module) : Option (List String) := m.findSome? declaredExports

def Syntax.Import.paths (i : Import) : List String :=
  match i.source with
  | some source => if source.isEmpty then i.names else i.names.map fun n => source ++ "." ++ n
  | none => i.names

mutual

def importsIn (depth : Nat) : Stmt → List (Nat × String)
  | .importing i => i.paths.map fun p => (depth, p)
  | .function _ _ _ _ _ _ body => importsInBlock (depth + 1) body
  | .classDef _ _ _ _ body => importsInBlock (depth + 1) body
  | .compound parts => importsInParts depth parts
  | _ => []

def importsInBlock (depth : Nat) : List Stmt → List (Nat × String)
  | [] => []
  | s :: ss => importsIn depth s ++ importsInBlock depth ss

def importsInPart (depth : Nat) : Part → List (Nat × String)
  | .block body => importsInBlock (depth + 1) body
  | .clause body => importsInBlock (depth + 2) body

def importsInParts (depth : Nat) : List Part → List (Nat × String)
  | [] => []
  | p :: ps => importsInPart depth p ++ importsInParts depth ps

end

/-- Imports are listed by depth, and in the order of the text at one depth. -/
def importsOf (m : Module) : List String :=
  ((importsInBlock 0 m).mergeSort fun a b => a.1 ≤ b.1).map (·.2)

/-! ## definitions -/

def texts (es : List Expr) : Printed (List String) := es.mapM Expr.text

def readFunction (src : Source) (span : Span) (isAsync : Bool) (name : String)
    (signature : Signature) (returns : Option Expr) (decorators : List Expr) (body : List Stmt) :
    Printed FunctionDoc := do
  let parameters ← showParameters signature
  let returns ← hintText returns
  let decorators ← texts decorators
  return { toHeader := src.header name name span (documentation body), parameters := parameters,
           returns := returns, isAsync := isAsync, decorators := decorators }

def readMethod (src : Source) (parent : String) (span : Span) (isAsync : Bool) (name : String)
    (signature : Signature) (returns : Option Expr) (decorators : List Expr) (body : List Stmt) :
    Printed MethodDoc := do
  let decorators ← texts decorators
  let parameters ← showParameters signature
  let returns ← hintText returns
  return { toHeader := src.header name (parent ++ "." ++ name) span (documentation body),
           parameters := parameters, returns := returns, isAsync :=
             isAsync, decorators := decorators,
           isStatic := decorators.contains "staticmethod",
           isClassMethod := decorators.contains "classmethod",
           isProperty := decorators.contains "property", parent := some parent }

/-- A method that computes a property is documented as that property. -/
def MethodDoc.toProperty (m : MethodDoc) : PropertyDoc :=
  { toHeader := { m.toHeader with description := none }, hint := m.returns, default := none,
    isClassVariable := false }

def nameTargets (targets : List Expr) : List String :=
  targets.filterMap fun
    | .name id => some id
    | _ => none

def readAssignment (src : Source) (isClassVariable : Bool) (span : Span) (name : String)
    (value : Expr) : PropertyDoc :=
  { toHeader := src.header name name span none, hint := none, default := defaultText (some value),
    isClassVariable := isClassVariable }

def readAnnotated (src : Source) (isClassVariable : Bool) (span : Span) (name : String)
    (hint : Expr) (value : Option Expr) : Printed PropertyDoc := do
  let hint ← hint.text
  return { toHeader := src.header name name span none, hint := some hint,
           default := defaultText value, isClassVariable := isClassVariable }

def addMember (src : Source) (parent : String) (c : ClassDoc) : Stmt → Printed ClassDoc
  | .function span isAsync name signature returns decorators body =>
    if isMemberListed src.includePrivate name then do
      let m ← readMethod src parent span isAsync name signature returns decorators body
      return if m.isProperty then { c with properties := c.properties ++ [m.toProperty] }
        else { c with methods := c.methods ++ [m] }
    else .ok c
  | .annotated span (.name id) hint value =>
    if isMemberListed src.includePrivate id then do
      let p ← readAnnotated src true span id hint value
      return { c with classVariables := c.classVariables ++ [p] }
    else .ok c
  | .assign span targets value =>
    let ids := (nameTargets targets).filter (isMemberListed src.includePrivate)
    .ok { c with classVariables := c.classVariables ++ ids.map fun id =>
      readAssignment src true span id value }
  | _ => .ok c

def readClass (src : Source) (span : Span) (name : String) (bases decorators : List Expr)
    (body : List Stmt) : Printed ClassDoc := do
  let bases ← texts bases
  let decorators ← texts decorators
  let start : ClassDoc :=
    { toHeader := src.header name name span (documentation body), bases := bases, methods := [],
      properties := [], classVariables := [], decorators := decorators }
  body.foldlM (addMember src name) start

def addDefinition (src : Source) (m : ModuleDoc) : Stmt → Printed ModuleDoc
  | .classDef span name bases decorators body =>
    if isListed src.includePrivate m.exports name then do
      let c ← readClass src span name bases decorators body
      return { m with classes := m.classes ++ [c] }
    else .ok m
  | .function span isAsync name signature returns decorators body =>
    if isListed src.includePrivate m.exports name then do
      let f ← readFunction src span isAsync name signature returns decorators body
      return { m with functions := m.functions ++ [f] }
    else .ok m
  | .assign span targets value =>
    let ids := (nameTargets targets).filter (isListed src.includePrivate m.exports)
    .ok { m with constants := m.constants ++ ids.map fun id =>
      readAssignment src false span id value }
  | .annotated span (.name id) hint value =>
    if isListed src.includePrivate m.exports id then do
      let p ← readAnnotated src false span id hint value
      return { m with constants := m.constants ++ [p] }
    else .ok m
  | _ => .ok m

def readModule (src : Source) (name : String) (m : Module) : Printed ModuleDoc :=
  let start : ModuleDoc :=
    { id := componentId src.path name 1, name := name, path := src.path, line := 1,
      docs := documentation m, source := some (String.ofList src.text), description := none,
      classes := [], functions := [], constants := [], imports := importsOf m, exports :=
        exportsOf m }
  m.foldlM (addDefinition src) start

/-! ## files -/

inductive ReadFault where
  /-- the file holds no well-formed module -/
  | malformed
  | unprintable (fault : PrintFault)
  deriving DecidableEq, Repr

def readSource (includePrivate : Bool) (path name : String) (text : String) :
    Except ReadFault ModuleDoc :=
  let text := Text.unifyNewlines text.toList
  match parseModule text with
  | none => .error .malformed
  | some m => (readModule ⟨path, text, includePrivate⟩ name m).mapError .unprintable

/-- The property that a single annotated assignment declares, if it binds a plain name. -/
def readAnnotatedText (path : String) (isClassVariable : Bool) (text : String) :
    Except ReadFault (Option PropertyDoc) :=
  let text := text.toList
  match parseModule text with
  | some (.annotated span (.name id) hint value :: _) =>
    (((readAnnotated ⟨path, text, false⟩ isClassVariable span id hint value).map some).mapError
      .unprintable)
  | some _ => .ok none
  | none => .error .malformed

end Apidoc
