import Apidoc.Data.Yaml.Token

/-!
# Nodes of YAML

The tree of a document.  An alias stands for the node that was given its name before.

* `Node.document?`   the node of the only document in a list of tokens.
-/

namespace Apidoc.Yaml

inductive Node where
  | scalar (tag : Tag) (text : List Char)
  | sequence (tag : Tag) (items : List Node)
  | mapping (tag : Tag) (pairs : List (Node × Node))

namespace Node

def namespaceName : List Char := "tag:yaml.org,2002:".toList

def tagNames : List (String × Tag) :=
  [("null", .null), ("bool", .bool), ("int", .int), ("float", .float), ("timestamp", .timestamp),
   ("str", .str), ("binary", .binary), ("seq", .sequence), ("map", .mapping), ("set", .set),
   ("omap", .omap), ("pairs", .pairs), ("merge", .merge), ("value", .default)]

def tagOf (name : List Char) : Tag :=
  match Text.dropWord? namespaceName name with
  | some short => ((tagNames.find? fun t => t.1.toList == short).map (·.2)).getD .unknown
  | none => .unknown

def empty : Node := .scalar .null []

structure Known where
  handles : List (List Char × List Char)
  anchors : List (List Char × Node)

abbrev Place := Known × List Token

structure Properties where
  anchor : Option (List Char) := none
  tag : Option (List Char) := none

def fullTag (known : Known) (handle : Option (List Char)) (rest : List Char) : Option (List Char) :=
  match handle with
  | none => some rest
  | some h => (known.handles.find? (·.1 == h)).map fun e => e.2 ++ rest

def properties (known : Known) : List Token → Option (Properties × List Token)
  | .anchor a :: .tag h t :: ts => (fullTag known h t).map fun t => (⟨some a, some t⟩, ts)
  | .anchor a :: ts => some (⟨some a, none⟩, ts)
  | .tag h t :: .anchor a :: ts => (fullTag known h t).map fun t => (⟨some a, some t⟩, ts)
  | .tag h t :: ts => (fullTag known h t).map fun t => (⟨none, some t⟩, ts)
  | ts => some ({}, ts)

def tagOr (p : Properties) (form : Tag) : Tag :=
  match p.tag with
  | none => form
  | some t => if t = ['!'] then form else tagOf t

/-- A tag of a single exclamation mark makes a quoted scalar count like a plain one. -/
def scalarTag (p : Properties) (text : List Char) (plain : Bool) : Tag :=
  tagOr p (if plain || p.tag == some ['!'] then .ofPlain text else .str)

/-- Gives a node its name; a name is given once. -/
def name (p : Properties) (node : Node) (known : Known) : Option Known :=
  match p.anchor with
  | none => some known
  | some a =>
    if known.anchors.any (·.1 == a) then none
    else some { known with anchors := (a, node) :: known.anchors }

def isFreshName (p : Properties) (known : Known) : Bool :=
  match p.anchor with
  | none => true
  | some a => !known.anchors.any (·.1 == a)

def named (p : Properties) (node : Node) (known : Known) (ts : List Token) :
    Option (Node × Place) :=
  (name p node known).map fun known => (node, known, ts)

def startsOneOf (ends : List Token) : List Token → Bool
  | t :: _ => ends.contains t
  | [] => false

mutual

/-- A node; `block` allows blocks, and `loose` items without a block of their own. -/
def read (block loose : Bool) : Nat → Known → List Token → Option (Node × Place)
  | 0, _, _ => none
  | n + 1, known, ts =>
    match ts with
    | .reference a :: ts => (known.anchors.find? (·.1 == a)).map fun e => (e.2, known, ts)
    | ts => do
      let (p, ts) ← properties known ts
      if !isFreshName p known then none
      else match ts, block, loose with
        | .item :: _, _, true =>
          let (xs, known, ts) ← looseItems n known ts
          named p (.sequence (tagOr p .sequence) xs) known ts
        | .scalar text plain :: ts, _, _ => named p (.scalar (scalarTag p text plain) text) known ts
        | .openBracket :: ts, _, _ =>
          let (xs, known, ts) ← flowItems n true known ts
          named p (.sequence (tagOr p .sequence) xs) known ts
        | .openBrace :: ts, _, _ =>
          let (ps, known, ts) ← flowPairs n true known ts
          named p (.mapping (tagOr p .mapping) ps) known ts
        | .openSequence :: ts, true, _ =>
          let (xs, known, ts) ← items n known ts
          named p (.sequence (tagOr p .sequence) xs) known ts
        | .openMapping :: ts, true, _ =>
          let (ps, known, ts) ← pairs n known ts
          named p (.mapping (tagOr p .mapping) ps) known ts
        | ts, _, _ =>
          if p.anchor.isSome || p.tag.isSome then named p (.scalar (scalarTag p [] true) []) known ts
          else none

def readOr (ends : List Token) (block loose : Bool) :
    Nat → Known → List Token → Option (Node × Place)
  | 0, _, _ => none
  | n + 1, known, ts => if startsOneOf ends ts then some (empty, known,
      ts) else read block loose n known ts

def items : Nat → Known → List Token → Option (List Node × Place)
  | 0, _, _ => none
  | n + 1, known, ts =>
    match ts with
    | .item :: ts => do
      let (x, known, ts) ← readOr [.item, .closeBlock] true false n known ts
      let (xs, known, ts) ← items n known ts
      return (x :: xs, known, ts)
    | .closeBlock :: ts => some ([], known, ts)
    | _ => none

def looseItems : Nat → Known → List Token → Option (List Node × Place)
  | 0, _, _ => none
  | n + 1, known, ts =>
    match ts with
    | .item :: ts => do
      let (x, known, ts) ← readOr [.item, .key, .value, .closeBlock] true false n known ts
      let (xs, known, ts) ← looseItems n known ts
      return (x :: xs, known, ts)
    | ts => some ([], known, ts)

def pairs : Nat → Known → List Token → Option (List (Node × Node) × Place)
  | 0, _, _ => none
  | n + 1, known, ts =>
    match ts with
    | .key :: ts => do
      let (k, known, ts) ← readOr [.key, .value, .closeBlock] true true n known ts
      let (v, known, ts) ← match ts with
        | .value :: ts => readOr [.key, .value, .closeBlock] true true n known ts
        | ts => some (empty, known, ts)
      let (ps, known, ts) ← pairs n known ts
      return ((k, v) :: ps, known, ts)
    | .closeBlock :: ts => some ([], known, ts)
    | _ => none

/-- Items in brackets with commas between; a single pair is a mapping. -/
def flowItems : Nat → Bool → Known → List Token → Option (List Node × Place)
  | 0, _, _, _ => none
  | n + 1, first, known, ts =>
    match ts with
    | .closeBracket :: ts => some ([], known, ts)
    | ts => do
      let ts ← match ts, first with
        | .comma :: ts, false => some ts
        | ts, true => some ts
        | _, _ => none
      match ts with
      | .closeBracket :: ts => return ([], known, ts)
      | .key :: ts =>
        let (k, known, ts) ← readOr [.value, .comma, .closeBracket] false false n known ts
        let (v, known, ts) ← match ts with
          | .value :: ts => readOr [.comma, .closeBracket] false false n known ts
          | ts => some (empty, known, ts)
        let (xs, known, ts) ← flowItems n false known ts
        return (.mapping .mapping [(k, v)] :: xs, known, ts)
      | ts =>
        let (x, known, ts) ← read false false n known ts
        let (xs, known, ts) ← flowItems n false known ts
        return (x :: xs, known, ts)

/-- Pairs in braces with commas between; a key may stand alone. -/
def flowPairs : Nat → Bool → Known → List Token → Option (List (Node × Node) × Place)
  | 0, _, _, _ => none
  | n + 1, first, known, ts =>
    match ts with
    | .closeBrace :: ts => some ([], known, ts)
    | ts => do
      let ts ← match ts, first with
        | .comma :: ts, false => some ts
        | ts, true => some ts
        | _, _ => none
      match ts with
      | .closeBrace :: ts => return ([], known, ts)
      | .key :: ts =>
        let (k, known, ts) ← readOr [.value, .comma, .closeBrace] false false n known ts
        let (v, known, ts) ← match ts with
          | .value :: ts => readOr [.comma, .closeBrace] false false n known ts
          | ts => some (empty, known, ts)
        let (ps, known, ts) ← flowPairs n false known ts
        return ((k, v) :: ps, known, ts)
      | ts =>
        let (k, known, ts) ← read false false n known ts
        let (ps, known, ts) ← flowPairs n false known ts
        return ((k, empty) :: ps, known, ts)

end

/-! ## documents -/

def defaultHandles : List (List Char × List Char) := [(['!'], ['!']), (['!', '!'], namespaceName)]

/-- The directives in front of a document: one version at most, and no handle twice. -/
def directives :
    Bool → List (List Char × List Char) → List Token →
    Option (List (List Char × List Char) × List Token)
  | versioned, handles, .version major :: ts =>
    if versioned ∨ major ≠ 1 then none else directives true handles ts
  | versioned, handles, .handle h e :: ts =>
    if handles.any (·.1 == h) then none else directives versioned ((h, e) :: handles) ts
  | versioned, handles, .directive :: ts => directives versioned handles ts
  | _, handles, ts => some (handles, ts)

def startsDocument : List Token → Bool
  | .version _ :: _ => true
  | .handle _ _ :: _ => true
  | .directive :: _ => true
  | .documentStart :: _ => true
  | _ => false

def isDocumentEnd (ts : List Token) : Bool := ts.all fun t => t == .documentEnd

/-- The node of the only document; nothing if there is no document. -/
def document? (ts : List Token) : Option (Option Node) :=
  let fuel := 2 * ts.length + 2
  if ts.isEmpty then some none
  else do
    let (handles, ts) ←
      if startsDocument ts then do
        let (handles, ts) ← directives false [] ts
        match ts with
        | .documentStart :: ts => some (handles ++ defaultHandles, ts)
        | _ => none
      else some (defaultHandles, ts)
    let isBare := startsDocument ts || ts.isEmpty || ts.head? == some .documentEnd
    if isBare then (if isDocumentEnd ts then some (some empty) else none)
    else
      let (node, _, ts) ← read true false fuel ⟨handles, []⟩ ts
      if isDocumentEnd ts then some (some node) else none

end Node

end Apidoc.Yaml
