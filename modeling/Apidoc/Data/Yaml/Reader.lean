import Apidoc.Data.Ordered
import Apidoc.Data.Yaml.Node

/-!
# Reading YAML

The value of a document.  A key that comes again replaces the earlier one.  The key `<<` takes over
the pairs of another mapping, or of several, of which the earlier win; the pairs beside it win over
them.
-/

namespace Apidoc.Yaml

/-- Lists, maps and sets cannot be keys. -/
def isKey : Data → Bool
  | .list _ => false
  | .map _ => false
  | .set _ => false
  | _ => true

abbrev Pairs := List (Data × Data)

namespace Node

def onlyPair? : Data → Option Data
  | .map [(k, v)] => some (.list [k, v])
  | _ => none

mutual

def value : Node → Except Fault Data
  | .scalar tag text => tag.value text
  | .sequence tag xs => do
    let vs ← values xs
    match tag with
    | .sequence => return .list vs
    | .omap | .pairs => match vs.mapM onlyPair? with
      | some ps => return .list ps
      | none => throw .malformed
    | _ => throw .malformed
  | .mapping tag ps => do
    let (taken, own) ← pairValues ps
    let all := Ordered.ofList (taken ++ own)
    match tag with
    | .mapping => return .map all
    | .set => return .set (all.map (·.1))
    | _ => throw .malformed

def values : List Node → Except Fault (List Data)
  | [] => .ok []
  | x :: xs => do
    let v ← value x
    let vs ← values xs
    return v :: vs

def pairValues : List (Node × Node) → Except Fault (Pairs × Pairs)
  | [] => .ok ([], [])
  | (.scalar .merge _, v) :: ps => do
    let more ← takenPairs v
    let (taken, own) ← pairValues ps
    return (more ++ taken, own)
  | (.scalar .default text, v) :: ps => do
    let v ← value v
    let (taken, own) ← pairValues ps
    return (taken, (.str (String.ofList text), v) :: own)
  | (k, v) :: ps => do
    let k ← value k
    if !isKey k then throw .malformed
    let v ← value v
    let (taken, own) ← pairValues ps
    return (taken, (k, v) :: own)

/-- The pairs to take over from a mapping, or from several in a sequence. -/
def takenPairs : Node → Except Fault Pairs
  | .mapping _ ps => do
    let (taken, own) ← pairValues ps
    return taken ++ own
  | .sequence _ xs => takenFrom xs
  | .scalar _ _ => .error .malformed

def takenFrom : List Node → Except Fault Pairs
  | [] => .ok []
  | .mapping _ ps :: xs => do
    let (taken, own) ← pairValues ps
    let later ← takenFrom xs
    return later ++ taken ++ own
  | _ => .error .malformed

end

end Node

/-- Reads a text that holds one document; a text without one has no value. -/
def parse (s : String) : Except Fault Data :=
  match (tokens? s.toList).bind Node.document? with
  | none => .error .malformed
  | some none => .ok .null
  | some (some node) => node.value

end Apidoc.Yaml
