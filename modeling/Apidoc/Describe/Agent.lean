import Apidoc.Describe.Prompt
import Apidoc.Fault

/-!
# Descriptions from a language model

An agent puts prompts to a service and reads the replies.  What a service replies may depend on the
request and on the requests before it.  An exchange keeps the requests that were made, also those
before a fault.

* `describe`            one component;
* `describeModule`      a module with its classes, methods, properties and functions, one after the
                        other;
* `describeAll`         any components: classes and modules one by one, the others in batches;
* `suggestStructure`    a proposal for the arrangement of the documentation.
-/

namespace Apidoc

structure Request where
  model : String
  maxTokens : Nat
  prompt : String
  role : String
  deriving DecidableEq, Repr

/-- the text of a reply; none if the reply has no content -/
abbrev Reply := Option String

abbrev Service := List Request → Request → Reply

structure Agent where
  key : String
  model : String
  service : Service

abbrev Exchange (α : Type) := ExceptT Fault (StateM (List Request)) α

def defaultModel : String := "claude-sonnet-4-20250514"

/-- An agent needs a key: the one given, or else the one of the surroundings. -/
def Agent.connect (service : Service) (model : String) (given surrounding : Option String) :
    Except Fault Agent :=
  match (Prompt.told given).orElse fun _ => Prompt.told surrounding with
  | some key => .ok ⟨key, model, service⟩
  | none => .error .noServiceKey

/-- descriptions by the id of a component; a reply may hold other keys and values -/
abbrev Descriptions := Ordered Data Data

namespace Agent

def ask (a : Agent) (maxTokens : Nat) (role prompt : String) : Exchange Reply := do
  let r : Request := ⟨a.model, maxTokens, prompt, role⟩
  let earlier ← get
  set (earlier ++ [r])
  return a.service earlier r

def describe (a : Agent) (c : Component) (context : Context) : Exchange String := do
  match ← a.ask 1024 writerRole (describePrompt c context) with
  | some text => return Text.trimString text
  | none => throw .emptyReply

/-! ## modules -/

def classParts (m : ModuleDoc) (withSource : Bool) (c : ClassDoc) : List (Component × Context) :=
  (.classDef c, ⟨some m.name, none, withSource⟩) ::
    (c.methods.map fun f => (.method f, ⟨some m.name, some c.name, withSource⟩)) ++
    (c.properties.map fun p => (.property p, ⟨some m.name, some c.name, false⟩))

def moduleParts (m : ModuleDoc) (withSource : Bool) : List (Component × Context) :=
  (.module m, ⟨none, none, withSource⟩) :: m.classes.flatMap (classParts m withSource) ++
    (m.functions.map fun f => (.function f, ⟨some m.name, none, withSource⟩))

def describeEach (a : Agent) : List (Component × Context) → Exchange (List (Data × Data))
  | [] => return []
  | (c, context) :: cs => do
    let text ← a.describe c context
    let rest ← describeEach a cs
    return (.str c.id, .str text) :: rest

def describeModule (a : Agent) (m : ModuleDoc) (withSource : Bool) : Exchange Descriptions := do
  return Ordered.ofList (← a.describeEach (moduleParts m withSource))

/-! ## batches -/

def fence : List Char := "```".toList

def jsonFence : List Char := "```json".toList

/-- what stands before the first mark, or the whole text if there is none -/
def upTo (mark cs : List Char) : List Char :=
  match Text.cutAt mark cs with
  | some (before, _) => before
  | none => cs

/-- The text inside the first fence, one marked as JSON if there is one; without a fence the whole
text.  The next mark of the same kind ends it before any other fence is looked for. -/
def unfence (cs : List Char) : List Char :=
  match Text.cutAt jsonFence cs, Text.cutAt fence cs with
  | some (_, rest), _ => Text.trim (upTo fence (upTo jsonFence rest))
  | none, some (_, rest) => Text.trim (upTo fence rest)
  | none, none => cs

def replyData (text : String) : Except Json.Fault Data :=
  Json.parse (String.ofList (unfence (Text.trim text.toList)))

inductive BatchReply where
  | described (descriptions : Descriptions)
  /-- the components are to be described one by one -/
  | unreadable
  | fault (f : Fault)

def itemOf : Data → Option (Option (Data × Data))
  | .map fields =>
    match Ordered.get? fields (.str "id"), Ordered.get? fields (.str "description") with
    | some id, some text => some (some (id, text))
    | _, _ => some none
  | _ => none

/-- Items in order: an item without id or description makes the reply unreadable, one that is no map
is a fault, and so is an id that cannot be a key. -/
def readItems : List Data → Descriptions → BatchReply
  | [], done => .described done
  | x :: xs, done =>
    match itemOf x with
    | none => .fault .wrongKind
    | some none => .unreadable
    | some (some (id, text)) =>
      if Yaml.isKey id then readItems xs (Ordered.set done id text) else .fault .wrongKind

/-- An empty text or map holds no items. -/
def itemsOf : Data → Except Fault (List Data)
  | .list xs => .ok xs
  | .map [] => .ok []
  | .str "" => .ok []
  | _ => .error .wrongKind

def readBatch : Reply → BatchReply
  | none => .unreadable
  | some text =>
    match replyData text with
    | .error .malformed => .unreadable
    | .error f => .fault (.json f)
    | .ok v =>
      match itemsOf v with
      | .error f => .fault f
      | .ok xs => readItems xs []

def describeBatch (a : Agent) (cs : List Component) : Exchange Descriptions := do
  if cs.isEmpty then return []
  else
    match readBatch (← a.ask 2048 writerRole (batchPrompt cs)) with
    | .described ds => return ds
    | .unreadable => return Ordered.ofList (← a.describeEach (cs.map fun c => (c, {})))
    | .fault f => throw f

/-- Classes and modules are asked for on their own. -/
def isLarge : Component → Bool
  | .classDef _ => true
  | .module _ => true
  | _ => false

/-- pieces of a list of the given size, the last one of what is left -/
def chunks {α : Type} (size : Nat) : Nat → List α → List (List α)
  | 0, _ => []
  | n + 1, xs => if xs.isEmpty then [] else xs.take size :: chunks size n (xs.drop size)

def describeBatches (a : Agent) : List (List Component) → Descriptions → Exchange Descriptions
  | [], done => return done
  | b :: bs, done => do
    let new ← a.describeBatch b
    describeBatches a bs (Ordered.overlay done new)

/-- A size below zero gives no batches, and zero is refused. -/
def describeAll (a : Agent) (cs : List Component) (size : Int) : Exchange Descriptions := do
  let large ← a.describeEach ((cs.filter isLarge).map fun c => (c, {}))
  let small := cs.filter fun c => !isLarge c
  if size = 0 then throw .zeroSize
  else
    let batches := if size < 0 then [] else chunks size.toNat small.length small
    a.describeBatches batches (Ordered.ofList large)

/-! ## structure -/

def unreadableProposal (text : String) : Data :=
  .object [("error", .str "Could not parse structure suggestions"), ("raw", .str text)]

def suggestStructure (a : Agent) (ms : List ModuleDoc) : Exchange Data := do
  match ← a.ask 2048 architectRole (structurePrompt ms) with
  | none => throw .emptyReply
  | some text =>
    match replyData text with
    | .ok v => return v
    | .error .malformed => return unreadableProposal text
    | .error f => throw (.json f)

end Agent

end Apidoc
