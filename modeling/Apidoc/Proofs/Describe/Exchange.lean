import Apidoc.Describe.Agent
import Apidoc.Proofs.Data.Ordered
import Apidoc.Proofs.Run
import Mathlib.Data.List.Basic

/-!
# Exchanges with a service

What an exchange ends with, from the replies that its requests get.

* `Agent.replies`                the replies to requests that are made one after the other;
* `Agent.run_describeEach`       components are described one by one if each reply has content;
* `Agent.run_describeBatch_*`    a batch ends with what its reply is read as.
-/

namespace Apidoc

/-- a service that gives one reply after the other -/
def Service.scripted (rs : List Reply) : Service := fun earlier _ => rs[earlier.length]?.join

def scriptedAgent (rs : List Reply) : Agent := ⟨"key", defaultModel, .scripted rs⟩

/-- a function of which only the name is known -/
def namedFunction (name : String) : Component :=
  .function ⟨⟨name, name, "api.py", 1, none, none, none⟩, [], none, false, []⟩

def namedClass (name : String) : Component :=
  .classDef ⟨⟨name, name, "api.py", 1, none, none, none⟩, [], [], [], [], []⟩

namespace Agent


variable {a : Agent} {log log' : List Request} {cs : List Component}

/-! ## requests -/

def requestFor (a : Agent) (p : Component × Context) : Request :=
  ⟨a.model, 1024, describePrompt p.1 p.2, writerRole⟩

/-- the request for a component about whose place nothing is told -/
def ownRequest (a : Agent) (c : Component) : Request := a.requestFor (c, {})

def batchRequest (a : Agent) (cs : List Component) : Request :=
  ⟨a.model, 2048, batchPrompt cs, writerRole⟩

def structureRequest (a : Agent) (ms : List ModuleDoc) : Request :=
  ⟨a.model, 2048, structurePrompt ms, architectRole⟩

/-- the replies to requests that are made one after the other -/
def replies (a : Agent) : List Request → List Request → List Reply
  | _, [] => []
  | log, r :: rs => a.service log r :: a.replies (log ++ [r]) rs

theorem length_replies (a : Agent) (log rs : List Request) :
    (a.replies log rs).length = rs.length := by
  induction rs generalizing log with
  | nil => rfl
  | cons r rs ih => rw [replies, List.length_cons, List.length_cons, ih]

theorem replies_append (a : Agent) (log rs rs' : List Request) :
    a.replies log (rs ++ rs') = a.replies log rs ++ a.replies (log ++ rs) rs' := by
  induction rs generalizing log with
  | nil => rw [List.append_nil]; rfl
  | cons r rs ih => rw [List.cons_append, replies, replies, ih, List.append_assoc]; rfl

theorem length_texts {rs : List Request} {texts : List String}
    (h : a.replies log rs = texts.map some) : texts.length = rs.length := by
  have hlength := congrArg List.length h
  rw [length_replies, List.length_map] at hlength
  exact hlength.symm

/-! ## components one by one -/

def described (cs : List Component) (texts : List String) : List (Data × Data) :=
  List.zipWith (fun c text => (.str c.id, .str (Text.trimString text))) cs texts

theorem described_cons (c : Component) (cs : List Component) (text : String) (texts : List String) :
    described (c :: cs) (text :: texts) = (.str c.id, .str (Text.trimString text)) ::
      described cs texts := rfl

theorem keys_described {texts : List String} (h : texts.length = cs.length) :
    (described cs texts).map (·.1) = cs.map fun c => .str c.id := by
  induction cs generalizing texts with
  | nil => rfl
  | cons c cs ih =>
    cases texts with
    | nil => cases h
    | cons text texts => rw [described_cons, List.map_cons, List.map_cons, ih (Nat.succ.inj h)]

theorem run_ask (a : Agent) (maxTokens : Nat) (role prompt : String) (log : List Request) :
    (a.ask maxTokens role prompt).run log =
      (.ok (a.service log ⟨a.model, maxTokens, prompt, role⟩), log ++
        [⟨a.model, maxTokens, prompt, role⟩]) := rfl

theorem run_describe_some {c : Component} {context : Context} {text : String}
    (h : a.service log (a.requestFor (c, context)) = some text) :
    (a.describe c context).run log = (.ok (Text.trimString text), log ++
      [a.requestFor (c, context)]) := by
  rw [requestFor] at h
  rw [describe, Run.bind_ok (run_ask a 1024 writerRole _ log), h]
  rfl

theorem run_describe_none {c : Component} {context : Context}
    (h : a.service log (a.requestFor (c, context)) = none) :
    (a.describe c context).run log = (.error .emptyReply, log ++ [a.requestFor (c, context)]) := by
  rw [requestFor] at h
  rw [describe, Run.bind_ok (run_ask a 1024 writerRole _ log), h]
  rfl

/-- Where each reply has content, there is one request and one description for each component. -/
theorem run_describeEach {ps : List (Component × Context)} {texts : List String}
    (h : a.replies log (ps.map a.requestFor) = texts.map some) :
    (a.describeEach ps).run log = (.ok (described (ps.map (·.1)) texts), log ++
      ps.map a.requestFor) := by
  induction ps generalizing log texts with
  | nil => exact congrArg (Prod.mk (Except.ok [])) (List.append_nil log).symm
  | cons p ps ih =>
    obtain ⟨c, context⟩ := p
    cases texts with
    | nil => cases h
    | cons text texts =>
      obtain ⟨hfirst, hrest⟩ := List.cons.inj h
      rw [describeEach, Run.bind_ok (run_describe_some hfirst), Run.bind_ok (ih hrest),
        List.map_cons, List.map_cons, described_cons, List.append_assoc]
      rfl

theorem exists_texts {ps : List (Component × Context)} {ds : List (Data × Data)}
    (h : (a.describeEach ps).run log = (.ok ds, log')) :
    ∃ texts : List String, a.replies log (ps.map a.requestFor) = texts.map some := by
  induction ps generalizing log ds log' with
  | nil => exact ⟨[], rfl⟩
  | cons p ps ih =>
    obtain ⟨c, context⟩ := p
    rw [describeEach] at h
    obtain ⟨t, log₁, hfirst, h⟩ := Run.ok_of_bind h
    obtain ⟨es, log₂, hrest, -⟩ := Run.ok_of_bind h
    cases hreply : a.service log (a.requestFor (c, context)) with
    | none => cases (run_describe_none hreply).symm.trans hfirst
    | some text =>
      cases (run_describe_some hreply).symm.trans hfirst
      obtain ⟨texts, htexts⟩ := ih hrest
      exact ⟨text :: texts, by rw [List.map_cons, replies, hreply, htexts, List.map_cons]⟩

theorem map_requestFor (a : Agent) (cs : List Component) :
    (cs.map fun c => (c, ({} : Context))).map a.requestFor = cs.map a.ownRequest := List.map_map

theorem run_describeEach_own {texts : List String}
    (h : a.replies log (cs.map a.ownRequest) = texts.map some) :
    (a.describeEach (cs.map fun c => (c, {}))).run log =
      (.ok (described cs texts), log ++ cs.map a.ownRequest) := by
  have hcomponents : (cs.map fun c => (c, ({} : Context))).map (·.1) = cs := by
    rw [List.map_map]
    exact List.map_id cs
  rw [← map_requestFor] at h
  have hrun := run_describeEach h
  rwa [map_requestFor, hcomponents] at hrun

theorem exists_texts_own {ds : List (Data × Data)}
    (h : (a.describeEach (cs.map fun c => (c, {}))).run log = (.ok ds, log')) :
    ∃ texts : List String, a.replies log (cs.map a.ownRequest) = texts.map some ∧
    texts.length = cs.length ∧
      ds = described cs texts ∧ log' = log ++ cs.map a.ownRequest := by
  obtain ⟨texts, htexts⟩ := exists_texts h
  rw [map_requestFor] at htexts
  cases (run_describeEach_own htexts).symm.trans h
  exact ⟨texts, htexts, (length_texts htexts).trans (List.length_map _), rfl, rfl⟩

/-! ## batches -/

theorem run_describeBatch_described (hcs : cs ≠ []) {ds : Descriptions}
    (h : readBatch (a.service log (a.batchRequest cs)) = .described ds) :
    (a.describeBatch cs).run log = (.ok ds, log ++ [a.batchRequest cs]) := by
  rw [batchRequest] at h
  rw [describeBatch, if_neg (by simpa using hcs), Run.bind_ok (run_ask a 2048 writerRole _ log), h]
  rfl

theorem run_describeBatch_fault (hcs : cs ≠ []) {f : Fault}
    (h : readBatch (a.service log (a.batchRequest cs)) = .fault f) :
    (a.describeBatch cs).run log = (.error f, log ++ [a.batchRequest cs]) := by
  rw [batchRequest] at h
  rw [describeBatch, if_neg (by simpa using hcs), Run.bind_ok (run_ask a 2048 writerRole _ log), h]
  rfl

def describeOwn (a : Agent) (cs : List Component) : Exchange Descriptions := do
  return Ordered.ofList (← a.describeEach (cs.map fun c => (c, {})))

theorem run_describeBatch_unreadable (hcs : cs ≠ [])
    (h : readBatch (a.service log (a.batchRequest cs)) = .unreadable) :
    (a.describeBatch cs).run log = (a.describeOwn cs).run (log ++ [a.batchRequest cs]) := by
  rw [batchRequest] at h
  rw [describeBatch, if_neg (by simpa using hcs), Run.bind_ok (run_ask a 2048 writerRole _ log), h]
  rfl

theorem run_describeOwn {texts : List String}
    (h : a.replies log (cs.map a.ownRequest) = texts.map some) :
    (a.describeOwn cs).run log = (.ok (Ordered.ofList (described cs texts)), log ++
      cs.map a.ownRequest) := by
  rw [describeOwn, Run.bind_ok (run_describeEach_own h)]
  rfl

theorem exists_texts_of_describeOwn {ds : Descriptions}
    (h : (a.describeOwn cs).run log = (.ok ds, log')) :
    ∃ texts : List String, texts.length = cs.length ∧ ds = Ordered.ofList (described cs texts) ∧
      log' = log ++ cs.map a.ownRequest := by
  obtain ⟨es, log₁, heach, hdone⟩ := Run.ok_of_bind h
  obtain ⟨texts, -, hlength, rfl, rfl⟩ := exists_texts_own heach
  cases hdone
  exact ⟨texts, hlength, rfl, rfl⟩

end Agent

end Apidoc
