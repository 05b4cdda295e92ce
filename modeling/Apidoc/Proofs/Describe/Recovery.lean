import Apidoc.Proofs.Data.Json
import Apidoc.Proofs.Describe.Exchange
import Apidoc.Proofs.Describe.Replies

/-!
# After replies that are of no use

A reply that is not a list of maps with ids and descriptions has one of three outcomes: the
components are asked for one by one, or there is a fault, or nothing is described.

* `Agent.WellFormed`                  a reply as it was asked for;
* `Agent.Void`                        an empty text or map, in which nothing is listed;
* `Agent.malformed_cases`             any other reply is void, or it cannot be read, or it cannot be
                                      used;
* `Agent.run_suggestStructure_*`      what comes of a proposal;
* `Agent.malformed_recovered_iff`     the replies after which the components are asked for one by
                                      one, and those that lead to a fault.
-/

namespace Apidoc.Agent



variable {a : Agent} {log log' : List Request} {cs : List Component}

/-! ## replies to a batch -/

/-- a reply that, without its fence, is a list of maps with an id and a description -/
def WellFormed (reply : Reply) : Prop :=
  ∃ text xs, reply = some text ∧ replyData text = .ok (.list xs) ∧ ∀ x ∈ xs, ∃ p, HoldsFields x p

/-- a reply with an empty text or map -/
def Void (reply : Reply) : Prop :=
  ∃ text, reply = some text ∧ (replyData text = .ok (.str "") ∨ replyData text = .ok (.map []))

theorem holdsFields_of_items {xs : List Data} {ps : List (Data × Data)}
    (h : List.Forall₂ Item xs ps) : ∀ x ∈ xs, ∃ p, HoldsFields x p := by
  induction h with
  | nil => exact List.forall_mem_nil _
  | cons hitem _ ih => exact List.forall_mem_cons.mpr ⟨⟨_, hitem.1⟩, ih⟩

theorem Lists.wellFormed_or_void {reply : Reply} {ps : List (Data × Data)} (h : Lists reply ps) :
    WellFormed reply ∨ Void reply ∧ ps = [] := by
  obtain ⟨text, v, xs, rfl, hv, hxs, hps⟩ := h
  rcases itemsOf_eq_ok hxs with rfl | ⟨rfl, hvoid⟩
  · exact .inl ⟨text, xs, rfl, hv, holdsFields_of_items hps⟩
  · cases hps
    refine .inr ⟨⟨text, rfl, ?_⟩, rfl⟩
    rcases hvoid with rfl | rfl
    · exact .inl hv
    · exact .inr hv

theorem Void.lists {reply : Reply} (h : Void reply) : Lists reply [] := by
  obtain ⟨text, rfl, hv | hv⟩ := h
  · exact ⟨text, _, [], rfl, hv, rfl, .nil⟩
  · exact ⟨text, _, [], rfl, hv, rfl, .nil⟩

theorem malformed_cases {reply : Reply} (h : ¬ WellFormed reply) :
    Unreadable reply ∨ Unusable reply ∨ Void reply := by
  cases hread : readBatch reply with
  | described ds =>
    obtain ⟨ps, hlists, -⟩ := readBatch_described_iff.mp hread
    exact .inr (.inr (hlists.wellFormed_or_void.resolve_left h).1)
  | unreadable => exact .inl (readBatch_unreadable_iff.mp hread)
  | fault f => exact .inr (.inl (readBatch_fault_iff.mp ⟨f, hread⟩))

theorem run_describeBatch_recovered_iff (hcs : cs ≠ []) {texts : List String}
    (htexts : a.replies (log ++ [a.batchRequest cs]) (cs.map a.ownRequest) = texts.map some) :
    (a.describeBatch cs).run log =
        (.ok (Ordered.ofList (described cs texts)), log ++ a.batchRequest cs ::
          cs.map a.ownRequest) ↔
      Unreadable (a.service log (a.batchRequest cs)) := by
  rw [← readBatch_unreadable_iff]
  constructor
  · intro h
    cases hread : readBatch (a.service log (a.batchRequest cs)) with
    | unreadable => rfl
    | described ds =>
      -- one request does not make several
      have hlog := (Prod.mk.inj ((run_describeBatch_described hcs hread).symm.trans h)).2
      exact absurd (List.map_eq_nil_iff.mp
        (List.cons.inj (List.append_cancel_left hlog)).2.symm) hcs
    | fault f => cases (run_describeBatch_fault hcs hread).symm.trans h
  · intro hread
    rw [run_describeBatch_unreadable hcs hread, run_describeOwn htexts, List.append_assoc]
    rfl

theorem run_describeBatch_fault_iff (hcs : cs ≠ []) {texts : List String}
    (htexts : a.replies (log ++ [a.batchRequest cs]) (cs.map a.ownRequest) = texts.map some) :
    (∃ f log', (a.describeBatch cs).run log = (.error f, log')) ↔
    Unusable (a.service log (a.batchRequest cs)) := by
  rw [← readBatch_fault_iff]
  constructor
  · rintro ⟨f, log', h⟩
    cases hread : readBatch (a.service log (a.batchRequest cs)) with
    | described ds => cases (run_describeBatch_described hcs hread).symm.trans h
    | unreadable =>
      rw [run_describeBatch_unreadable hcs hread, run_describeOwn htexts] at h
      cases h
    | fault f' => exact ⟨f', rfl⟩
  · rintro ⟨f, hread⟩
    exact ⟨f, _, run_describeBatch_fault hcs hread⟩

/-! ## proposals -/

/-- what comes of the text of a proposal: its document, or a record that there is none -/
def Proposes (text : String) (v : Data) : Prop :=
  replyData text = .ok v ∨ replyData text = .error .malformed ∧ v = unreadableProposal text

theorem run_suggestStructure_some {ms : List ModuleDoc} {text : String} {v : Data}
    (h : a.service log (a.structureRequest ms) = some text) (hv : Proposes text v) :
    (a.suggestStructure ms).run log = (.ok v, log ++ [a.structureRequest ms]) := by
  rw [structureRequest] at h
  rw [suggestStructure, Run.bind_ok (run_ask a 2048 architectRole _ log), h]
  rcases hv with hv | ⟨hv, rfl⟩
  · simp only [hv]
    rfl
  · simp only [hv]
    rfl

theorem run_suggestStructure_long {ms : List ModuleDoc} {text : String} {n : Nat}
    (h : a.service log (a.structureRequest ms) = some text)
    (hn : replyData text = .error (.longInteger n)) :
    (a.suggestStructure ms).run log = (.error (.json (.longInteger n)), log ++
      [a.structureRequest ms]) := by
  rw [structureRequest] at h
  rw [suggestStructure, Run.bind_ok (run_ask a 2048 architectRole _ log), h]
  simp only [hn]
  rfl

theorem run_suggestStructure_none {ms : List ModuleDoc}
    (h : a.service log (a.structureRequest ms) = none) :
    (a.suggestStructure ms).run log = (.error .emptyReply, log ++ [a.structureRequest ms]) := by
  rw [structureRequest] at h
  rw [suggestStructure, Run.bind_ok (run_ask a 2048 architectRole _ log), h]
  rfl

/-- a reply without content or with a number that is too long -/
def Fruitless (reply : Reply) : Prop :=
  ∀ text, reply = some text → ∃ n, replyData text = .error (.longInteger n)

theorem proposes_or_fruitless (reply : Reply) :
    (∃ text v, reply = some text ∧ Proposes text v) ∨ Fruitless reply := by
  cases reply with
  | none => exact .inr nofun
  | some text =>
    cases hv : replyData text with
    | ok v => exact .inl ⟨text, v, rfl, .inl hv⟩
    | error e =>
      cases e with
      | malformed => exact .inl ⟨text, _, rfl, .inr ⟨hv, rfl⟩⟩
      | longInteger n =>
        refine .inr fun text' h => ?_
        cases h
        exact ⟨n, hv⟩

theorem exists_fault_of_fruitless {ms : List ModuleDoc}
    (h : Fruitless (a.service log (a.structureRequest ms))) :
    ∃ f, (a.suggestStructure ms).run log = (.error f, log ++ [a.structureRequest ms]) := by
  cases hreply : a.service log (a.structureRequest ms) with
  | none => exact ⟨_, run_suggestStructure_none hreply⟩
  | some text =>
    obtain ⟨n, hn⟩ := h text hreply
    exact ⟨_, run_suggestStructure_long hreply hn⟩

theorem run_suggestStructure_ok_iff {ms : List ModuleDoc} {v : Data} :
    (a.suggestStructure ms).run log = (.ok v, log ++ [a.structureRequest ms]) ↔
      ∃ text, a.service log (a.structureRequest ms) = some text ∧ Proposes text v := by
  constructor
  · intro h
    rcases proposes_or_fruitless (a.service log (a.structureRequest ms)) with ⟨text, w,
      hreply, hw⟩ | hnone
    · cases (run_suggestStructure_some hreply hw).symm.trans h
      exact ⟨text, hreply, hw⟩
    · obtain ⟨f, hf⟩ := exists_fault_of_fruitless hnone
      cases hf.symm.trans h
  · rintro ⟨text, hreply, hv⟩
    exact run_suggestStructure_some hreply hv

theorem run_suggestStructure_fault_iff {ms : List ModuleDoc} :
    (∃ f log', (a.suggestStructure ms).run log = (.error f, log')) ↔
      Fruitless (a.service log (a.structureRequest ms)) := by
  constructor
  · rintro ⟨f, log', h⟩
    refine (proposes_or_fruitless _).resolve_left ?_
    rintro ⟨text, v, hreply, hv⟩
    cases (run_suggestStructure_some hreply hv).symm.trans h
  · intro h
    obtain ⟨f, hf⟩ := exists_fault_of_fruitless h
    exact ⟨f, _, hf⟩

/-! ## recovery -/

/-- **After which replies a run goes on.** Where the components get replies with content on their
own, they are asked for one by one exactly after a reply to the batch that cannot be read, and there
is a fault exactly after one that cannot be used; of the replies that are not as they were asked
for, those that are left describe nothing.  A proposal is its document, or a record that there is
none, unless it has no content or a number in it is too long. -/
theorem malformed_recovered_iff (hcs : cs ≠ []) {texts : List String}
    (htexts : a.replies (log ++ [a.batchRequest cs]) (cs.map a.ownRequest) = texts.map some)
    (ms : List ModuleDoc) :
    ((a.describeBatch cs).run log =
        (.ok (Ordered.ofList (described cs texts)), log ++ a.batchRequest cs ::
          cs.map a.ownRequest) ↔
      Unreadable (a.service log (a.batchRequest cs))) ∧
    ((∃ f log', (a.describeBatch cs).run log = (.error f, log')) ↔
      Unusable (a.service log (a.batchRequest cs))) ∧
    (¬ WellFormed (a.service log (a.batchRequest cs)) →
      Unreadable (a.service log (a.batchRequest cs)) ∨
      Unusable (a.service log (a.batchRequest cs)) ∨
      Void (a.service log (a.batchRequest cs)) ∧ (a.describeBatch cs).run log =
        (.ok [], log ++ [a.batchRequest cs])) ∧
    (∀ v, (a.suggestStructure ms).run log = (.ok v, log ++ [a.structureRequest ms]) ↔
      ∃ text, a.service log (a.structureRequest ms) = some text ∧ Proposes text v) ∧
    ((∃ f log', (a.suggestStructure ms).run log = (.error f, log')) ↔
      Fruitless (a.service log (a.structureRequest ms))) := by
  refine ⟨run_describeBatch_recovered_iff hcs htexts,
    run_describeBatch_fault_iff hcs htexts, fun h => ?_,
    fun v => run_suggestStructure_ok_iff, run_suggestStructure_fault_iff⟩
  refine (malformed_cases h).imp_right (Or.imp_right fun hvoid => ⟨hvoid, ?_⟩)
  exact run_describeBatch_described hcs (readBatch_described_iff.mpr ⟨[], hvoid.lists, rfl⟩)

def halfAnswer : String := "[\x7b\"id\": \"f\"\x7d]"

def halfAgent : Agent := scriptedAgent [some halfAnswer, some "Adds."]

/-- The function is asked for on its own. -/
theorem halfAnswer_recovered : (halfAgent.describeBatch [namedFunction "f"]).run [] =
    (.ok [(.str "f", .str "Adds.")],
      [halfAgent.batchRequest [namedFunction "f"], halfAgent.ownRequest (namedFunction "f")]) := by
  have hunreadable : Unreadable (some halfAnswer) := by decide +kernel
  have htrim : Text.trimString "Adds." = "Adds." := by decide +kernel
  have hreplies : halfAgent.replies ([] ++ [halfAgent.batchRequest [namedFunction "f"]])
      ([namedFunction "f"].map halfAgent.ownRequest) = ["Adds."].map some := rfl
  have hrun := (malformed_recovered_iff (List.cons_ne_nil _ _) hreplies []).1.mpr hunreadable
  have hdescribed : Ordered.ofList (described [namedFunction "f"] ["Adds."]) =
      [(.str "f", .str "Adds.")] := by
    rw [← htrim]
    rfl
  rw [hdescribed] at hrun
  exact hrun

def nullAgent : Agent := scriptedAgent [some "null", some "Adds."]

/-- Null is not what was asked for, and there is a fault, although the function would get a reply on
its own.  There is one after a proposal without content as well. -/
theorem null_escapes : ¬ WellFormed (some "null") ∧
    (nullAgent.describeBatch [namedFunction "f"]).run [] =
      (.error .wrongKind, [nullAgent.batchRequest [namedFunction "f"]]) ∧
    ((scriptedAgent [none]).suggestStructure []).run [] =
      (.error .emptyReply, [(scriptedAgent []).structureRequest []]) := by
  have hdata : replyData "null" = .ok .null := by
    have htext : String.ofList (unfence (Text.trim "null".toList)) = (Json.render .null).text := by
      decide +kernel
    rw [replyData, htext]
    exact (Json.parse_render .null).2
  refine ⟨?_, ?_, run_suggestStructure_none rfl⟩
  · rintro ⟨text, xs, htext, hlist, -⟩
    cases htext
    cases hdata.symm.trans hlist
  · have hread : readBatch (some "null") = .fault .wrongKind := by
      rw [readBatch, hdata]
      rfl
    exact run_describeBatch_fault (List.cons_ne_nil _ _) hread

end Apidoc.Agent
