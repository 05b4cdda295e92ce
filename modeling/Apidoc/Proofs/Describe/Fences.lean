import Apidoc.Proofs.Data.Json.Pieces
import Apidoc.Proofs.Describe.Exchange
import Apidoc.Proofs.Describe.Replies

/-!
# Fences in answers

A fence is looked for before the answer is read, so one that a description quotes is taken for one
around the answer.  What is then read starts inside a string of the answer.  A document that starts
there has no key with the letter `d` (`Json.piece_of_parse`), hence no item with an id.

* `Agent.walk_unfence`             what a fence in a document encloses starts inside a string;
* `Agent.eq_nil_of_fence`          if it is a document, it lists no items;
* `Agent.plain_answer_taken_iff`   a plain answer is taken as it is if and only if there is no fence
                                   in it.
-/

namespace Apidoc.Agent

open Json

variable {a : Agent} {log log' : List Request} {cs : List Component}

/-! ## from where a reader comes to what a fence encloses -/

/-- A backtick does not stand outside of strings, and it does not end one. -/
theorem walk_fence {place place' : Place} {mark : List Char}
    (hmark : mark = fence ∨ mark = jsonFence) (h : walk place mark = some place') :
    place' = .inside := by
  rcases hmark with rfl | rfl <;> cases place <;> cases h <;> rfl

theorem exists_upTo (mark cs : List Char) : ∃ rest, cs = upTo mark cs ++ rest := by
  unfold upTo
  split
  · next before rest h => exact ⟨mark ++
      rest, by rw [← List.append_assoc]; exact Text.cutAt_eq_some h⟩
  · exact ⟨[], (List.append_nil cs).symm⟩

theorem walk_upTo {place place' : Place} {cs : List Char} (h : walk place cs = some place')
    (mark : List Char) : ∃ mid, walk place (upTo mark cs) = some mid := by
  obtain ⟨rest, hrest⟩ := exists_upTo mark cs
  rw [hrest] at h
  obtain ⟨mid, hmid, -⟩ := exists_walk h
  exact ⟨mid, hmid⟩

theorem walk_trim {cs : List Char} {place : Place} (h : walk .inside cs = some place) :
    ∃ mid, walk .inside (Text.trim cs) = some mid := by
  obtain ⟨before, after, hsplit, hblank⟩ := Text.exists_trim cs
  have hbefore : walk .inside before = some .inside := by
    refine walk_inside fun c hc => ⟨?_, ?_⟩ <;> rintro rfl <;>
      exact absurd (hblank _ hc) (by decide)
  rw [hsplit] at h
  obtain ⟨mid, hmid, -⟩ := exists_walk h
  rw [walk_append, hbefore] at hmid
  exact ⟨mid, hmid⟩

/-- What a fence in a document encloses can be read there from inside a string on. -/
theorem walk_unfence {cs : List Char} {place : Place} (h : walk .outside cs = some place)
    (hfence : fence <:+: cs) : ∃ mid, walk .inside (unfence cs) = some mid := by
  have hafter {mark before rest : List Char} (hmark : mark = fence ∨ mark = jsonFence)
      (hcut : Text.cutAt mark cs = some (before, rest)) :
      ∃ place', walk .inside rest = some place' := by
    rw [Text.cutAt_eq_some hcut] at h
    obtain ⟨mid, hmid, hrest⟩ := exists_walk h
    obtain ⟨start, -, hmark'⟩ := exists_walk hmid
    cases walk_fence hmark hmark'
    exact ⟨place, hrest⟩
  unfold unfence
  split
  · next before rest hcut =>
    obtain ⟨place₁, h₁⟩ := hafter (.inr rfl) hcut
    obtain ⟨place₂, h₂⟩ := walk_upTo h₁ jsonFence
    obtain ⟨place₃, h₃⟩ := walk_upTo h₂ fence
    exact walk_trim h₃
  · next before rest _ hcut =>
    obtain ⟨place₁, h₁⟩ := hafter (.inl rfl) hcut
    obtain ⟨place₂, h₂⟩ := walk_upTo h₁ fence
    exact walk_trim h₂
  · next hnone => exact absurd hfence (Text.cutAt_eq_none.mp hnone)

/-! ## documents in fences -/

theorem not_bareText_id : ¬ BareText "id" := fun h => absurd (h 'd' (by decide)) (by decide)

/-- A map with bare keys has no id. -/
theorem not_item_of_bareKeys {x : Data} (h : BareKeys x) (p : Data × Data) : ¬ Item x p := by
  rintro ⟨⟨fields, rfl, hid, -⟩, -⟩
  cases h with
  | single _ hmap => exact hmap fields rfl
  | map hkey _ =>
    obtain ⟨q, hq, -⟩ := Option.map_eq_some_iff.mp hid
    obtain ⟨s, hs, hbare⟩ := hkey q (List.mem_of_find?_eq_some hq)
    have hfound := List.find?_some hq
    rw [hs, Data.str_beq, beq_iff_eq] at hfound
    exact not_bareText_id (hfound ▸ hbare)

theorem items_nil {v : Data} (h : BareKeys v) {xs : List Data} (hxs : itemsOf v = .ok xs)
    {ps : List (Data × Data)} (hps : List.Forall₂ Item xs ps) : ps = [] := by
  cases hps with
  | nil => rfl
  | cons hitem _ =>
    rcases itemsOf_eq_ok hxs with rfl | ⟨hnil, -⟩
    · cases h with
      | single hlist _ => exact absurd rfl (hlist _)
      | list hitems => exact absurd hitem (not_item_of_bareKeys (hitems _ List.mem_cons_self) _)
    · cases hnil

/-- In a document with a fence no items are found. -/
theorem eq_nil_of_fence {text : String} {v : Data}
    (hparse : Json.parse (Text.trimString text) = .ok v) (hfence : fence <:+: Text.trim text.toList)
    {ps : List (Data × Data)} (h : Lists (some text) ps) : ps = [] := by
  obtain ⟨_, w, xs, htext, hw, hxs, hps⟩ := h
  cases htext
  have houter := (piece_of_parse hparse).outside
  rw [Text.trimString, String.toList_ofList] at houter
  obtain ⟨mid, hmid⟩ := walk_unfence houter hfence
  have hinner := piece_of_parse hw
  rw [String.toList_ofList] at hinner
  exact items_nil (hinner.inside hmid).2 hxs hps

/-! ## plain answers -/

theorem answered_ne_nil {ps : List (String × String)} (h : ps ≠ []) : answered ps ≠ [] := by
  cases ps with
  | nil => exact absurd rfl h
  | cons p ps =>
    intro hnil
    have hkeys :=
      Ordered.keys_overlay [(Data.str p.1, Data.str p.2)] (ps.map fun p => (.str p.1, .str p.2))
    have hmem : Data.str p.1 ∈ (answered (p :: ps)).map (·.1) := hkeys List.mem_cons_self
    rw [hnil] at hmem
    cases hmem

theorem answer_ne_nil {text : String} {ps : List (String × String)} (h : IsAnswer text ps)
    (hfence : fence <:+: Text.trim text.toList) : ps ≠ [] := by
  rintro rfl
  obtain ⟨xs, hparse, hxs⟩ := h
  cases hxs
  have hbare := bare_of_parse_nil hparse '\x60'
  rw [Text.trimString, String.toList_ofList] at hbare
  exact absurd (hbare (hfence.subset (by decide))) (by decide)

theorem lists_of_run (hcs : cs ≠ []) {ds : Descriptions}
    (h : (a.describeBatch cs).run log = (.ok ds, log ++ [a.batchRequest cs])) :
    ∃ ps, Lists (a.service log (a.batchRequest cs)) ps ∧ ds = Ordered.ofList ps := by
  cases hread : readBatch (a.service log (a.batchRequest cs)) with
  | described ds' =>
    cases (run_describeBatch_described hcs hread).symm.trans h
    exact readBatch_described_iff.mp hread
  | fault f => cases (run_describeBatch_fault hcs hread).symm.trans h
  | unreadable =>
    rw [run_describeBatch_unreadable hcs hread] at h
    obtain ⟨texts, -, -, hlog⟩ := exists_texts_of_describeOwn h
    exact absurd (List.map_eq_nil_iff.mp (List.self_eq_append_right.mp hlog)) hcs

/-- **A plain answer is taken as it is, without a further request, if and only if there is no fence
in it.** -/
theorem plain_answer_taken_iff (hcs : cs ≠ []) {text : String} {ps : List (String × String)}
    (hreply : a.service log (a.batchRequest cs) = some text) (hanswer : IsAnswer text ps) :
    (a.describeBatch cs).run log = (.ok (answered ps), log ++ [a.batchRequest cs]) ↔
      ¬ fence <:+: Text.trim text.toList := by
  constructor
  · intro h hfence
    obtain ⟨qs, hlists, hds⟩ := lists_of_run hcs h
    rw [hreply] at hlists
    obtain ⟨xs, hparse, -⟩ := id hanswer
    rw [eq_nil_of_fence hparse hfence hlists] at hds
    exact answered_ne_nil (answer_ne_nil hanswer hfence) hds
  · intro hfence
    refine run_describeBatch_described hcs (readBatch_described_iff.mpr ⟨_, ?_, rfl⟩)
    rw [hreply]
    exact lists_answer hanswer hfence

/-- an answer whose second description is three backticks, written as escapes -/
def escapedAnswer : String :=
  "\n [\x7b\"id\": \"f\", \"description\": \"\"\x7d, \x7b\"description\": \"\\u0060\\u0060\\u0060\", \"id\": \"f\"\x7d]"

theorem escapedAnswer_taken : IsAnswer escapedAnswer [("f", ""), ("f", "```")] ∧
    ((scriptedAgent [some escapedAnswer]).describeBatch [namedFunction "f"]).run [] =
      (.ok [(.str "f", .str "```")], [(scriptedAgent []).batchRequest [namedFunction "f"]]) := by
  have hanswer : IsAnswer escapedAnswer [("f", ""), ("f", "```")] :=
    isAnswer_of_answerOf? (by decide +kernel)
  have hfence : ¬ fence <:+: Text.trim escapedAnswer.toList := by
    rw [← Text.contains_iff]
    decide +kernel
  have hlast : answered [("f", ""), ("f", "```")] = [(.str "f", .str "```")] := by
    simp [answered, Ordered.ofList, Ordered.overlay, Ordered.set, Data.str_beq]
  refine ⟨hanswer, ?_⟩
  rw [← hlast]
  exact (plain_answer_taken_iff (List.cons_ne_nil _ _) rfl hanswer).mpr hfence

/-- an answer whose description quotes a fence -/
def quotedFence : String := "[\x7b\"id\": \"f\", \"description\": \"Wrap code in ``` marks.\"\x7d]"

/-- It is not taken: the component is asked for on its own. -/
theorem quotedFence_left : IsAnswer quotedFence [("f", "Wrap code in ``` marks.")] ∧
    ((scriptedAgent [some quotedFence, some "Adds."]).describeBatch [namedFunction "f"]).run [] =
      (.ok [(.str "f", .str "Adds.")], [(scriptedAgent []).batchRequest [namedFunction "f"],
        (scriptedAgent []).ownRequest (namedFunction "f")]) := by
  have hunreadable : Unreadable (some quotedFence) := by decide +kernel
  have htrim : Text.trimString "Adds." = "Adds." := by decide +kernel
  refine ⟨isAnswer_of_answerOf? (by decide +kernel), ?_⟩
  have hreplies : (scriptedAgent [some quotedFence, some "Adds."]).replies
      [(scriptedAgent []).batchRequest [namedFunction "f"]]
      ([namedFunction "f"].map (scriptedAgent []).ownRequest) =
      ["Adds."].map some := rfl
  refine (run_describeBatch_unreadable (List.cons_ne_nil _ _)
    (readBatch_unreadable_iff.mpr hunreadable)).trans
    ((run_describeOwn hreplies).trans ?_)
  show (Except.ok [(Data.str "f", Data.str (Text.trimString "Adds."))], _) = _
  rw [htrim]
  rfl

end Apidoc.Agent
