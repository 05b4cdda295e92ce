import Apidoc.Proofs.Data.Json.Pieces
import Apidoc.Proofs.Describe.Recovery

/-!
# Documents in fences

A document that stands in a fence is what is read from a reply, whatever stands around the fence.
There is one exception: a reply is cut at the marks of JSON before it is cut at the end of the
fence, and such a mark may start with the last backticks of that end.

* `Json.Closed`                     what every document is;
* `Agent.Overruns`                  a mark starts in the end of a fence and ends after it;
* `Agent.upTo_upTo_of_overruns`, `Agent.upTo_upTo_of_not`   what the two cuts leave of a document
                                                            and its fence;
* `Agent.Decodes`                   a text is what is read from a reply, in a batch and in a
                                    proposal;
* `Agent.fenced_document_read_iff`  when the document in a fence is.
-/

namespace Apidoc

/-- All strings of the text are closed, and nothing is outside of them but what can stand there. -/
def Json.Closed (s : String) : Prop := walk .outside s.toList = some .outside

theorem Json.closed_of_parse {s : String} {v : Data} (h : parse s = .ok v) : Closed s :=
  (piece_of_parse h).outside

/-- A backtick is at the end of no such text: it only stands in strings. -/
theorem Json.Closed.getLast? {s : String} (h : Closed s) : s.toList.getLast? ≠ some '\x60' := by
  intro hlast
  obtain ⟨cs, hcs⟩ := List.getLast?_eq_some_iff.mp hlast
  rw [Closed, hcs] at h
  obtain ⟨place, -, hend⟩ := exists_walk h
  cases place <;> cases hend

namespace Agent

variable {pre j post rest : List Char}

/-! ## cuts -/

theorem upTo_of_first {mark : List Char} (h : ¬ mark <:+: j ++ mark.dropLast) (rest : List Char) :
    upTo mark (j ++ mark ++ rest) = j := by
  rw [upTo, Text.cutAt_of_first h]

theorem upTo_of_not {mark : List Char} (h : ¬ mark <:+: j) : upTo mark j = j := by
  rw [upTo, Text.cutAt_eq_none.mpr h]

/-- A fence does not start in a text without one and end after it, if the text does not end in a
backtick. -/
theorem not_fence_joint (h : ¬ fence <:+: j) (hlast : j.getLast? ≠ some '\x60') :
    ¬ fence <:+: j ++ fence.dropLast := by
  have hshort : ¬ fence <:+: fence.dropLast := fun hinside => absurd hinside.length_le (by decide)
  rcases j.eq_nil_or_concat with rfl | ⟨p, c, rfl⟩
  · exact hshort
  · rw [List.concat_eq_append] at h hlast ⊢
    have hc : c ∉ fence := by
      intro hmem
      have hall : fence.all (· == '\x60') = true := rfl
      rw [eq_of_beq (List.all_eq_true.mp hall c hmem)] at hlast
      exact hlast List.getLast?_concat
    intro hjoint
    rw [List.append_assoc, List.singleton_append] at hjoint
    rcases Text.isInfix_or_of_not_mem hjoint hc with hp | hend
    · exact h (hp.trans (List.prefix_append p [c]).isInfix)
    · exact hshort hend

/-- A mark of JSON does not start in one text and end in the next, if that has no `n`. -/
theorem isInfix_of_jsonFence (h : jsonFence <:+: j ++ rest) (hrest : 'n' ∉ rest) :
    jsonFence <:+: j :=
  @Text.isInfix_of_last jsonFence.dropLast j rest 'n' h hrest

theorem not_jsonFence_joint (h : ¬ jsonFence <:+: pre) :
    ¬ jsonFence <:+: pre ++ jsonFence.dropLast :=
  fun hjoint => h (isInfix_of_jsonFence hjoint (by decide))

/-- A mark of JSON starts with the last backticks of the end of a fence. -/
def Overruns (post : List Char) : Prop := "`json".toList <+: post ∨ "``json".toList <+: post

instance : DecidablePred Overruns := fun _ => inferInstanceAs (Decidable (_ ∨ _))

/-- The backticks that are left of the end of a fence before such a mark stay with the document. -/
theorem upTo_upTo_of_overruns (hj : ¬ fence <:+: j ++ fence.dropLast) (h : Overruns post) :
    ∃ ticks, ticks ≠ [] ∧ ticks <+: fence.dropLast ∧
      upTo fence (upTo jsonFence (j ++ fence ++ post)) = j ++ ticks := by
  have hcut {ticks : List Char} (hticks : ticks <+: fence.dropLast) (rest : List Char) :
      upTo fence (upTo jsonFence (j ++ ticks ++ jsonFence ++ rest)) = j ++ ticks := by
    have hfree : ¬ fence <:+: j ++ ticks :=
      fun hinside => hj (hinside.trans ((List.prefix_append_right_inj j).mpr hticks).isInfix)
    rw [upTo_of_first (not_jsonFence_joint fun hmark => hfree (fence_infix_jsonFence.trans hmark)),
      upTo_of_not hfree]
  rcases h with ⟨rest, rfl⟩ | ⟨rest, rfl⟩
  · refine ⟨['\x60'], List.cons_ne_nil _ _, by decide,
      (congrArg _ (congrArg _ ?_)).trans (hcut (by decide) rest)⟩
    rw [List.append_assoc, List.append_assoc, List.append_assoc]
    rfl
  · refine ⟨['\x60', '\x60'], List.cons_ne_nil _ _, by decide,
      (congrArg _ (congrArg _ ?_)).trans (hcut (by decide) rest)⟩
    rw [List.append_assoc, List.append_assoc, List.append_assoc]
    rfl

theorem upTo_upTo_of_not (hj : ¬ fence <:+: j ++ fence.dropLast) (h : ¬ Overruns post) :
    upTo fence (upTo jsonFence (j ++ fence ++ post)) = j := by
  have hfree : ¬ fence <:+: j := fun hinside => hj (hinside.trans (List.prefix_append _ _).isInfix)
  cases hcut : Text.cutAt jsonFence (j ++ fence ++ post) with
  | none => rw [upTo_of_not (Text.cutAt_eq_none.mp hcut), upTo_of_first hj]
  | some p =>
    obtain ⟨before, after⟩ := p
    have hbefore : upTo jsonFence (j ++ fence ++ post) = before := by rw [upTo, hcut]
    have hsplit := Text.cutAt_eq_some hcut
    rw [hbefore]
    rw [List.append_assoc, List.append_assoc] at hsplit
    rcases List.append_eq_append_iff.mp hsplit with ⟨x, rfl, hx⟩ | ⟨x, rfl, hx⟩
    · -- the mark starts after the document: with the end of the fence, inside of it, or later
      rcases x with _ | ⟨t₁, _ | ⟨t₂, _ | ⟨t₃, x⟩⟩⟩
      · rw [List.append_nil, upTo_of_not hfree]
      · cases hx
        exact absurd (.inl ⟨after, rfl⟩) h
      · cases hx
        exact absurd (.inr ⟨after, rfl⟩) h
      · have hfence : fence = [t₁, t₂, t₃] := congrArg (List.take 3) hx
        have hsame : j ++ t₁ :: t₂ :: t₃ :: x = j ++ fence ++ x := by
          rw [hfence, List.append_assoc]
          rfl
        rw [hsame]
        exact upTo_of_first hj x
    · -- a mark that starts in the document starts with a fence there
      rcases x with _ | ⟨c, x⟩
      · rw [List.append_nil] at hfree ⊢
        exact upTo_of_not hfree
      · have hstart : fence <+: c :: x ++ (fence ++ post) := hx ▸ ⟨"json".toList ++ after, rfl⟩
        have hjoint : c :: x ++ fence.dropLast <+: c :: x ++ (fence ++ post) :=
          (List.prefix_append_right_inj _).mpr
            ((List.dropLast_prefix fence).trans (List.prefix_append _ _))
        have hfirst : fence <+: c :: x ++ fence.dropLast := by
          refine List.prefix_of_prefix_length_le hstart hjoint ?_
          rw [List.length_append, List.length_cons, List.length_dropLast]
          omega
        rw [List.append_assoc] at hj
        exact absurd (hfirst.isInfix.trans (List.suffix_append before _).isInfix) hj

/-! ## replies -/

/-- What is left of a reply after a mark of JSON is cut at the next one and at a fence. -/
theorem unfence_json (hpre : ¬ jsonFence <:+: pre) (rest : List Char) :
    unfence (pre ++ jsonFence ++ rest) = Text.trim (upTo fence (upTo jsonFence rest)) := by
  rw [unfence, Text.cutAt_of_first (not_jsonFence_joint hpre)]

theorem unfence_plain (hpre : ¬ fence <:+: pre ++ fence.dropLast)
    (hmark : ¬ jsonFence <:+: pre ++ fence ++ rest) :
    unfence (pre ++ fence ++ rest) = Text.trim (upTo fence rest) := by
  rw [unfence, Text.cutAt_eq_none.mpr hmark, Text.cutAt_of_first hpre]

theorem trim_append_ne {ticks : List Char} (hne : ticks ≠ [])
    (hticks : ∀ c ∈ ticks, Text.isBlank c = false) : Text.trim (j ++ ticks) ≠ Text.trim j := by
  have hshorter := (Text.trimEnd_isPrefix (Text.trimStart j)).length_le
  have hstart : Text.trimStart (j ++ ticks) = Text.trimStart j ++ ticks := by
    obtain ⟨c, cs, rfl⟩ := List.exists_cons_of_ne_nil hne
    exact Text.trimStart_append (hticks c List.mem_cons_self) j cs
  have hlonger : Text.trim (j ++ ticks) = Text.trimStart j ++ ticks := by
    rw [Text.trim, hstart]
    obtain ⟨cs, e, rfl⟩ := ticks.eq_nil_or_concat.resolve_left hne
    rw [List.concat_eq_append] at hticks ⊢
    rw [← List.append_assoc]
    exact Text.trimEnd_append (hticks e (by simp)) _ []
  intro hsame
  have hlength := congrArg List.length (hlonger.symm.trans hsame)
  rw [List.length_append, Text.trim] at hlength
  have hpos := List.length_pos_iff.mpr hne
  omega

/-- The document in a fence that is marked as JSON is what is left, unless another mark runs over
its end. -/
theorem unfence_json_iff (hpre : ¬ jsonFence <:+: pre) (hj : ¬ fence <:+: j ++ fence.dropLast) :
    unfence (pre ++ jsonFence ++ (j ++ fence ++ post)) = Text.trim j ↔ ¬ Overruns post := by
  rw [unfence_json hpre]
  constructor
  · intro hread hover
    obtain ⟨ticks, hne, hticks, hcut⟩ := upTo_upTo_of_overruns hj hover
    have htick : ∀ c ∈ fence.dropLast, c = '\x60' :=
      List.forall_mem_cons.mpr ⟨rfl, List.forall_mem_singleton.mpr rfl⟩
    rw [hcut] at hread
    refine trim_append_ne hne (fun c hc => ?_) hread
    rw [htick c (hticks.subset hc)]
    decide
  · intro hover
    rw [upTo_upTo_of_not hj hover]

/-- Blanks at the end of a reply are of no account. -/
theorem overruns_trimEnd : Overruns (Text.trimEnd post) ↔ Overruns post := by
  have hword (word : List Char) : word ++ ['n'] <+: Text.trimEnd post ↔ word ++ ['n'] <+: post := by
    refine ⟨fun h => h.trans (Text.trimEnd_isPrefix post), ?_⟩
    rintro ⟨rest, rfl⟩
    rw [List.append_assoc, List.singleton_append, Text.trimEnd_append (by decide)]
    exact ⟨Text.trimEnd rest, List.append_assoc _ _ _⟩
  exact or_congr (hword "`jso".toList) (hword "``jso".toList)

def readDocument : Except Json.Fault Data → BatchReply
  | .error .malformed => .unreadable
  | .error f => .fault (.json f)
  | .ok v =>
    match itemsOf v with
    | .error f => .fault f
    | .ok xs => readItems xs []

def proposal (text : String) : Except Json.Fault Data → Except Fault Data
  | .ok v => .ok v
  | .error .malformed => .ok (unreadableProposal text)
  | .error f => .error (.json f)

/-- From the reply `text` the document `j` is read, in a batch and in a proposal. -/
structure Decodes (text j : String) : Prop where
  handed : String.ofList (unfence (Text.trim text.toList)) = j
  batch : readBatch (some text) = readDocument (Json.parse j)
  proposed : ∀ (a : Agent) (ms : List ModuleDoc) (log : List Request),
    a.service log (a.structureRequest ms) = some text →
      (a.suggestStructure ms).run log =
        (proposal text (Json.parse j), log ++ [a.structureRequest ms])

theorem decodes_iff {text j : String} :
    Decodes text j ↔ unfence (Text.trim text.toList) = j.toList := by
  constructor
  · intro h
    rw [← h.handed, String.toList_ofList]
  · intro h
    have hhanded : String.ofList (unfence (Text.trim text.toList)) = j := by
      rw [h, String.ofList_toList]
    have hdata : replyData text = Json.parse j := by rw [replyData, hhanded]
    refine ⟨hhanded, ?_, fun a ms log hreply => ?_⟩
    · rw [readBatch, hdata]
      rfl
    · cases hj : Json.parse j with
      | ok v => exact run_suggestStructure_some hreply (.inl (hdata.trans hj))
      | error f =>
        cases f with
        | malformed => exact run_suggestStructure_some hreply (.inr ⟨hdata.trans hj, rfl⟩)
        | longInteger n => exact run_suggestStructure_long hreply (hdata.trans hj)

theorem jsonFence_eq : jsonFence = fence ++ "json".toList := rfl

theorem trim_fenced (pre m post : List Char) : Text.trim (pre ++ (fence ++ m ++ fence) ++ post) =
    Text.trimStart pre ++ (fence ++ m ++ fence) ++ Text.trimEnd post := by
  have hends : fence ++ m ++ fence = '\x60' :: (fence.dropLast ++ m ++ fence.dropLast) ++
      ['\x60'] := by
    rw [List.cons_append, List.append_assoc _ fence.dropLast]
    rfl
  rw [hends]
  exact Text.trim_around (by decide) (by decide) _ _ _

theorem toList_fenced (pre j post : String) : (pre ++ "```" ++ j ++ "```" ++ post).toList =
    pre.toList ++ (fence ++ j.toList ++ fence) ++ post.toList := by
  rw [String.toList_append, String.toList_append, String.toList_append, String.toList_append, fence]
  simp only [List.append_assoc]

theorem toList_marked (pre j post : String) : (pre ++ "```json" ++ j ++ "```" ++ post).toList =
    pre.toList ++ (fence ++ ("json".toList ++ j.toList) ++ fence) ++ post.toList := by
  have hmark : "```json".toList = fence ++ "json".toList := rfl
  rw [String.toList_append, String.toList_append, String.toList_append, String.toList_append, hmark,
    fence]
  simp only [List.append_assoc]

/-- **The document in a fence is what is read from a reply**, whatever stands around the fence: in a
fence that is marked as JSON exactly if no mark runs over its end, and in a plain one if there is no
mark at all. -/
theorem fenced_document_read_iff {j : String} (hj : Json.Closed j) (hfence : ¬ fence <:+: j.toList)
    (pre post : String) :
    (¬ jsonFence <:+: pre.toList →
      (Decodes (pre ++ "```json" ++ j ++ "```" ++ post) (Text.trimString j) ↔
        ¬ Overruns post.toList)) ∧
    (¬ fence <:+: pre.toList → pre.toList.getLast? ≠ some '\x60' →
      ¬ jsonFence <:+: (pre ++ "```" ++ j ++ "```" ++ post).toList →
      Decodes (pre ++ "```" ++ j ++ "```" ++ post) (Text.trimString j)) := by
  have hjoint := not_fence_joint hfence hj.getLast?
  have hstart : Text.trimStart pre.toList <:+ pre.toList := List.dropWhile_suffix _
  have htrim : (Text.trimString j).toList = Text.trim j.toList := String.toList_ofList
  constructor
  · intro hpre
    have hpre' : ¬ jsonFence <:+: Text.trimStart pre.toList :=
      fun h => hpre (h.trans hstart.isInfix)
    have hread : unfence (Text.trimStart pre.toList ++ jsonFence ++
      (j.toList ++ fence ++ Text.trimEnd post.toList)) =
        Text.trim j.toList ↔ ¬ Overruns post.toList := by
      rw [unfence_json_iff hpre' hjoint, overruns_trimEnd]
    rw [decodes_iff, toList_marked, trim_fenced, htrim, ← hread, jsonFence_eq]
    simp only [List.append_assoc]
  · intro hpre hlast hmark
    have hpost : ¬ jsonFence <:+: Text.trim (pre ++ "```" ++ j ++ "```" ++ post).toList :=
      fun h => hmark (h.trans (Text.trim_isInfix _))
    rw [toList_fenced, trim_fenced] at hpost
    rw [decodes_iff, toList_fenced, trim_fenced, htrim]
    simp only [List.append_assoc] at hpost ⊢
    rw [← List.append_assoc] at hpost ⊢
    have hend : (Text.trimStart pre.toList).getLast? ≠ some '\x60' := by
      intro hsome
      obtain ⟨blanks, hblanks⟩ := hstart
      rw [← hblanks, List.getLast?_append, hsome] at hlast
      exact hlast rfl
    rw [unfence_plain (not_fence_joint (fun h => hpre (h.trans hstart.isInfix)) hend) hpost,
      ← List.append_assoc, upTo_of_first hjoint]

/-- an answer between blanks -/
def addsAnswer : String := "\n[\x7b\"id\": \"f\", \"description\": \"Adds `x`.\"\x7d]\n"

theorem addsAnswer_closed : Json.Closed addsAnswer ∧ ¬ fence <:+: addsAnswer.toList := by
  refine ⟨by rfl, Text.cutAt_eq_none.mp ?_⟩
  decide +kernel

/-- Other fences around the fence and blanks around the answer do not matter. -/
theorem addsAnswer_read :
    Decodes ("See ```a``` and ``b``:\n" ++ "```json" ++ addsAnswer ++ "```" ++
      "``\n```json\n[]\n```\n")
      (Text.trimString addsAnswer) ∧
    Decodes ("See ``a`` and `b:\n" ++ "```" ++ addsAnswer ++ "```" ++ "\n```\n[]\n```\n")
      (Text.trimString addsAnswer) := by
  obtain ⟨hclosed, hfence⟩ := addsAnswer_closed
  refine ⟨((fenced_document_read_iff hclosed hfence _ _).1 (Text.cutAt_eq_none.mp ?_)).mpr ?_,
    (fenced_document_read_iff hclosed hfence _ _).2 (Text.cutAt_eq_none.mp ?_) ?_
      (Text.cutAt_eq_none.mp ?_)⟩ <;>
    decide +kernel

/-- A mark right after one backtick more leaves a backtick at the end of the answer, and it is not
read. -/
theorem addsAnswer_overrun :
    answerOf? addsAnswer = some [("f", "Adds `x`.")] ∧ Json.Closed addsAnswer ∧
    ¬ fence <:+: addsAnswer.toList ∧
    ¬ Decodes ("" ++ "```json" ++ addsAnswer ++ "```" ++ "`json\n[]\n```")
    (Text.trimString addsAnswer) ∧
    Unreadable (some ("" ++ "```json" ++ addsAnswer ++ "```" ++ "`json\n[]\n```")) := by
  refine ⟨by decide +kernel, addsAnswer_closed.1, addsAnswer_closed.2, ?_, by decide +kernel⟩
  rw [decodes_iff]
  decide +kernel

end Agent

end Apidoc
