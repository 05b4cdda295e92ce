import Apidoc.Proofs.Describe.Exchange
import Apidoc.Proofs.Describe.Prompts
import Apidoc.Proofs.Describe.Replies

/-!
# Components in batches

* `Agent.large`, `Agent.small`     the components that are asked for on their own, and the others;
* `Agent.batches`                  the batches of the others, one after the other, all full but the
                                   last;
* `Agent.run_describeAll`          first the large components are described, then the batches;
* `Agent.Answers`                  a reply that gives the descriptions of a batch, in any order;
* `Agent.batch_size_immaterial`    with such replies the size of the batches is no matter for what
                                   is described.
-/

namespace Apidoc.Agent

variable {a : Agent} {log : List Request} {cs : List Component}

/-! ## pieces of a list -/

section

variable {α : Type} {size n : Nat} {xs : List α}

theorem flatten_chunks (hsize : 1 ≤ size) (h : xs.length ≤ n) :
    (chunks size n xs).flatten = xs := by
  induction n generalizing xs with
  | zero => rw [List.eq_nil_of_length_eq_zero (Nat.le_zero.mp h)]; rfl
  | succ n ih =>
    rw [chunks]
    split
    · next hnil => rw [List.isEmpty_iff.mp hnil]; rfl
    · have hrest : (xs.drop size).length ≤ n := by
        rw [List.length_drop]
        omega
      rw [List.flatten_cons, ih hrest, List.take_append_drop]

theorem length_chunks (hsize : 1 ≤ size) (h : xs.length ≤ n) :
    (chunks size n xs).length = (xs.length + size - 1) / size := by
  induction n generalizing xs with
  | zero =>
    rw [Nat.le_zero.mp h, Nat.zero_add, Nat.div_eq_of_lt (by omega)]
    rfl
  | succ n ih =>
    rw [chunks]
    split
    · next hnil =>
      obtain rfl := List.isEmpty_iff.mp hnil
      show 0 = (0 + size - 1) / size
      rw [Nat.zero_add, Nat.div_eq_of_lt (by omega)]
    · next hsome =>
      have hpos : 0 < xs.length := List.length_pos_iff.mpr (by simpa using hsome)
      have hrest : (xs.drop size).length ≤ n := by
        rw [List.length_drop]
        omega
      have hfirst : xs.length + size - 1 = xs.length - 1 + size := by omega
      rw [List.length_cons, ih hrest, List.length_drop, hfirst, Nat.add_div_right _ (by omega)]
      by_cases hle : size ≤ xs.length
      · rw [Nat.sub_add_cancel hle]
      · rw [Nat.div_eq_of_lt (by omega), Nat.div_eq_of_lt (by omega)]

theorem mem_chunks (hsize : 1 ≤ size) {b : List α} (h : b ∈ chunks size n xs) :
    b ≠ [] ∧ b.length ≤ size := by
  induction n generalizing xs with
  | zero => cases h
  | succ n ih =>
    rw [chunks] at h
    split at h
    · cases h
    · next hsome =>
      rcases List.mem_cons.mp h with rfl | h
      · have hpos : 0 < xs.length := List.length_pos_iff.mpr (by simpa using hsome)
        refine ⟨List.ne_nil_of_length_pos ?_, ?_⟩ <;> rw [List.length_take] <;> omega
      · exact ih h

end

/-! ## runs -/

/-- the components that are asked for on their own -/
def large (cs : List Component) : List Component := cs.filter isLarge

/-- the components that are asked for together with others -/
def small (cs : List Component) : List Component := cs.filter fun c => !isLarge c

def batches (size : Nat) (cs : List Component) : List (List Component) :=
  chunks size (small cs).length (small cs)

theorem flatten_batches {size : Nat} (hsize : 1 ≤ size) (cs : List Component) :
    (batches size cs).flatten = small cs :=
  flatten_chunks hsize (Nat.le_refl _)

theorem mem_batches {size : Nat} (hsize : 1 ≤ size) {b : List Component} (h : b ∈ batches size cs) :
    b ≠ [] ∧ b.length ≤ size := mem_chunks hsize h

theorem run_describeAll {size : Nat} (hsize : 1 ≤ size) {texts : List String}
    (h : a.replies log ((large cs).map a.ownRequest) = texts.map some) :
    (a.describeAll cs size).run log = (a.describeBatches (batches size cs)
      (Ordered.ofList (described (large cs) texts))).run (log ++ (large cs).map a.ownRequest) := by
  have hzero : ¬ (size : Int) = 0 := by omega
  have hneg : ¬ (size : Int) < 0 := by omega
  have hlarge : (a.describeEach ((cs.filter isLarge).map fun c => (c, {}))).run log = _ :=
    run_describeEach_own h
  rw [describeAll, Run.bind_ok hlarge]
  dsimp only
  rw [if_neg hzero, if_neg hneg]
  rfl

/-! ## answers -/

/-- a reply that gives the descriptions of a batch, in any order and without a fence -/
def Answers (d : String → String) (b : List Component) (reply : Reply) : Prop :=
  ∃ text ps, reply = some text ∧ IsAnswer text ps ∧ ¬ fence <:+: text.toList ∧
    ps.Perm (b.map fun c => (c.id, d c.id))

def pairs (d : String → String) (cs : List Component) : List (String × Data) :=
  cs.map fun c => (c.id, .str (d c.id))

theorem keys_pairs (d : String → String) (cs : List Component) :
    (pairs d cs).map (·.1) = cs.map (·.id) := by
  simp [pairs]

theorem run_describeBatch_answers {d : String → String} {b : List Component} (hb : b ≠ [])
    (h : Answers d b (a.service log (a.batchRequest b))) (hids : (b.map (·.id)).Nodup) :
    ∃ n, (a.describeBatch b).run log = (.ok (Ordered.keyed n), log ++ [a.batchRequest b]) ∧
    n.Perm (pairs d b) := by
  obtain ⟨text, ps, hreply, hanswer, hfence, hperm⟩ := h
  have hperm' : (ps.map fun p => (p.1, Data.str p.2)).Perm (pairs d b) := by
    have hmap := hperm.map fun p => (p.1, Data.str p.2)
    rwa [List.map_map] at hmap
  have hnodup : ((ps.map fun p => (p.1, Data.str p.2)).map (·.1)).Nodup := by
    rw [(hperm'.map _).nodup_iff, keys_pairs]
    exact hids
  have hlists := lists_answer hanswer fun hquoted => hfence (hquoted.trans (Text.trim_isInfix _))
  have hkeyed : (ps.map fun p => (Data.str p.1, Data.str p.2)) =
      Ordered.keyed (ps.map fun p => (p.1, Data.str p.2)) := by
    simp [Ordered.keyed]
  refine ⟨_, run_describeBatch_described hb
    (readBatch_described_iff.mpr ⟨_, hreply ▸ hlists, ?_⟩), hperm'⟩
  rw [hkeyed, Ordered.ofList_keyed, Ordered.ofList_eq_self hnodup]

theorem run_describeBatches_answers {d : String → String} {bs : List (List Component)}
    (hbs : ∀ b ∈ bs, b ≠ [])
    (h : List.Forall₂ (Answers d) bs (a.replies log (bs.map a.batchRequest)))
    {m : List (String × Data)} (hids : (m.map (·.1) ++ bs.flatten.map (·.id)).Nodup) :
    ∃ n, (a.describeBatches bs (Ordered.keyed m)).run log =
      (.ok (Ordered.keyed n), log ++ bs.map a.batchRequest) ∧
      n.Perm (m ++ pairs d bs.flatten) := by
  induction bs generalizing log m with
  | nil =>
    refine ⟨m, ?_, by simp [pairs]⟩
    rw [List.map_nil, List.append_nil]
    rfl
  | cons b bs ih =>
    rw [List.map_cons, replies] at h
    cases h with
    | cons hfirst hrest =>
      rw [List.forall_mem_cons] at hbs
      rw [List.flatten_cons, List.map_append] at hids
      have hb : (b.map (·.id)).Nodup := by
        have hright := (List.nodup_append.mp hids).2.1
        exact (List.nodup_append.mp hright).1
      obtain ⟨n, hrun, hperm⟩ := run_describeBatch_answers hbs.1 hfirst hb
      -- the new ids are distinct from those that are there and from those of the batches to come
      have hkeys : ((m ++ n).map (·.1)).Perm (m.map (·.1) ++ b.map (·.id)) := by
        rw [List.map_append, ← keys_pairs d b]
        exact (hperm.map _).append_left _
      have hids' : ((m ++ n).map (·.1) ++ bs.flatten.map (·.id)).Nodup := by
        rw [(hkeys.append_right _).nodup_iff, List.append_assoc]
        exact hids
      have hoverlay : Ordered.overlay (Ordered.keyed m) (Ordered.keyed n) =
          Ordered.keyed (m ++ n) := by
        rw [Ordered.overlay_keyed, Ordered.overlay_new (List.nodup_append.mp hids').1]
      obtain ⟨n', hrun', hperm'⟩ := ih hbs.2 hrest hids'
      refine ⟨n', ?_, hperm'.trans ?_⟩
      · rw [describeBatches, Run.bind_ok hrun, hoverlay, hrun', List.append_assoc]
        rfl
      · have happend : pairs d (b :: bs).flatten = pairs d b ++ pairs d bs.flatten := by
          simp [pairs]
        rw [happend, ← List.append_assoc]
        exact (hperm.append_left m).append_right _

/-! ## all components -/

/-- the description of a component that comes of a text: what was asked for on its own is trimmed -/
def description (d : String → String) (c : Component) : String :=
  if isLarge c then Text.trimString (d c.id) else d c.id

theorem perm_large_small (cs : List Component) : (large cs ++ small cs).Perm cs :=
  List.filter_append_perm _ cs

theorem map_description_large (d : String → String) (cs : List Component) :
    ((large cs).map fun c => (c.id, Data.str (Text.trimString (d c.id)))) =
      (large cs).map fun c => (c.id, Data.str (description d c)) := by
  refine List.map_congr_left fun c hc => ?_
  rw [description, if_pos (List.mem_filter.mp hc).2]

theorem map_description_small (d : String → String) (cs : List Component) :
    pairs d (small cs) = (small cs).map fun c => (c.id, Data.str (description d c)) := by
  refine List.map_congr_left fun c hc => ?_
  rw [description, if_neg (by simpa using (List.mem_filter.mp hc).2)]

theorem described_map (d : String → String) (cs : List Component) :
    described cs (cs.map fun c => d c.id) =
      Ordered.keyed (cs.map fun c => (c.id, .str (Text.trimString (d c.id)))) := by
  induction cs with
  | nil => rfl
  | cons c cs ih => rw [List.map_cons, described_cons, ih, List.map_cons]; rfl

/-- **The size of the batches is no matter.** Where the service knows a text for each id and the
answers to batches give those texts in some order, the same descriptions come of every size, with a
request for each class and module and one for each batch.  The components of a request stand in its
prompt, in order. -/
theorem batch_size_immaterial (hids : (cs.map (·.id)).Nodup) (d : String → String) {size : Nat}
    (hsize : 1 ≤ size) (hlarge : a.replies log ((large cs).map a.ownRequest) =
      (large cs).map fun c => some (d c.id))
    (hbatches : List.Forall₂ (Answers d) (batches size cs)
      (a.replies (log ++ (large cs).map a.ownRequest) ((batches size cs).map a.batchRequest))) :
    (∃ ds, (a.describeAll cs size).run log =
        (.ok ds, log ++ (large cs).map a.ownRequest ++ (batches size cs).map a.batchRequest) ∧
      ds.Perm (cs.map fun c => (.str c.id, .str (description d c)))) ∧
    (batches size cs).length = ((small cs).length + size - 1) / size ∧
    (batches size cs).flatten = small cs ∧ (∀ b ∈ batches size cs, b.length ≤ size) ∧
    (∀ b ∈ batches size cs, Prompt.Lists (a.batchRequest b).prompt b) ∧
    ∀ c ∈ large cs, Prompt.Asks (a.ownRequest c).prompt c := by
  have hflatten := flatten_batches hsize cs
  refine ⟨?_, length_chunks hsize (Nat.le_refl _), hflatten, fun b hb => (mem_batches hsize hb).2,
    fun b _ => Prompt.lists_batchPrompt b, fun c _ => Prompt.asks_describePrompt c {}⟩
  have hall : ((large cs ++ small cs).map (·.id)).Nodup :=
    ((perm_large_small cs).map _).nodup_iff.mpr hids
  rw [List.map_append] at hall
  have hkeys : ((large cs).map fun c => (c.id, Data.str (Text.trimString (d c.id)))).map (·.1) =
      (large cs).map (·.id) := by simp
  have hdone : Ordered.ofList (described (large cs) ((large cs).map fun c => d c.id)) =
      Ordered.keyed ((large cs).map fun c => (c.id, .str (Text.trimString (d c.id)))) := by
    rw [described_map, Ordered.ofList_keyed, Ordered.ofList_eq_self]
    rw [hkeys]
    exact (List.nodup_append.mp hall).1
  have htexts : a.replies log ((large cs).map a.ownRequest) =
      ((large cs).map fun c => d c.id).map some := by
    rw [hlarge, List.map_map]
    rfl
  obtain ⟨n, hrun, hperm⟩ :=
    run_describeBatches_answers (fun b hb => (mem_batches hsize hb).1) hbatches
    (m := (large cs).map fun c => (c.id, .str (Text.trimString (d c.id))))
      (by rw [hkeys, hflatten]; exact hall)
  refine ⟨Ordered.keyed n, ?_, ?_⟩
  · rw [run_describeAll hsize htexts, hdone, hrun]
  · rw [hflatten, map_description_large, map_description_small, ← List.map_append] at hperm
    have hcs := (hperm.trans ((perm_large_small cs).map _)).map fun p => (Data.str p.1, p.2)
    rwa [List.map_map] at hcs

def sampleComponents : List Component :=
  [namedFunction "f", namedClass "C", namedFunction "g", namedFunction "h"]

def spaced (id : String) : String := " " ++ id ++ " "

def reversedAnswer : String :=
  "[\x7b\"id\": \"g\", \"description\": \" g \"\x7d, \x7b\"id\": \"f\", \"description\": \" f \"\x7d]"

def lastAnswer : String := "[\x7b\"id\": \"h\", \"description\": \" h \"\x7d]\n"

def sampleAgent : Agent := scriptedAgent [some " C ", some reversedAnswer, some lastAnswer]

theorem sampleAgent_describes :
    ∃ ds, (sampleAgent.describeAll sampleComponents 2).run [] =
      (.ok ds, [sampleAgent.ownRequest (namedClass "C"),
        sampleAgent.batchRequest [namedFunction "f", namedFunction "g"],
        sampleAgent.batchRequest [namedFunction "h"]]) ∧
      ds.Perm [(.str "f", .str " f "), (.str "C", .str "C"), (.str "g", .str " g "),
        (.str "h", .str " h ")] ∧
      Prompt.question? (sampleAgent.ownRequest (namedClass "C")).prompt =
        some ⟨"class", "C", "api.py:1"⟩ ∧
      Prompt.listed (sampleAgent.batchRequest [namedFunction "f", namedFunction "g"]).prompt =
        [⟨"f", "f", "function"⟩, ⟨"g", "g", "function"⟩] := by
  have hfirst : Answers spaced [namedFunction "f", namedFunction "g"] (some reversedAnswer) :=
    ⟨_, [("g", " g "), ("f", " f ")], rfl, isAnswer_of_answerOf? (by decide +kernel),
      by rw [← Text.contains_iff]; decide +kernel, .swap _ _ _⟩
  have hlast : Answers spaced [namedFunction "h"] (some lastAnswer) :=
    ⟨_, [("h", " h ")], rfl, isAnswer_of_answerOf? (by decide +kernel),
      by rw [← Text.contains_iff]; decide +kernel, .refl _⟩
  have hclass : description spaced (namedClass "C") = "C" := by decide +kernel
  have hids : (sampleComponents.map (·.id)).Nodup := by decide
  have hlarge : sampleAgent.replies [] ((large sampleComponents).map sampleAgent.ownRequest) =
      (large sampleComponents).map fun c => some (spaced c.id) := rfl
  have hsize : 1 ≤ 2 := by decide
  have hfunction {name : String} (h : '\n' ∉ name.toList) : Prompt.Listable (namedFunction name) :=
    ⟨h, h, nofun, nofun⟩
  have hlistable : ∀ c ∈ [namedFunction "f", namedFunction "g"], Prompt.Listable c :=
    List.forall_mem_cons.mpr ⟨hfunction (by decide), List.forall_mem_singleton.mpr
      (hfunction (by decide))⟩
  obtain ⟨⟨ds, hrun, hperm⟩, -, -, -, hlists, hasks⟩ :=
    batch_size_immaterial hids spaced hsize hlarge (.cons hfirst (.cons hlast .nil))
  refine ⟨ds, hrun, hperm.trans ?_, (hasks _ (.head _)).read (by decide) (by decide),
    (hlists _ (.head _)).read hlistable⟩
  rw [← hclass]
  exact .refl _

end Apidoc.Agent
