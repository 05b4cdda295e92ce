import Apidoc.Proofs.Describe.Batches

/-!
# What comes of batches

The keys of the descriptions that a run returns: those of the classes and modules, and for each
batch the ids that its reply lists, or those of its components if the reply cannot be read.

* `Agent.turns`                    the batches of a run, each with its reply;
* `Agent.Turn.Settles`             the keys that come of a reply;
* `Agent.Gathers`                  how keys grow from turn to turn;
* `Agent.described_exactly_iff`    exactly what was asked for is described if no reply lists
                                   anything else and each component is settled by a turn.
-/

namespace Apidoc

/-! ## keys -/

/-- equal, or neither is a text -/
def Data.Akin (j k : Data) : Prop := j = k ∨ (∀ s, j ≠ .str s) ∧ ∀ s, k ≠ .str s

theorem Data.Akin.trans {i j k : Data} (h : i.Akin j) (h' : j.Akin k) : i.Akin k := by
  rcases h with rfl | ⟨hi, hj⟩
  · exact h'
  · rcases h' with rfl | ⟨-, hk⟩
    · exact .inr ⟨hi, hj⟩
    · exact .inr ⟨hi, hk⟩

theorem Data.Akin.eq_str {j : Data} {s : String} (h : j.Akin (.str s)) : j = .str s := by
  rcases h with h | ⟨-, h⟩
  · exact h
  · exact absurd rfl (h s)

theorem Data.Akin.str_eq {k : Data} {s : String} (h : (Data.str s).Akin k) : k = .str s := by
  rcases h with h | ⟨h, -⟩
  · exact h.symm
  · exact absurd rfl (h s)

theorem Data.akin_of_beq {j k : Data} (h : (j == k) = true) : j.Akin k := by
  by_cases hk : ∃ s, k = .str s
  · obtain ⟨s, rfl⟩ := hk
    exact .inl (Data.beq_str.mp h)
  · refine .inr ⟨?_, fun s hs => hk ⟨s, hs⟩⟩
    rintro s rfl
    exact hk ⟨s, Data.beq_str.mp (Data.str_beq_comm s k ▸ h)⟩

theorem Data.beq_self_of_isKey {k : Data} (h : Yaml.isKey k = true) : (k == k) = true := by
  change Data.same k k = true
  cases k with
  | null => rfl
  | bool b => cases b <;> rfl
  | int n => simp [Data.same, Data.sameNumber, Data.wholeNumber?]
  | float x =>
    rw [Data.same, Data.sameNumber]
    · cases hx : (Data.float x).wholeNumber? with
      | none => simp
      | some n => simp
    all_goals simp
  | str s => rw [Data.same, beq_self_eq_true]
  | date y m d => simp [Data.same]
  | moment m => simp [Data.same]
  | bytes bs => simp [Data.same]
  | list xs => cases h
  | map ps => cases h
  | set xs => cases h

namespace Ordered

variable {κ α : Type} [BEq κ]

theorem mem_keys_set {m : Ordered κ α} {k j : κ} {v : α} (h : j ∈ (set m k v).map (·.1)) :
    j ∈ m.map (·.1) ∨ j = k := by
  induction m with
  | nil => exact .inr (List.mem_singleton.mp h)
  | cons p m ih =>
    rw [set] at h
    split at h
    · exact .inl h
    · rcases List.mem_cons.mp h with h | h
      · exact .inl (List.mem_cons.mpr (.inl h))
      · rcases ih h with h | h
        · exact .inl (List.mem_cons_of_mem _ h)
        · exact .inr h

theorem mem_keys_overlay {m n : Ordered κ α} {j : κ} (h : j ∈ (overlay m n).map (·.1)) :
    j ∈ m.map (·.1) ∨ j ∈ n.map (·.1) := by
  induction n generalizing m with
  | nil => exact .inl h
  | cons p n ih =>
    rw [List.map_cons, List.mem_cons]
    rcases ih h with h | h
    · rcases mem_keys_set h with h | h
      · exact .inl h
      · exact .inr (.inl h)
    · exact .inr (.inr h)

end Ordered

theorem exists_akin_overlay {m ps : Descriptions} {k : Data} (hk : k ∈ ps.map (·.1))
    (hkey : Yaml.isKey k = true) : ∃ j ∈ (Ordered.overlay m ps).map (·.1), j.Akin k := by
  obtain ⟨j, hj, hjk⟩ := Ordered.exists_key_overlay (Data.beq_self_of_isKey hkey) hk m
  exact ⟨j, hj, Data.akin_of_beq hjk⟩

namespace Agent



variable {a : Agent} {log log' : List Request} {cs : List Component}

/-! ## turns -/

/-- a batch and the reply to it -/
structure Turn where
  batch : List Component
  reply : Reply

def Turn.followUps (a : Agent) (t : Turn) : List Request :=
  if Unreadable t.reply then t.batch.map a.ownRequest else []

def turns (a : Agent) : List Request → List (List Component) → List Turn
  | _, [] => []
  | log, b :: bs =>
    let t : Turn := ⟨b, a.service log (a.batchRequest b)⟩
    t :: a.turns (log ++ a.batchRequest b :: t.followUps a) bs

/-- the keys that come of a reply: the ids that it lists, or those of the components if it cannot be
read -/
def Turn.Settles (t : Turn) (k : Data) : Prop :=
  (∃ ps, Lists t.reply ps ∧ k ∈ ps.map (·.1)) ∨ Unreadable t.reply ∧ ∃ c ∈ t.batch, k = .str c.id

theorem Lists.unique {reply : Reply} {ps qs : List (Data × Data)} (hps : Lists reply ps)
    (hqs : Lists reply qs) : ps = qs := by
  obtain ⟨text, v, xs, rfl, hv, hxs, hps⟩ := hps
  obtain ⟨_, w, ys, htext, hw, hys, hqs⟩ := hqs
  cases htext
  cases hv.symm.trans hw
  cases hxs.symm.trans hys
  exact List.right_unique_forall₂' (fun _ _ _ hp hq => hp.unique hq) hps hqs

theorem isKey_of_items {xs : List Data} {ps : List (Data × Data)} (h : List.Forall₂ Item xs ps) :
    ∀ p ∈ ps, Yaml.isKey p.1 = true := by
  induction h with
  | nil => exact List.forall_mem_nil _
  | cons hitem _ ih => exact List.forall_mem_cons.mpr ⟨hitem.2, ih⟩

theorem Lists.not_unreadable {reply : Reply} {ps : List (Data × Data)} (h : Lists reply ps) :
    ¬ Unreadable reply := by
  intro hbad
  cases (readBatch_unreadable_iff.mpr hbad).symm.trans (readBatch_described_iff.mpr ⟨ps, h, rfl⟩)

/-- What is returned for a batch are pairs whose keys are settled by its reply. -/
theorem exists_pairs_of_run {b : List Component} (hb : b ≠ []) {t : Turn}
    (ht : t = ⟨b, a.service log (a.batchRequest b)⟩) {ds : Descriptions}
    (h : (a.describeBatch b).run log = (.ok ds, log')) :
    log' = log ++ a.batchRequest b :: t.followUps a ∧
      ∃ ps, ds = Ordered.ofList ps ∧ (∀ p ∈ ps, Yaml.isKey p.1 = true) ∧ ∀ k, k ∈ ps.map (·.1) ↔
      t.Settles k := by
  subst ht
  cases hread : readBatch (a.service log (a.batchRequest b)) with
  | fault f => cases (run_describeBatch_fault hb hread).symm.trans h
  | described ds' =>
    cases (run_describeBatch_described hb hread).symm.trans h
    obtain ⟨ps, hlists, rfl⟩ := readBatch_described_iff.mp hread
    refine ⟨by rw [Turn.followUps, if_neg hlists.not_unreadable], ps, rfl, ?_,
      fun k => ⟨fun hk => ?_, ?_⟩⟩
    · obtain ⟨text, v, xs, -, -, -, hitems⟩ := hlists
      exact isKey_of_items hitems
    · exact .inl ⟨ps, hlists, hk⟩
    · rintro (⟨qs, hqs, hk⟩ | ⟨hbad, -⟩)
      · exact hlists.unique hqs ▸ hk
      · exact absurd hbad hlists.not_unreadable
  | unreadable =>
    have hbad := readBatch_unreadable_iff.mp hread
    rw [run_describeBatch_unreadable hb hread] at h
    obtain ⟨texts, hlength, rfl, rfl⟩ := exists_texts_of_describeOwn h
    have hkeys := keys_described hlength
    refine ⟨by rw [Turn.followUps, if_pos hbad, List.append_assoc]; rfl, described b texts, rfl,
      ?_, fun k => ?_⟩
    · intro p hp
      have hkey := List.mem_map_of_mem (f := (·.1)) hp
      rw [hkeys] at hkey
      obtain ⟨c, -, hc⟩ := List.mem_map.mp hkey
      rw [← hc]
      rfl
    · rw [hkeys, List.mem_map]
      constructor
      · rintro ⟨c, hc, rfl⟩
        exact .inr ⟨hbad, c, hc, rfl⟩
      · rintro (⟨ps, hps, -⟩ | ⟨-, c, hc, rfl⟩)
        · exact absurd hbad hps.not_unreadable
        · exact ⟨c, hc, rfl⟩

/-! ## runs -/

/-- The keys that were there stay, others come of turns only, and every turn adds its keys. -/
structure Gathers (done ds : Descriptions) (ts : List Turn) : Prop where
  keeps : done.map (·.1) ⊆ ds.map (·.1)
  only : ∀ k ∈ ds.map (·.1), k ∈ done.map (·.1) ∨ ∃ t ∈ ts, t.Settles k
  each : ∀ t ∈ ts, ∀ k, t.Settles k → ∃ j ∈ ds.map (·.1), j.Akin k

theorem Gathers.nil (done : Descriptions) : Gathers done done [] where
  keeps := List.Subset.refl _
  only _ hk := .inl hk
  each := nofun

theorem Gathers.cons {done mid ds : Descriptions} {t : Turn} {ts : List Turn}
    (h : Gathers done mid [t]) (h' : Gathers mid ds ts) : Gathers done ds (t :: ts) where
  keeps := List.Subset.trans h.keeps h'.keeps
  only k hk := by
    rcases h'.only k hk with hk | ⟨u, hu, hk⟩
    · rcases h.only k hk with hk | ⟨u, hu, hk⟩
      · exact .inl hk
      · exact .inr ⟨u, List.mem_cons.mpr (.inl (List.mem_singleton.mp hu)), hk⟩
    · exact .inr ⟨u, List.mem_cons_of_mem _ hu, hk⟩
  each u hu k hk := by
    rcases List.mem_cons.mp hu with rfl | hu
    · obtain ⟨j, hj, hjk⟩ := h.each u List.mem_cons_self k hk
      exact ⟨j, h'.keeps hj, hjk⟩
    · exact h'.each u hu k hk

theorem gathers_overlay {t : Turn} {ps : List (Data × Data)}
    (hkeys : ∀ p ∈ ps, Yaml.isKey p.1 = true) (h : ∀ k, k ∈ ps.map (·.1) ↔ t.Settles k)
    (done : Descriptions) : Gathers done (Ordered.overlay done (Ordered.ofList ps)) [t] where
  keeps := Ordered.keys_overlay done _
  only k hk := by
    rcases Ordered.mem_keys_overlay hk with hk | hk
    · exact .inl hk
    · rcases Ordered.mem_keys_overlay hk with hk | hk
      · cases hk
      · exact .inr ⟨t, List.mem_cons_self, (h k).mp hk⟩
  each u hu k hk := by
    obtain rfl := List.mem_singleton.mp hu
    have hkey {j : Data} (hj : j ∈ ps.map (·.1)) : Yaml.isKey j = true := by
      obtain ⟨p, hp, rfl⟩ := List.mem_map.mp hj
      exact hkeys p hp
    have hk := (h k).mpr hk
    obtain ⟨i, hi, hik⟩ := exists_akin_overlay (m := []) hk (hkey hk)
    have hips : i ∈ ps.map (·.1) := (Ordered.mem_keys_overlay hi).resolve_left nofun
    obtain ⟨j, hj, hji⟩ := exists_akin_overlay (m := done) hi (hkey hips)
    exact ⟨j, hj, hji.trans hik⟩

theorem gathers_of_run {bs : List (List Component)} (hbs : ∀ b ∈ bs, b ≠ [])
    {done ds : Descriptions} (h : (a.describeBatches bs done).run log = (.ok ds, log')) :
    Gathers done ds (a.turns log bs) := by
  induction bs generalizing log done with
  | nil =>
    cases h
    exact .nil _
  | cons b bs ih =>
    rw [List.forall_mem_cons] at hbs
    rw [describeBatches] at h
    obtain ⟨new, log₁, hbatch, h⟩ := Run.ok_of_bind h
    obtain ⟨hlog, ps, rfl, hkeys, hsettles⟩ := exists_pairs_of_run hbs.1 rfl hbatch
    rw [hlog] at h
    exact (gathers_overlay hkeys hsettles done).cons (ih hbs.2 h)

/-- the turns of a whole run: the batches come after the classes and modules -/
def allTurns (a : Agent) (log : List Request) (size : Nat) (cs : List Component) : List Turn :=
  a.turns (log ++ (large cs).map a.ownRequest) (batches size cs)

theorem exists_texts_of_run {size : Nat} {ds : Descriptions}
    (h : (a.describeAll cs size).run log = (.ok ds, log')) :
    ∃ texts : List String, texts.length = (large cs).length ∧
      a.replies log ((large cs).map a.ownRequest) = texts.map some := by
  rw [describeAll] at h
  obtain ⟨es, log₁, heach, -⟩ := Run.ok_of_bind h
  have hlarge : (a.describeEach ((large cs).map fun c => (c, {}))).run log = (.ok es, log₁) := heach
  obtain ⟨texts, htexts, hlength, -, -⟩ := exists_texts_own hlarge
  exact ⟨texts, hlength, htexts⟩

theorem mem_keys_described {texts : List String} (h : texts.length = cs.length) {k : Data} :
    k ∈ (Ordered.ofList (described cs texts)).map (·.1) ↔ ∃ c ∈ cs, k = .str c.id := by
  have hkeys := keys_described h
  constructor
  · intro hk
    have hk := (Ordered.mem_keys_overlay hk).resolve_left nofun
    rw [hkeys] at hk
    obtain ⟨c, hc, rfl⟩ := List.mem_map.mp hk
    exact ⟨c, hc, rfl⟩
  · rintro ⟨c, hc, rfl⟩
    have hk : Data.str c.id ∈ (described cs texts).map (·.1) := by
      rw [hkeys]
      exact List.mem_map.mpr ⟨c, hc, rfl⟩
    obtain ⟨j, hj, hjk⟩ := exists_akin_overlay (m := []) hk rfl
    exact hjk.eq_str ▸ hj

theorem exists_gathers {size : Nat} (hsize : 1 ≤ size) {ds : Descriptions}
    (h : (a.describeAll cs size).run log = (.ok ds, log')) :
    ∃ done : Descriptions, (∀ k, k ∈ done.map (·.1) ↔ ∃ c ∈ large cs, k = .str c.id) ∧
      Gathers done ds (a.allTurns log size cs) := by
  obtain ⟨texts, hlength, htexts⟩ := exists_texts_of_run h
  rw [run_describeAll hsize htexts] at h
  exact ⟨_, fun _ => mem_keys_described hlength,
    gathers_of_run (fun b hb => (mem_batches hsize hb).1) h⟩

/-- **Which descriptions a run returns.** Those of the classes and modules are there, and what the
turns settle.  So exactly what was asked for is described if and only if no turn settles anything
else and every component has the id of a class or module or is settled by a turn. -/
theorem described_exactly_iff {size : Nat} (hsize : 1 ≤ size) {ds : Descriptions}
    (h : (a.describeAll cs size).run log = (.ok ds, log')) :
    (∀ s, .str s ∈ ds.map (·.1) ↔ (∃ c ∈ large cs, c.id = s) ∨ ∃ t ∈ a.allTurns log size cs,
      t.Settles (.str s)) ∧
    ((∀ k, k ∈ ds.map (·.1) ↔ ∃ c ∈ cs, k = .str c.id) ↔
      (∀ t ∈ a.allTurns log size cs, ∀ k, t.Settles k → ∃ c ∈ cs, k = .str c.id) ∧
      ∀ c ∈ cs, (∃ c' ∈ large cs, c'.id = c.id) ∨ ∃ t ∈ a.allTurns log size cs,
        t.Settles (.str c.id)) := by
  obtain ⟨done, hdone, hgathers⟩ := exists_gathers hsize h
  have htexts (s : String) : .str s ∈ ds.map (·.1) ↔
      (∃ c ∈ large cs, c.id = s) ∨ ∃ t ∈ a.allTurns log size cs, t.Settles (.str s) := by
    constructor
    · intro hs
      refine (hgathers.only _ hs).imp_left fun hs => ?_
      obtain ⟨c, hc, hcs⟩ := (hdone _).mp hs
      exact ⟨c, hc, (Data.str.inj hcs).symm⟩
    · rintro (⟨c, hc, rfl⟩ | ⟨t, ht, hs⟩)
      · exact hgathers.keeps ((hdone _).mpr ⟨c, hc, rfl⟩)
      · obtain ⟨j, hj, hjs⟩ := hgathers.each t ht _ hs
        exact hjs.eq_str ▸ hj
  refine ⟨htexts, fun hexact => ⟨fun t ht k hk => ?_, fun c hc => ?_⟩, fun ⟨hno, hall⟩ k =>
    ⟨fun hk => ?_, ?_⟩⟩
  · -- all keys are texts, so what is settled is a key itself
    obtain ⟨j, hj, hjk⟩ := hgathers.each t ht k hk
    obtain ⟨c, hc, rfl⟩ := (hexact j).mp hj
    exact ⟨c, hc, hjk.str_eq⟩
  · exact (htexts c.id).mp ((hexact _).mpr ⟨c, hc, rfl⟩)
  · rcases hgathers.only k hk with hk | ⟨t, ht, hk⟩
    · obtain ⟨c, hc, hk⟩ := (hdone k).mp hk
      exact ⟨c, (List.mem_filter.mp hc).1, hk⟩
    · exact hno t ht k hk
  · rintro ⟨c, hc, rfl⟩
    exact (htexts c.id).mpr (hall c hc)

def firstAnswer : String := "[\x7b\"id\": \"f\", \"description\": \"First.\"\x7d]"

/-- an agent whose second batch gets no answer -/
def haltingAgent : Agent :=
  scriptedAgent [some "Class.", some firstAnswer, some "None.", some "Second."]

def askedComponents : List Component := [namedClass "C", namedFunction "f", namedFunction "g"]

/-- All is described, with a request on its own for the function in that batch. -/
theorem haltingAgent_describes : ∃ ds log,
    (haltingAgent.describeAll askedComponents 1).run [] = (.ok ds, log) ∧
      ∀ k, k ∈ ds.map (·.1) ↔ ∃ c ∈ askedComponents, k = .str c.id := by
  have hok : ((haltingAgent.describeAll askedComponents 1).run []).1.isOk = true := by
    decide +kernel
  have hnone : Unreadable (some "None.") := by decide +kernel
  have hanswer : IsAnswer firstAnswer [("f", "First.")] := isAnswer_of_answerOf? (by decide +kernel)
  have hlists : Lists (some firstAnswer) [(.str "f", .str "First.")] :=
    lists_answer hanswer (by rw [← Text.contains_iff]; decide +kernel)
  have hturns : haltingAgent.allTurns [] 1 askedComponents =
      [⟨[namedFunction "f"], some firstAnswer⟩, ⟨[namedFunction "g"], some "None."⟩] := by
    show [(⟨[namedFunction "f"], some firstAnswer⟩ : Turn),
      ⟨[namedFunction "g"], haltingAgent.service
      ([haltingAgent.ownRequest (namedClass "C")] ++
        haltingAgent.batchRequest [namedFunction "f"] ::
        Turn.followUps haltingAgent ⟨[namedFunction "f"], some firstAnswer⟩) _⟩] = _
    rw [Turn.followUps, if_neg hlists.not_unreadable]
    rfl
  cases hrun : (haltingAgent.describeAll askedComponents 1).run [] with
  | mk r log =>
    rw [hrun] at hok
    cases r with
    | error f => cases hok
    | ok ds =>
      refine ⟨ds, log, rfl, (described_exactly_iff (Nat.le_refl 1) hrun).2.mpr ?_⟩
      rw [hturns]
      refine ⟨List.forall_mem_cons.mpr
        ⟨fun k hk => ?_, List.forall_mem_singleton.mpr fun k hk => ?_⟩, ?_⟩
      · rcases hk with ⟨ps, hps, hk⟩ | ⟨hbad, -⟩
        · rw [hps.unique hlists] at hk
          exact ⟨namedFunction "f", by decide, List.mem_singleton.mp hk⟩
        · exact absurd hbad hlists.not_unreadable
      · rcases hk with ⟨ps, hps, -⟩ | ⟨-, c, hc, hk⟩
        · exact absurd hnone hps.not_unreadable
        · obtain rfl := List.mem_singleton.mp hc
          exact ⟨_, by decide, hk⟩
      · refine List.forall_mem_cons.mpr ⟨.inl ⟨_, List.mem_cons_self, rfl⟩,
          List.forall_mem_cons.mpr ⟨.inr ⟨_,
          List.mem_cons_self, .inl ⟨_, hlists, List.mem_cons_self⟩⟩,
            List.forall_mem_singleton.mpr (.inr ⟨_,
          List.mem_cons_of_mem _ List.mem_cons_self, .inr ⟨hnone, _, List.mem_cons_self, rfl⟩⟩)⟩⟩

/-- the descriptions of two functions -/
def straying : String :=
  "[\x7b\"id\": \"f\", \"description\": \"First.\"\x7d, \x7b\"id\": \"x\", \"description\": \"Other.\"\x7d]"

def strayingAgent : Agent := scriptedAgent [some straying]

/-- A function that was not asked for is described, and one that was asked for is not. -/
theorem straying_described :
    (strayingAgent.describeAll [namedFunction "f"] 10).run [] =
      (.ok [(.str "f", .str "First."), (.str "x", .str "Other.")],
        [strayingAgent.batchRequest [namedFunction "f"]]) ∧
    (strayingAgent.describeAll [namedFunction "f", namedFunction "g"] 10).run [] =
      (.ok [(.str "f", .str "First."), (.str "x", .str "Other.")],
        [strayingAgent.batchRequest [namedFunction "f", namedFunction "g"]]) := by
  have hanswer : IsAnswer straying [("f", "First."), ("x", "Other.")] :=
    isAnswer_of_answerOf? (by decide +kernel)
  have hfence : ¬ fence <:+: Text.trim straying.toList := by
    rw [← Text.contains_iff]
    decide +kernel
  have hkeys : Ordered.overlay [] (Ordered.ofList
    [(Data.str "f", Data.str "First."), (.str "x", .str "Other.")]) =
      [(.str "f", .str "First."), (.str "x", .str "Other.")] := by
    simp [Ordered.ofList, Ordered.overlay, Ordered.set, Data.str_beq]
  have hbatch (cs : List Component) (hcs : cs ≠ []) :
    (strayingAgent.describeBatches [cs] []).run [] =
      (.ok [(.str "f", .str "First."), (.str "x", .str "Other.")],
        [strayingAgent.batchRequest cs]) := by
    have hdescribed : (strayingAgent.describeBatch cs).run [] =
      (.ok _, [strayingAgent.batchRequest cs]) :=
      run_describeBatch_described hcs (readBatch_described_iff.mpr
        ⟨_, lists_answer hanswer hfence, rfl⟩)
    rw [describeBatches, Run.bind_ok hdescribed]
    exact congrArg (fun ds => (Except.ok ds, _)) hkeys
  have hnone : (strayingAgent.replies [] []) = ([] : List String).map some := rfl
  have hsize : 1 ≤ 10 := by decide
  exact ⟨(run_describeAll hsize hnone).trans (hbatch _ (List.cons_ne_nil _ _)),
    (run_describeAll hsize hnone).trans (hbatch _ (List.cons_ne_nil _ _))⟩

end Agent

end Apidoc
