import Apidoc.Proofs.Contents.Pruning
import Apidoc.Proofs.Selection.Saving

/-!
# A store is a dictionary

Every call on a store reads the file and writes it anew.  Seen from outside it is a dictionary from
ids to choices, in order.

* `StoreCall`             the calls on a store, with `StoreCall.run` on a disk;
* `Dictionary.step`       what a call does to a dictionary, and the answer;
* `Selections.addEntries_eq`   the entries are gone through as they are listed;
* `Holds.step`            a call on a store answers as the dictionary it holds, and holds the next
                          one;
* `Holds.runAll`          so do all calls one after the other;
* `store_refines_dictionary`   a store without a file answers as an empty dictionary.
-/

namespace Apidoc

open Ordered (keyed)

/-! ## calls -/

inductive StoreCall where
  | save (m : Choices) (metadata : Data)
  | update (id : String) (included : Option Bool) (title description : Option String)
  | start (entries : List Entry) (included : Bool)
  | clear
  | load
  | ids (included : Bool)

inductive StoreAnswer where
  | done
  | selection (s : Selection)
  | selections (s : Selections)
  | ids (ids : List Data)

namespace StoreCall

def run (s : Store) : StoreCall → Action StoreAnswer
  | .save m metadata => do
    s.save m.selections metadata
    return .done
  | .update id included title description => do
    return .selection (← s.update id (included.map .bool) (title.map .str) (description.map .str))
  | .start entries included => do return .selections (← s.start entries included)
  | .clear => do
    s.clear
    return .done
  | .load => do return .selections (← s.load)
  | .ids included => do return .ids (← s.idsWith included)

/-- The ids are ids, and the metadata is read back. -/
def Proper : StoreCall → Prop
  | .save _ metadata => Store.Readable metadata
  | .update id _ _ _ => IsId id
  | .start entries _ => ∀ e ∈ Entry.flatten entries, IsId e.id
  | _ => True

def runAll (folder : Path) : List (String × StoreCall) → Action (List StoreAnswer)
  | [] => pure []
  | (now, c) :: cs => do
    let a ← c.run ⟨folder, now⟩
    let more ← runAll folder cs
    return a :: more

end StoreCall

/-! ## dictionaries -/

namespace Dictionary

/-- the choice for an id; without one it says only whether the entry is included -/
def choice (m : Dictionary) (included : Bool) (id : String) : Choice :=
  (m.lookup id).getD ⟨included, none, none⟩

def amend (c : Choice) (included : Option Bool) (title description : Option String) : Choice :=
  ⟨included.getD c.included, title.or c.title, description.or c.description⟩

def put (m : Dictionary) (id : String) (c : Choice) : Dictionary :=
  if id ∈ m.map (·.1) then m.map fun p => if p.1 = id then (id, c) else p else m ++ [(id, c)]

/-- the ids of a table of contents, each where it comes first -/
def contentIds (entries : List Entry) : List String :=
  ((Entry.flatten entries).map (·.id)).eraseDups

def idsWith (m : Dictionary) (included : Bool) : List Data :=
  (m.filter fun p => p.2.included == included).map fun p => .str p.1

def step (m : Dictionary) : StoreCall → StoreAnswer × Dictionary
  | .save new _ => (.done, new.pairs)
  | .update id included title description =>
    let c := amend (m.choice true id) included title description
    (.selection (c.selection id), m.put id c)
  | .start entries included =>
    let new : Dictionary := (contentIds entries).map fun id => (id, m.choice included id)
    (.selections new.selections, new)
  | .clear => (.done, [])
  | .load => (.selections m.selections, m)
  | .ids included => (.ids (m.idsWith included), m)

def run (m : Dictionary) : List (String × StoreCall) → List StoreAnswer × Dictionary
  | [] => ([], m)
  | (_, c) :: cs =>
    let (answers, m') := run (m.step c).2 cs
    ((m.step c).1 :: answers, m')

end Dictionary

/-! ## going through the entries -/

namespace Selections

/-- the selection of an entry: the one there is, or a new one -/
def own (s : Selections) (included : Bool) (id : String) : Selection :=
  (of? s id).getD (.default (.str id) included)

/-- Selections for exactly the given ids. -/
def restrict (s : Selections) (included : Bool) (ids : List String) : Selections :=
  Ordered.ofList (ids.map fun id => (.str id, s.own included id))

theorem addEntries_overlay (s : Selections) (included : Bool) (entries : List Entry)
    (done : Selections) :
    s.addEntries included done entries =
      Ordered.overlay done ((Entry.flatten entries).map
        fun e => (.str e.id, s.own included e.id)) := by
  induction entries using Entry.forest_induction generalizing done with
  | nil => rw [addEntries, Entry.flatten]; rfl
  | cons h below after ihBelow ihAfter =>
    -- the entry itself, then what is below it, then what comes after it
    rw [addEntries, addEntry, ihAfter, ihBelow, Entry.flatten_cons, List.map_cons, List.map_append]
    simp only [Ordered.overlay, List.foldl_cons, List.foldl_append]
    rfl

/-- Going down from entry to entry meets the entries in the order in which they are listed. -/
theorem addEntries_eq (s : Selections) (included : Bool) (entries : List Entry) :
    s.addEntries included [] entries = s.restrict included
      ((Entry.flatten entries).map (·.id)) := by
  rw [addEntries_overlay, restrict, List.map_map]
  rfl

end Selections

namespace Dictionary

/-! ## the maps behind it -/

variable {m : Dictionary}

theorem lookup_map (ids : List String) (f : String → Choice) (id : String) :
    (ids.map fun id => (id, f id)).lookup id = if id ∈ ids then some (f id) else none := by
  induction ids with
  | nil => rfl
  | cons k ids ih =>
    rw [List.map_cons, List.lookup_cons, ih]
    by_cases hk : id = k
    · simp [hk]
    · have hne : (id == k) = false := beq_eq_false_iff_ne.mpr hk
      simp [hk, hne]

theorem own_selections (m : Dictionary) (included : Bool) (id : String) :
    m.selections.own included id = (m.choice included id).selection id := by
  rw [Selections.own, Selections.of?, selections, Ordered.get?_keyed, Ordered.get?_map_key,
    Ordered.get?_eq_lookup, choice]
  cases m.lookup id with
  | none => rfl
  | some c => rfl

theorem set_eq_put (h : (m.map (·.1)).Nodup) (id : String) (c : Choice) :
    Ordered.set m id c = m.put id c := by
  unfold put
  split
  · exact Ordered.set_of_mem h ‹_› c
  · exact Ordered.set_new ‹_› c

theorem set_selections (h : (m.map (·.1)).Nodup) (id : String) (c : Choice) :
    Ordered.set m.selections (.str id) (c.selection id) = (m.put id c).selections := by
  rw [← set_eq_put h, selections, selections, Ordered.set_keyed, Ordered.set_map_key]

theorem update_selections (m : Dictionary) (id : String) (included : Option Bool)
    (title description : Option String) :
    m.selections.update (.str id) (included.map .bool) (title.map .str) (description.map .str) =
      (amend (m.choice true id) included title description).selection id := by
  have hold : (Ordered.get? m.selections (.str id)).getD (.default (.str id) true) = _ :=
    m.own_selections true id
  rw [Selections.update, hold]
  cases included <;> cases title <;> cases description <;> rfl

theorem restrict_selections (m : Dictionary) (included : Bool) (entries : List Entry) :
    m.selections.restrict included ((Entry.flatten entries).map (·.id)) =
      selections ((contentIds entries).map fun id => (id, m.choice included id)) := by
  have hpairs (ids : List String) :
    (ids.map fun id => (Data.str id, m.selections.own included id)) =
      keyed (ids.map fun id => (id, (m.choice included id).selection id)) := by
    rw [keyed, List.map_map]
    refine List.map_congr_left fun id _ => ?_
    exact congrArg (Prod.mk (Data.str id)) (m.own_selections included id)
  rw [Selections.restrict, hpairs, Ordered.ofList_keyed, Ordered.ofList_function, selections,
    List.map_map]
  rfl

theorem idsWith_selections (m : Dictionary) (included : Bool) :
    m.selections.idsWith included = m.idsWith included := by
  rw [Selections.idsWith, selections, keyed, List.map_map, List.filter_map, List.map_map, idsWith]
  rfl

/-! ## proper dictionaries -/

theorem map_put (m : Dictionary) (id : String) (c : Choice) :
    (m.put id c).map (·.1) = if id ∈ m.map (·.1) then m.map (·.1) else m.map (·.1) ++ [id] := by
  unfold put
  split
  · rw [List.map_map]
    refine List.map_congr_left fun p _ => ?_
    show (if p.1 = id then (id, c) else p).1 = p.1
    split
    · exact Eq.symm ‹_›
    · rfl
  · rw [List.map_append]
    rfl

theorem Proper.iff_keys {m : Dictionary} :
    m.Proper ↔ (∀ id ∈ m.map (·.1), IsId id) ∧ (m.map (·.1)).Nodup := by
  refine ⟨fun h => ⟨?_, h.distinct⟩, fun h => ⟨fun p hp => h.1 p.1 (List.mem_map_of_mem hp), h.2⟩⟩
  intro id hid
  obtain ⟨p, hp, rfl⟩ := List.mem_map.mp hid
  exact h.ids p hp

theorem nodup_put (h : (m.map (·.1)).Nodup) (id : String) (c : Choice) :
    ((m.put id c).map (·.1)).Nodup := by
  rw [map_put]
  split
  · exact h
  · rename_i hnew
    rw [List.nodup_append]
    refine ⟨h, by simp, fun a ha b hb e => hnew ?_⟩
    rw [← List.mem_singleton.mp hb, ← e]
    exact ha

theorem forall_put {P : String → Prop} (h : ∀ id ∈ m.map (·.1), P id) {id : String} (hid : P id)
    (c : Choice) : ∀ k ∈ (m.put id c).map (·.1), P k := by
  rw [map_put]
  split
  · exact h
  · intro k hk
    rcases List.mem_append.mp hk with hk | hk
    · exact h k hk
    · exact List.mem_singleton.mp hk ▸ hid

theorem Proper.put (h : m.Proper) {id : String} (hid : IsId id) (c : Choice) :
    (m.put id c).Proper := by
  rw [Proper.iff_keys] at h ⊢
  exact ⟨forall_put h.1 hid c, nodup_put h.2 id c⟩

theorem Proper.contents {entries : List Entry} (h : ∀ e ∈ Entry.flatten entries, IsId e.id)
    (f : String → Choice) : Proper ((contentIds entries).map fun id => (id, f id)) := by
  have hkeys : ((contentIds entries).map fun id => (id, f id)).map (·.1) = contentIds entries := by
    rw [List.map_map]
    exact List.map_id _
  rw [Proper.iff_keys, hkeys]
  refine ⟨fun id hid => ?_, ?_⟩
  · rw [contentIds, List.mem_eraseDups] at hid
    obtain ⟨e, he, rfl⟩ := List.mem_map.mp hid
    exact h e he
  · exact Ordered.nodup_eraseDups _

theorem Proper.step (h : m.Proper) {c : StoreCall} (hc : c.Proper) : (m.step c).2.Proper := by
  cases c with
  | save new metadata => exact new.proper
  | update id included title description => exact h.put hc _
  | start entries included => exact .contents hc _
  | clear => exact ⟨nofun, .nil⟩
  | load => exact h
  | ids included => exact h

end Dictionary

/-! ## the store -/

namespace Store

variable {s : Store} {d d' : Disk} {m : Dictionary}

theorem start_of_save (hload : s.load.run d = (.ok m.selections, d)) (entries : List Entry)
    (included : Bool)
    (hsave : (s.save (Dictionary.selections ((Dictionary.contentIds entries).map fun id =>
      (id, m.choice included id)))
      .null).run d = (.ok (), d')) :
    (s.start entries included).run d = (.ok (Dictionary.selections
      ((Dictionary.contentIds entries).map fun id => (id, m.choice included id))), d') := by
  rw [start, Run.bind_ok hload, Selections.addEntries_eq, m.restrict_selections]
  exact Run.bind_ok hsave _

theorem update_of_save (hload : s.load.run d = (.ok m.selections, d)) (hm : (m.map (·.1)).Nodup)
    (id : String) (included : Option Bool) (title description : Option String)
    (hsave :
      (s.save (m.put id (Dictionary.amend (m.choice true id) included title description)).selections
        .null).run d =
      (.ok (), d')) :
    (s.update id (included.map .bool) (title.map .str) (description.map .str)).run d =
      (.ok ((Dictionary.amend (m.choice true id) included title description).selection id),
        d') := by
  rw [update, Run.bind_ok hload, m.update_selections]
  dsimp only
  rw [Dictionary.set_selections hm]
  exact Run.bind_ok hsave _

end Store

/-- The store in a directory can be used and holds a dictionary. -/
structure Holds (folder : Path) (d : Disk) (m : Dictionary) : Prop where
  proper : m.Proper
  usable : ∀ now, (⟨folder, now⟩ : Store).Usable d
  loads : ∀ now, (⟨folder, now⟩ : Store).load.run d = (.ok m.selections, d)

namespace Holds

variable {folder : Path} {d : Disk} {m : Dictionary}

theorem of_save (h : Holds folder d m) (now : String) {metadata : Data}
    (hmetadata : Store.Readable metadata) {new : Dictionary} (hnew : new.Proper) :
    ∃ d', ((⟨folder, now⟩ : Store).save new.selections metadata).run d = (.ok (), d') ∧
    Holds folder d' new := by
  obtain ⟨d', hrun, husable, hload⟩ := (h.usable now).save hmetadata ⟨new, hnew⟩
  exact ⟨d', hrun, hnew, fun _ => husable.at _, hload⟩

theorem start (h : Holds folder d m) (now : String) {entries : List Entry} (included : Bool)
    (hids : ∀ e ∈ Entry.flatten entries, IsId e.id) :
    ∃ d', ((⟨folder, now⟩ : Store).start entries included).run d =
        (.ok (m.selections.restrict included ((Entry.flatten entries).map (·.id))), d') ∧
      Holds folder d' ((Dictionary.contentIds entries).map fun id =>
        (id, m.choice included id)) := by
  obtain ⟨d', hrun, hholds⟩ :=
    h.of_save now Store.readable_null (.contents hids (m.choice included))
  rw [m.restrict_selections]
  exact ⟨d', Store.start_of_save (h.loads now) entries included hrun, hholds⟩

theorem step (h : Holds folder d m) (now : String) {c : StoreCall} (hc : c.Proper) :
    ∃ d', (c.run ⟨folder, now⟩).run d = (.ok (m.step c).1, d') ∧ Holds folder d' (m.step c).2 := by
  have hnext := h.proper.step hc
  have hload := h.loads now
  cases c with
  | save new metadata =>
    obtain ⟨d', hrun, hholds⟩ := h.of_save now hc hnext
    exact ⟨d', Run.bind_ok hrun _, hholds⟩
  | update id included title description =>
    obtain ⟨d', hrun, hholds⟩ := h.of_save now Store.readable_null hnext
    have hupdate := Store.update_of_save hload h.proper.distinct id included title description hrun
    exact ⟨d', Run.bind_ok hupdate _, hholds⟩
  | start entries included =>
    obtain ⟨d', hrun, hholds⟩ := h.start now included hc
    rw [m.restrict_selections] at hrun
    exact ⟨d', Run.bind_ok hrun _, hholds⟩
  | clear =>
    obtain ⟨d', hrun, husable, _, _, hload⟩ := (h.usable now).clear
    exact ⟨d', Run.bind_ok hrun _, hnext, fun now' => husable _ (h.usable now'), hload⟩
  | load => exact ⟨d, Run.bind_ok hload _, h⟩
  | ids included =>
    have hids : ((⟨folder, now⟩ : Store).idsWith included).run d =
        (.ok (m.idsWith included), d) := by
      rw [Store.idsWith, Run.bind_ok hload, m.idsWith_selections]
      rfl
    exact ⟨d, Run.bind_ok hids _, h⟩

theorem runAll (h : Holds folder d m) {calls : List (String × StoreCall)}
    (hcalls : ∀ c ∈ calls, c.2.Proper) :
    ∃ d', (StoreCall.runAll folder calls).run d = (.ok (m.run calls).1, d') ∧
    Holds folder d' (m.run calls).2 := by
  induction calls generalizing d m with
  | nil => exact ⟨d, rfl, h⟩
  | cons c calls ih =>
    obtain ⟨now, c⟩ := c
    rw [List.forall_mem_cons] at hcalls
    obtain ⟨d₁, hrun₁, hholds₁⟩ := h.step now hcalls.1
    obtain ⟨d₂, hrun₂, hholds₂⟩ := ih hholds₁ hcalls.2
    refine ⟨d₂, ?_, hholds₂⟩
    rw [StoreCall.runAll, Run.bind_ok hrun₁, Run.bind_ok hrun₂]
    rfl

/-- Every id that is loaded is included or excluded, and none is both. -/
theorem partition (h : Holds folder d m) (now : String) :
    ∃ loaded included excluded,
      (⟨folder, now⟩ : Store).load.run d = (.ok loaded, d) ∧
      ((⟨folder, now⟩ : Store).idsWith true).run d = (.ok included, d) ∧
      ((⟨folder, now⟩ : Store).idsWith false).run d = (.ok excluded, d) ∧
      (included ++ excluded).Perm (loaded.map (·.1)) ∧ (included ++ excluded).Nodup := by
  have hids (b : Bool) : ((⟨folder, now⟩ : Store).idsWith b).run d = (.ok (m.idsWith b), d) := by
    rw [Store.idsWith, Run.bind_ok (h.loads now), m.idsWith_selections]
    rfl
  have hkeys : m.selections.map (·.1) = (m.map (·.1)).map .str := by
    rw [Dictionary.selections, keyed, List.map_map, List.map_map, List.map_map]
    rfl
  have hnot : (fun p : String × Choice => p.2.included == false) =
      fun p => !(p.2.included == true) := by
    funext p
    cases p.2.included <;> rfl
  have hperm : (m.idsWith true ++ m.idsWith false).Perm (m.selections.map (·.1)) := by
    rw [hkeys, List.map_map, Dictionary.idsWith, Dictionary.idsWith, ← List.map_append, hnot]
    exact (List.filter_append_perm _ m).map _
  refine ⟨_, _, _, h.loads now, hids true, hids false, hperm, hperm.nodup_iff.mpr ?_⟩
  rw [hkeys]
  exact List.pairwise_map.mpr (h.proper.distinct.imp fun hab e => hab (Data.str.inj e))

theorem of_none {s : Store} (h : s.Usable d) (hnone : d.lookup s.selectionsFile = none) :
    Holds s.folder d [] := by
  refine ⟨⟨nofun, .nil⟩, fun now => h.at now, fun now => ?_⟩
  obtain ⟨e, g, hs⟩ := h
  rcases hs.cases with ⟨rfl, hg⟩ | hmissing
  · have hq : d.locate s.selectionsFile = .ok (g ++ ["selections.yaml"]) :=
      Store.locate_file hs.rooted hg Store.selections_mem
    refine Store.load_of_none hq ?_
    rwa [Disk.lookup, hq] at hnone
  · exact Store.load_of_missing (Store.locate_missing hs.rooted hmissing Store.selections_mem)

end Holds

/-- Whatever calls are made on a store that has no file yet, it answers as an empty dictionary does;
and after them every id that it loads is included or excluded, and none is both. -/
theorem store_refines_dictionary {s : Store} {d : Disk} (h : s.Usable d)
    (hnone : d.lookup s.selectionsFile = none) {calls : List (String × StoreCall)}
    (hcalls : ∀ c ∈ calls, c.2.Proper) :
    ∃ d', (StoreCall.runAll s.folder calls).run d = (.ok (Dictionary.run [] calls).1, d') ∧
      ∃ loaded included excluded,
        s.load.run d' = (.ok loaded, d') ∧
        (s.idsWith true).run d' = (.ok included, d') ∧
        (s.idsWith false).run d' = (.ok excluded, d') ∧
        (included ++ excluded).Perm (loaded.map (·.1)) ∧ (included ++ excluded).Nodup := by
  obtain ⟨d', hrun, hholds⟩ := (Holds.of_none h hnone).runAll hcalls
  exact ⟨d', hrun, hholds.partition s.now⟩

def notesHeading (id : String) : Heading := ⟨id, "notes", .module, 0, "notes", 1, none⟩

/-- every kind of call, with metadata, a change of a choice that is there and of one that is not,
and contents in which an id comes twice -/
def notesCalls : List (String × StoreCall) :=
  [("09:00", .save trickyChoices (.object [("project", .str "notes")])),
   ("09:01", .update "0b0101010101" (some true) none (some "new")),
   ("09:02", .update "abcdefabcdef" none (some "late") none),
   ("09:03", .ids true),
   ("09:04", .start [.mk (notesHeading "0b0101010101") [.mk (notesHeading "00000000000a") []],
     .mk (notesHeading "0b0101010101") []] false),
   ("09:05", .ids false),
   ("09:06", .clear),
   ("09:07", .load)]

theorem notesCalls_proper : ∀ c ∈ notesCalls, c.2.Proper := by
  have hmetadata : Yaml.Fits 0 (.object [("project", .str "notes")]) := by
    have hname : Yaml.IsName "project" := by decide
    refine .object (fun _ => by decide) (fun f hf => ?_) (by decide) fun f hf => ?_
    · rw [List.mem_singleton.mp hf]
      exact hname.fitsKey
    · rw [List.mem_singleton.mp hf]
      exact .str (by decide) _
  have hcontents : ∀ id ∈ ["0b0101010101", "00000000000a", "0b0101010101"], IsId id := by decide
  intro c hc
  simp only [notesCalls, List.mem_cons, List.not_mem_nil, or_false] at hc
  rcases hc with rfl | rfl | rfl | rfl | rfl | rfl | rfl | rfl
  · exact Store.readable_of_fits fun _ => hmetadata
  · show IsId _
    decide
  · show IsId _
    decide
  · trivial
  · exact fun e he => hcontents e.id (List.mem_map_of_mem he)
  · trivial
  · trivial
  · trivial

theorem notesStore_refines :
    notesStore.Usable notesDisk ∧ notesDisk.lookup notesStore.selectionsFile = none ∧
    ("09:06", StoreCall.clear) ∈ notesCalls ∧
    ∃ d', (StoreCall.runAll notesStore.folder notesCalls).run notesDisk =
        (.ok (Dictionary.run [] notesCalls).1, d') ∧
      ∃ loaded included excluded,
        notesStore.load.run d' = (.ok loaded, d') ∧
        (notesStore.idsWith true).run d' = (.ok included, d') ∧
        (notesStore.idsWith false).run d' = (.ok excluded, d') ∧
        (included ++ excluded).Perm (loaded.map (·.1)) ∧ (included ++ excluded).Nodup :=
  ⟨notesStore_usable,
    rfl, by simp [notesCalls], store_refines_dictionary notesStore_usable rfl notesCalls_proper⟩

end Apidoc
