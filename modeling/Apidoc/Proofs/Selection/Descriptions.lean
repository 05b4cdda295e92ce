import Apidoc.Proofs.Data.Json
import Apidoc.Proofs.Selection.Saving

/-!
# Descriptions in a store

Descriptions are kept as JSON.  To add some, a store reads the file and writes it anew.  Seen from
outside it holds a map from ids to texts, in order.

* `DescriptionTable`                such a map, with `DescriptionTable.overlaid` for new ones laid
                                    over it;
* `Store.Usable.saveDescriptions`   saving succeeds, and what is loaded then is what was saved;
* `DescriptionCall`                 saving and adding, with `DescriptionCall.step` for what they do
                                    to a map;
* `Describes.step`                  a call on a store that holds a map succeeds, and the store holds
                                    the next one;
* `Describes.runAll`                so do all calls one after the other;
* `descriptions_after_calls`        what is loaded after some calls, and what is in the file.
-/

namespace Apidoc

open Ordered (keyed)

/-- texts by the ids of components, each id once -/
structure DescriptionTable where
  pairs : List (String × String)
  distinct : (pairs.map (·.1)).Nodup

namespace DescriptionTable

def fields (m : DescriptionTable) : List (String × Data) := m.pairs.map fun p => (p.1, .str p.2)

def toData (m : DescriptionTable) : Data := .object m.fields

/-- New descriptions laid over those there are: they win, ids that are there keep their places, and
new ids follow in their order. -/
def overlaid (m new : DescriptionTable) : DescriptionTable where
  pairs := (m.pairs.map fun p => (p.1, (new.pairs.lookup p.1).getD p.2)) ++
    new.pairs.filter fun p => !(m.pairs.map (·.1)).contains p.1
  distinct := by
    rw [List.map_append, List.map_map, List.nodup_append]
    refine ⟨m.distinct, new.distinct.sublist (List.filter_sublist.map _),
      fun id hid id' hid' he => ?_⟩
    obtain ⟨p, hp, rfl⟩ := List.mem_map.mp hid'
    have hnew := (List.mem_filter.mp hp).2
    rw [Bool.not_eq_true', ← he] at hnew
    exact Bool.eq_false_iff.mp hnew (List.contains_iff_mem.mpr hid)

theorem plain (m : DescriptionTable) : Json.Plain m.toData := by
  refine .object (fun f hf => ?_) ?_
  · obtain ⟨p, _, rfl⟩ := List.mem_map.mp hf
    exact .str p.2
  · rw [fields, List.map_map]
    exact m.distinct

theorem overlay_fields (m new : DescriptionTable) :
    Ordered.overlay (keyed m.fields) (keyed new.fields) = keyed (m.overlaid new).fields := by
  rw [Ordered.overlay_keyed, fields, fields, Ordered.overlay_map,
    Ordered.overlay_eq m.distinct new.distinct]
  rfl

def document (now : String) (m : DescriptionTable) : Data :=
  .object [("version", .str "1.0"), ("updated_at", .str now), ("descriptions", m.toData)]

theorem plain_document (now : String) (m : DescriptionTable) : Json.Plain (m.document now) := by
  have hkeys : ["version", "updated_at", "descriptions"].Nodup := by decide
  refine .object (fun f hf => ?_) hkeys
  simp only [List.mem_cons, List.not_mem_nil, or_false] at hf
  rcases hf with rfl | rfl | rfl
  · exact .str _
  · exact .str _
  · exact m.plain

end DescriptionTable

/-! ## saving and loading -/

namespace Store

variable {s : Store} {d : Disk}

/-- The file of descriptions holds the document of a map as it is written in JSON, which is ASCII
and is read back. -/
def Keeps (s : Store) (d : Disk) (m : DescriptionTable) : Prop :=
  ∃ text, d.read s.descriptionsFile = .ok (.text text) ∧
    text = (Json.render (m.document s.now)).text ∧
    (∀ c ∈ text.toList, Json.IsAscii c) ∧ Json.parse text = .ok (m.document s.now)

theorem loadDescriptions_of_document {q : List String} {text now : String} {m : DescriptionTable}
    (hq : d.locate s.descriptionsFile = .ok q) (hnode : d.node? q = some (.file (.text text)))
    (hclean : Text.unifyNewlines text.toList = text.toList)
    (hparse : Json.parse text = .ok (m.document now)) :
    s.loadDescriptions.run d = (.ok m.toData, d) := by
  have hread := Action.run_readText_ok (Disk.read_eq hq hnode)
  rw [hclean, String.ofList_toList] at hread
  have hjson : parseJson text = .ok (m.document now) := by
    rw [parseJson, hparse]
    rfl
  rw [loadDescriptions, Run.bind_ok (Action.run_exists_ok hq), hnode]
  show (Action.readText s.descriptionsFile >>=
    fun text => Action.lift (parseJson text) >>= _).run d = _
  rw [Run.bind_ok hread, Run.bind_ok (Action.run_lift_ok hjson d)]
  rfl

theorem Usable.saveDescriptions (h : s.Usable d) (m : DescriptionTable) :
    ∃ d', (s.saveDescriptions m.toData).run d = (.ok (), d') ∧ s.Usable d' ∧
      s.loadDescriptions.run d' = (.ok m.toData, d') ∧ s.Keeps d' m := by
  have hplain := m.plain_document s.now
  obtain ⟨hcomplete, hparse⟩ := Json.parse_render hplain
  obtain ⟨e, g, hs⟩ := h
  obtain ⟨e, hprepare, hs, _⟩ := hs.prepare
  obtain ⟨d', hwrite, hs', hq, hnode⟩ :=
    hs.write descriptions_mem (Json.render (m.document s.now)).text
  change (Action.write s.descriptionsFile _).run e = _ at hwrite
  refine ⟨d', ?_, ⟨_, g, hs'⟩,
    loadDescriptions_of_document hq hnode (Text.unifyNewlines_eq_self (hplain.noReturn 0)) hparse,
    _, Disk.read_eq hq hnode, rfl, hplain.ascii 0, hparse⟩
  show (s.prepare >>= fun _ => writeJson s.descriptionsFile (m.document s.now)).run d = _
  rw [Run.bind_ok hprepare, writeJson, Run.bind_ok hwrite, hcomplete]
  rfl

end Store

/-! ## calls -/

inductive DescriptionCall where
  | save (m : DescriptionTable)
  | update (new : DescriptionTable)

namespace DescriptionCall

def run (s : Store) : DescriptionCall → Action Unit
  | .save m => s.saveDescriptions m.toData
  | .update new => s.updateDescriptions (keyed new.fields)

/-- Calls one after the other, each with the time at which it is made. -/
def runAll (folder : Path) : List (String × DescriptionCall) → Action Unit
  | [] => pure ()
  | (now, c) :: cs => do
    c.run ⟨folder, now⟩
    runAll folder cs

def step (m : DescriptionTable) : DescriptionCall → DescriptionTable
  | .save new => new
  | .update new => m.overlaid new

def stepAll (m : DescriptionTable) (calls : List (String × DescriptionCall)) : DescriptionTable :=
  calls.foldl (fun m c => step m c.2) m

end DescriptionCall

/-- The store in a directory can be used and holds a map of descriptions. -/
structure Describes (folder : Path) (d : Disk) (m : DescriptionTable) : Prop where
  usable : ∀ now, (⟨folder, now⟩ : Store).Usable d
  loads : ∀ now, (⟨folder, now⟩ : Store).loadDescriptions.run d = (.ok m.toData, d)

namespace Describes

variable {folder : Path} {d : Disk} {m : DescriptionTable}

theorem of_save (h : Describes folder d m) (now : String) (new : DescriptionTable) :
    ∃ d', ((⟨folder, now⟩ : Store).saveDescriptions new.toData).run d = (.ok (), d') ∧
    Describes folder d' new ∧
      (⟨folder, now⟩ : Store).Keeps d' new := by
  obtain ⟨d', hrun, husable, hload, hkeeps⟩ := (h.usable now).saveDescriptions new
  exact ⟨d', hrun, ⟨fun _ => husable.at _, fun _ => hload⟩, hkeeps⟩

theorem step (h : Describes folder d m) (now : String) (c : DescriptionCall) :
    ∃ d', (c.run ⟨folder, now⟩).run d = (.ok (), d') ∧ Describes folder d' (c.step m) ∧
      (⟨folder, now⟩ : Store).Keeps d' (c.step m) := by
  cases c with
  | save new => exact h.of_save now new
  | update new =>
    obtain ⟨d', hrun, hholds⟩ := h.of_save now (m.overlaid new)
    refine ⟨d', ?_, hholds⟩
    rw [DescriptionCall.run, Store.updateDescriptions, Run.bind_ok (h.loads now)]
    show (Store.saveDescriptions ⟨folder, now⟩
      (.map (Ordered.overlay (keyed m.fields) (keyed new.fields)))).run d = _
    rw [m.overlay_fields]
    exact hrun

theorem runAll (h : Describes folder d m) (calls : List (String × DescriptionCall)) :
    ∃ d', (DescriptionCall.runAll folder calls).run d = (.ok (), d') ∧
      Describes folder d' (DescriptionCall.stepAll m calls) ∧
      ∀ c ∈ calls.getLast?, (⟨folder, c.1⟩ : Store).Keeps d' (DescriptionCall.stepAll m calls) := by
  induction calls generalizing d m with
  | nil => exact ⟨d, rfl, h, nofun⟩
  | cons c calls ih =>
    obtain ⟨now, c⟩ := c
    obtain ⟨d₁, hrun₁, hholds₁, hkeeps₁⟩ := h.step now c
    obtain ⟨d₂, hrun₂, hholds₂, hkeeps₂⟩ := ih hholds₁
    refine ⟨d₂, (Run.bind_ok hrun₁ _).trans hrun₂, hholds₂, ?_⟩
    cases calls with
    | nil =>
      cases hrun₂
      intro last hlast
      cases hlast
      exact hkeeps₁
    | cons c' calls => exact hkeeps₂

end Describes

/-- Whatever calls are made on a store, they succeed, and what is loaded then is the map that the
same calls make in memory from what was loaded before.  After the last call the file is the document
of this map as it is written in JSON, nothing but ASCII, and it is read as that document. -/
theorem descriptions_after_calls {s : Store} {d : Disk} (h : s.Usable d) {m : DescriptionTable}
    (hload : s.loadDescriptions.run d = (.ok m.toData, d))
    (calls : List (String × DescriptionCall)) :
    ∃ d', (DescriptionCall.runAll s.folder calls).run d = (.ok (), d') ∧
      s.loadDescriptions.run d' = (.ok (DescriptionCall.stepAll m calls).toData, d') ∧
      ∀ c ∈ calls.getLast?, ∃ text, d'.read s.descriptionsFile = .ok (.text text) ∧
        text = (Json.render ((DescriptionCall.stepAll m calls).document c.1)).text ∧
        (∀ ch ∈ text.toList, Json.IsAscii ch) ∧
        Json.parse text = .ok ((DescriptionCall.stepAll m calls).document c.1) := by
  have hholds : Describes s.folder d m := ⟨fun now => h.at now, fun _ => hload⟩
  obtain ⟨d', hrun, hholds', hkeeps⟩ := hholds.runAll calls
  exact ⟨d', hrun, hholds'.loads s.now, hkeeps⟩

/-- quotes and line ends, control characters, and characters of all planes, in ids and in texts -/
def oddDescriptions : DescriptionTable where
  pairs :=
    [("a\"b\\", "line\r\nline\u0000\u007f"), ("\u00e9\u2028", "\u0001\ufffd"), ("", "\ud7ff😀")]
  distinct := by decide

/-- a change of a text in the middle, and a new one -/
def newDescriptions : DescriptionTable where
  pairs := [("𝔸", "new"), ("\u00e9\u2028", "\t")]
  distinct := by decide

def oddCalls : List (String × DescriptionCall) :=
  [("09:00", .update newDescriptions), ("09:01", .save oddDescriptions),
    ("09:02", .update newDescriptions)]

theorem oddCalls_load : notesStore.Usable notesDisk ∧
    notesStore.loadDescriptions.run notesDisk =
      (.ok (DescriptionTable.mk [] .nil).toData, notesDisk) ∧
    ∃ d', (DescriptionCall.runAll notesStore.folder oddCalls).run notesDisk = (.ok (), d') ∧
      notesStore.loadDescriptions.run d' = (.ok (.object
        [("a\"b\\", .str "line\r\nline\u0000\u007f"), ("\u00e9\u2028", .str "\t"),
          ("", .str "\ud7ff😀"), ("𝔸", .str "new")]), d') := by
  have hload : notesStore.loadDescriptions.run notesDisk =
    (.ok (DescriptionTable.mk [] .nil).toData, notesDisk) := rfl
  obtain ⟨d', hrun, hload', _⟩ := descriptions_after_calls notesStore_usable hload oddCalls
  exact ⟨notesStore_usable, hload, d', hrun, hload'⟩

end Apidoc
