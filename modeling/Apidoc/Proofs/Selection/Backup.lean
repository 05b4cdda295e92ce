import Apidoc.Proofs.Data.Json
import Apidoc.Proofs.Selection.Saving

/-!
# Backups

Selections are written to a file of their own, as YAML with sorted keys or as JSON, and read from it
again.

* `Store.exportText`          the text of the file;
* `Store.exportText_reads`    it is read as the selections, perhaps in another order;
* `backup_restores`           what was exported is imported again, after the store was cleared.
-/

namespace Apidoc

open Ordered (keyed)

/-! ## sorted fields -/

theorem Selection.ofData_perm {fields fields' : List (String × Data)} (h : fields.Perm fields')
    (hkeys : (fields.map (·.1)).Nodup) (id : Data) :
    Selection.ofData id (.object fields) = Selection.ofData id (.object fields') := by
  have hget (k : String) : Ordered.get? (keyed fields) (.str k) = Ordered.get? (keyed fields')
      (.str k) := by
    rw [Ordered.get?_keyed, Ordered.get?_keyed, Ordered.get?_perm h hkeys]
  show Except.ok (Selection.mk id ((Ordered.get? (keyed fields) (.str "included")).getD _)
    ((Ordered.get? (keyed fields) (.str "custom_title")).getD _)
    ((Ordered.get? (keyed fields) (.str "custom_description")).getD _)) = _
  rw [hget, hget, hget]
  rfl

theorem sorted_textData (t : Option String) : Yaml.sorted (textData t) = textData t := by
  cases t with
  | none => rfl
  | some s => rfl

theorem Choice.ofData_sorted (id : String) (c : Choice) :
    Selection.ofData (.str id) (Yaml.sorted c.toData) = .ok (c.selection id) := by
  have hfields : [("included", Data.bool c.included), ("custom_title", textData c.title),
      ("custom_description", textData c.description)].map (fun f => (f.1, Yaml.sorted f.2)) =
      [("included", .bool c.included), ("custom_title", textData c.title),
        ("custom_description", textData c.description)] := by
    simp [sorted_textData, Yaml.sorted]
  have hkeys : ["included", "custom_title", "custom_description"].Nodup := by decide
  rw [Choice.toData, Yaml.sorted_object, hfields, Selection.ofData_perm (Yaml.perm_sortFields _),
    ← Choice.toData, c.ofData_toData]
  exact ((Yaml.perm_sortFields _).map _).nodup_iff.mpr hkeys

namespace Store

variable {s : Store} {d e : Disk} {p : Path}

/-! ## the text of a backup -/

def exportedFields (now : String) (m : Choices) : List (String × Data) :=
  [("version", .str "1.0"), ("exported_at", .str now), ("selections", .object m.pairs.fields)]

def exportText (now : String) (p : Path) (m : Choices) : String :=
  if isYamlFile p then Yaml.document
    (Yaml.sortPairs (Yaml.sortedPairs (keyed (exportedFields now m))))
  else (Json.render (.object (exportedFields now m))).text

theorem exported_fits (now : String) (m : Choices) : Yaml.FitsDocument (exportedFields now m) := by
  have hnames : ∀ k ∈ ["version", "exported_at", "selections"], Yaml.IsName k := by
    decide
  refine ⟨List.cons_ne_nil _ _, fun f hf => (hnames _ (List.mem_map_of_mem hf)).fitsKey, ?_,
    fun f hf => ?_⟩
  · show ["version", "exported_at", "selections"].Nodup
    decide
  · simp only [exportedFields, List.mem_cons, List.not_mem_nil, or_false] at hf
    rcases hf with rfl | rfl | rfl
    · exact .str (by decide) _
    · exact .str (by decide) _
    · exact m.fits (by decide)

theorem plain_textData (t : Option String) : Json.Plain (textData t) := by
  cases t with
  | none => exact .null
  | some s => exact .str s

theorem plain_choice (c : Choice) : Json.Plain c.toData := by
  have hkeys : ["included", "custom_title", "custom_description"].Nodup := by decide
  refine .object (fun f hf => ?_) hkeys
  simp only [List.mem_cons, List.not_mem_nil, or_false] at hf
  rcases hf with rfl | rfl | rfl
  · exact .bool c.included
  · exact plain_textData c.title
  · exact plain_textData c.description

theorem exported_plain (now : String) (m : Choices) :
    Json.Plain (.object (exportedFields now m)) := by
  refine .object (fun f hf => ?_) (exported_fits now m).keys
  simp only [exportedFields, List.mem_cons, List.not_mem_nil, or_false] at hf
  rcases hf with rfl | rfl | rfl
  · exact .str _
  · exact .str _
  · refine .object (fun f hf => ?_) (m.pairs.keys_fields ▸ m.proper.distinct)
    obtain ⟨p, _, rfl⟩ := List.mem_map.mp hf
    exact plain_choice p.2

theorem proper_sortFields {m : Dictionary} (h : m.Proper) :
    Dictionary.Proper (Yaml.sortFields m) where
  ids p hp := h.ids p ((Yaml.perm_sortFields m).mem_iff.mp hp)
  distinct := ((Yaml.perm_sortFields m).map _).nodup_iff.mpr h.distinct

/-- With sorted keys the choices are named in the order of their ids. -/
theorem get?_sorted (now : String) (m : Choices) :
    Ordered.get? (Yaml.sortFields ((exportedFields now m).map fun f => (f.1, Yaml.sorted f.2)))
      "selections" =
      some (.object ((Yaml.sortFields m.pairs).map fun p => (p.1, Yaml.sorted p.2.toData))) := by
  have hvalue : Ordered.get? ((exportedFields now m).map fun f => (f.1, Yaml.sorted f.2))
    "selections" =
      some (Yaml.sorted (.object m.pairs.fields)) := rfl
  rw [Ordered.get?_perm (Yaml.perm_sortFields _) (exported_fits now m).sorted.keys, hvalue,
    Yaml.sorted_object, Dictionary.fields, List.map_map,
    Yaml.map_sortFields fun c : Choice => Yaml.sorted c.toData]
  rfl

theorem exportText_reads (now : String) (p : Path) (m : Choices) :
    Text.unifyNewlines (exportText now p m).toList = (exportText now p m).toList ∧
      ∃ (v : Data) (m' : Choices), m'.pairs.Perm m.pairs ∧
        (if isYamlFile p then parseYaml (exportText now p m) else parseJson (exportText now p m)) =
          .ok v ∧
        Selections.ofDocument v = .ok m'.selections := by
  unfold exportText
  split
  · have hfits := (exported_fits now m).sorted
    rw [Yaml.sortedPairs_keyed, Yaml.sortPairs_keyed, parseYaml, Yaml.parse_document hfits]
    exact ⟨hfits.clean.unifyNewlines_eq, _, ⟨Yaml.sortFields m.pairs, proper_sortFields m.proper⟩,
      Yaml.perm_sortFields _, rfl, Dictionary.ofDocument _ Choice.ofData_sorted (get?_sorted now m)⟩
  · have hplain := exported_plain now m
    rw [parseJson, (Json.parse_render hplain).2]
    exact ⟨Text.unifyNewlines_eq_self (hplain.noReturn 0), _, m, .refl _, rfl,
      m.pairs.ofDocument Choice.ofData_toData rfl⟩

/-! ## export and import -/

theorem run_exportTo {m : Choices} (hload : s.load.run d = (.ok m.selections, d))
    (hwrite : d.write p (exportText s.now p m) = .ok e) : (s.exportTo p).run d = (.ok (), e) := by
  have hrun : (Action.write p (exportText s.now p m)).run d = (.ok (), e) :=
    Action.run_change_ok hwrite
  rw [exportTo, Run.bind_ok hload, Choices.selections, m.pairs.toData_selections]
  unfold exportText at hrun
  dsimp only
  split
  · rw [if_pos ‹_›] at hrun
    exact hrun
  · rw [if_neg ‹_›] at hrun
    have hcomplete := (Json.parse_render (exported_plain s.now m)).1
    show (Action.write p (Json.render (.object (exportedFields s.now m))).text >>= fun _ =>
      if !(Json.render (.object (exportedFields s.now m))).complete then throw .unwritable else pure
        ()).run d = _
    rw [Run.bind_ok hrun, hcomplete]
    rfl

theorem run_importFrom (h : s.Usable d) {text : String} (hread : d.read p = .ok (.text text))
    (hclean : Text.unifyNewlines text.toList = text.toList) {v : Data} {m : Choices}
    (hparse : (if isYamlFile p then parseYaml text else parseJson text) = .ok v)
    (hdocument : Selections.ofDocument v = .ok m.selections) :
    ∃ d', (s.importFrom p).run d = (.ok m.selections, d') ∧
    s.load.run d' = (.ok m.selections, d') := by
  obtain ⟨d', hsave, _, hload⟩ := h.save readable_null m
  refine ⟨d', ?_, hload s.now⟩
  have htext := Action.run_readText_ok hread
  rw [hclean, String.ofList_toList] at htext
  rw [importFrom, Run.bind_ok htext, Run.bind_ok (Action.run_lift_ok hparse d),
    Run.bind_ok (Action.run_lift_ok hdocument d), Run.bind_ok hsave]
  rfl

/-- A place that is not in the directory of the store, nor where a directory has to be on the way to
it. -/
structure Outside (s : Store) (d : Disk) (q : List String) : Prop where
  beyond : ∀ e g, s.Settles d e g → ¬ g <+: q
  spared : ∀ e g, s.Settles d e g → e.node? q ≠ some .folder

theorem Settles.outside {g q : List String} (h : s.Settles d e g) (hq : ¬ g <+: q)
    (hfree : e.node? q ≠ some .folder) : s.Outside d q := by
  constructor
  · intro e' g' h'
    cases h.made.symm.trans h'.made
    cases h.entered.symm.trans h'.entered
    exact hq
  · intro e' g' h'
    cases h.made.symm.trans h'.made
    exact hfree

theorem Usable.of_write (h : s.Usable d) {q : List String} (hq : s.Outside d q) {d' : Disk}
    (hd : Disk.DiffersAt q d d') (htext : ∀ n, d'.node? q = some n → ∃ t, n = .file (.text t)) :
    s.Usable d' ∧ ∀ e g, s.Settles d' e g → ¬ g <+: q := by
  obtain ⟨e, g, hs⟩ := h
  obtain ⟨e', hs'⟩ := hs.of_differs hd (hq.spared e g hs) htext
  refine ⟨⟨e', g, hs'⟩, fun e₁ g₁ hs₁ => ?_⟩
  cases hs'.made.symm.trans hs₁.made
  cases hs'.entered.symm.trans hs₁.entered
  exact hq.beyond e g hs

end Store

/-- What one store exports is imported by another, or by the same, after a store was cleared: the
selections are the same, perhaps in another order, and they are loaded from then on. -/
theorem backup_restores {a b c : Store} {d : Disk} {m : Choices}
    (hload : a.load.run d = (.ok m.selections, d)) {p : Path} {q : List String}
    (hq : d.locate p = .ok q) (hfree : d.node? q ≠ some .folder) (hb : b.Usable d) (hc : c.Usable d)
    (hbq : b.Outside d q) (hcq : c.Outside d q) :
    ∃ d₁ d₂ d₃ restored,
      (a.exportTo p).run d = (.ok (), d₁) ∧
      c.clear.run d₁ = (.ok (), d₂) ∧ c.load.run d₂ = (.ok [], d₂) ∧
      (b.importFrom p).run d₂ = (.ok restored, d₃) ∧ restored.Perm m.selections ∧
      b.load.run d₃ = (.ok restored, d₃) := by
  obtain ⟨hclean, v, m', hperm, hparse, hdocument⟩ := Store.exportText_reads a.now p m
  have hne : q ≠ [] := by
    rintro rfl
    exact hfree rfl
  have hd := Disk.DiffersAt.of_put hne hfree (.text (Store.exportText a.now p m))
  have hnode := Disk.node?_put_self d hne (.file (.text (Store.exportText a.now p m)))
  have htext (n : Node) (hn : (d.put q (.file (.text (Store.exportText a.now p m)))).node? q =
    some n) :
      ∃ t, n = .file (.text t) := ⟨_, Option.some.inj (hn.symm.trans hnode)⟩
  obtain ⟨hb₁, _⟩ := hb.of_write hbq hd htext
  obtain ⟨hc₁, hbeyond⟩ := hc.of_write hcq hd htext
  obtain ⟨d₂, hclear, husable, hkeeps, hsame, hempty⟩ := hc₁.clear
  have hread : d₂.read p = .ok (.text (Store.exportText a.now p m)) :=
    Disk.read_eq (hkeeps.locate (hd.keepsFolders.locate hq)) ((hsame q hbeyond).trans hnode)
  obtain ⟨d₃, himport, hload₃⟩ := Store.run_importFrom (husable b hb₁) hread hclean hparse hdocument
  refine ⟨_, d₂, d₃, m'.selections, Store.run_exportTo hload (Disk.write_ok hq hfree _), hclear,
    hempty c.now, himport,
    ?_, hload₃⟩
  exact (hperm.map _).map _

def savedDisk : Disk :=
  ⟨"/home/notes",
    [(["notes"], .folder), (["notes", ".docuagent"], .folder),
     (["notes", ".docuagent", "selections.yaml"], .file (.text
         (Yaml.document (keyed (Store.written "2024-05-01T12:00:00"
           (.map []) trickyChoices.pairs)))))]⟩

def otherStore : Store := ⟨.ofParts ["other"], "2024-06-01T12:00:00"⟩

theorem savedDisk_load :
    notesStore.load.run savedDisk = (.ok trickyChoices.selections, savedDisk) := by
  obtain ⟨hclean, hparse⟩ := Store.readable_null "2024-05-01T12:00:00" trickyChoices
  exact Store.load_of_document (q := ["notes", ".docuagent", "selections.yaml"]) rfl rfl
    hclean hparse rfl

theorem notesStore_settles : notesStore.Settles savedDisk savedDisk ["notes", ".docuagent"] :=
  ⟨by decide, rfl, rfl, nofun, by decide⟩

theorem otherStore_settles :
    otherStore.Settles savedDisk (savedDisk.put ["other"] .folder) ["other"] :=
  ⟨by decide, rfl, rfl, nofun, by decide⟩

theorem savedDisk_restores :
    notesStore.load.run savedDisk = (.ok trickyChoices.selections, savedDisk) ∧
    ∃ d₁ d₂ d₃ restored,
      (notesStore.exportTo (.ofParts ["backup.yml"])).run savedDisk = (.ok (), d₁) ∧
      notesStore.clear.run d₁ = (.ok (), d₂) ∧ notesStore.load.run d₂ = (.ok [], d₂) ∧
      (otherStore.importFrom (.ofParts ["backup.yml"])).run d₂ = (.ok restored, d₃) ∧
      restored.Perm trickyChoices.selections ∧ otherStore.load.run d₃ = (.ok restored, d₃) :=
  ⟨savedDisk_load,
    backup_restores savedDisk_load (q := ["backup.yml"]) rfl (by decide) ⟨_, _, otherStore_settles⟩
      ⟨_, _, notesStore_settles⟩ (otherStore_settles.outside (by decide) (by decide))
      (notesStore_settles.outside (by decide) (by decide))⟩

end Apidoc
