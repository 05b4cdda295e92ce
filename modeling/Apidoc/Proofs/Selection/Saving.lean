import Apidoc.Proofs.Repository.Folders
import Apidoc.Proofs.Selection.Choices

/-!
# What a store saves is loaded again

* `Store.Usable`       the directory of a store is there or can be made, and nothing is in the way
                       of its files;
* `Store.Usable.save`  saving succeeds, and what is loaded then is what was saved;
* `Store.Usable.clear` clearing succeeds, and then nothing is loaded.
-/

namespace Apidoc

open Ordered (keyed)

namespace Store

variable {s : Store} {d e : Disk} {g : List String}

def fileNames : List String := ["selections.yaml", "state.json", "descriptions.json"]

theorem selections_mem : "selections.yaml" ∈ fileNames := by decide

theorem state_mem : "state.json" ∈ fileNames := by decide

theorem descriptions_mem : "descriptions.json" ∈ fileNames := by decide

/-- The directory of the store is at `g` once it is made, which leaves the disk as `e`; its files
can be written there, and so can the file of ignored paths. -/
structure Settles (s : Store) (d e : Disk) (g : List String) : Prop where
  rooted : s.folder.anchor ≠ .root
  made : d.makeFolder s.folder = .ok e
  entered : e.enter [] s.folder.parts = .ok g
  ignored : ∀ n, e.node? [".gitignore"] = some n → ∃ t, n = .file (.text t)
  free : ∀ name ∈ fileNames, e.node? (g ++ [name]) ≠ some .folder

def Usable (s : Store) (d : Disk) : Prop := ∃ e g, s.Settles d e g

theorem Usable.at (h : s.Usable d) (now : String) : ({ s with now } : Store).Usable d := by
  obtain ⟨e, g, hs⟩ := h
  exact ⟨e, g, hs.rooted, hs.made, hs.entered, hs.ignored, hs.free⟩

/-! ## places -/

theorem locate_file (ha : s.folder.anchor ≠ .root) (hg : d.enter [] s.folder.parts = .ok g)
    {name : String} (hname : name ∈ fileNames) :
    d.locate (s.folder.child name) = .ok (g ++ [name]) := by
  have hshort : ∀ name ∈ fileNames, name ≠ ".." ∧ Disk.isLong name = false := by decide
  rw [Path.child, Disk.locate_concat d ha _ (hshort name hname).1, hg]
  show (if Disk.isLong name then _ else _) = _
  rw [(hshort name hname).2]
  rfl

theorem locate_ignoreFile (d : Disk) : d.locate ignoreFile = .ok [".gitignore"] := by
  have hlocate : d.locate ⟨.here, [] ++ [".gitignore"]⟩ = _ :=
    Disk.locate_concat d (by decide) [] (by decide)
  rwa [show Disk.isLong ".gitignore" = false by decide] at hlocate

theorem append_ignoreFile {t : String} (h : d.node? [".gitignore"] = some (.file (.text t))) :
    d.append ignoreFile ignoreLines =
      .ok (d.put [".gitignore"] (.file (.text (t ++ ignoreLines)))) := by
  simp only [Disk.append, Disk.read_eq (locate_ignoreFile d) h, Disk.write, locate_ignoreFile, h]

theorem file_ne_ignoreFile {name : String} (hname : name ∈ fileNames) (g : List String) :
    g ++ [name] ≠ [".gitignore"] := by
  have hne : ∀ name ∈ fileNames, name ≠ ".gitignore" := by decide
  intro h
  have hlast := congrArg List.getLast? h
  rw [List.getLast?_concat] at hlast
  exact hne name hname (Option.some.inj hlast)

theorem Settles.again (h : s.Settles d e g) : s.Settles e e g :=
  { h with made := Disk.makeFrom_of_enter h.rooted h.entered }

theorem Settles.of_keeps (h : s.Settles d e g) {e' : Disk} (hkeeps : e.KeepsFolders e')
    (hignored : ∀ n, e'.node? [".gitignore"] = some n → ∃ t, n = .file (.text t))
    (hfree : ∀ name ∈ fileNames, e'.node? (g ++ [name]) ≠ some .folder) : s.Settles e' e' g where
  rooted := h.rooted
  made := Disk.makeFrom_of_enter h.rooted (hkeeps.enter h.entered)
  entered := hkeeps.enter h.entered
  ignored := hignored
  free := hfree

theorem Settles.cases (h : s.Settles d e g) :
    (d = e ∧ d.enter [] s.folder.parts = .ok g) ∨ d.enter [] s.folder.parts = .error .missing := by
  rcases Disk.enter_before_makeFrom rfl h.made with ⟨g', hg'⟩ | hmissing
  · rw [List.nil_append] at hg'
    have hsame : d.makeFolder s.folder = .ok d := Disk.makeFrom_of_enter h.rooted hg'
    cases hsame.symm.trans h.made
    exact .inl ⟨rfl, h.entered⟩
  · exact .inr hmissing

/-! ## preparing -/

theorem Settles.prepare (h : s.Settles d e g) :
    ∃ e', s.prepare.run d = (.ok (), e') ∧ s.Settles e' e' g ∧
      ∀ q, q ≠ [".gitignore"] → e'.node? q = e.node? q := by
  have hmake : (Action.makeFolder s.folder).run d = (.ok (), e) := Action.run_change_ok h.made
  rw [Store.prepare, Run.bind_ok hmake, Run.bind_ok (Action.run_exists_ok (locate_ignoreFile e))]
  cases hnode : e.node? [".gitignore"] with
  | none => exact ⟨e, rfl, h.again, fun _ _ => rfl⟩
  | some n =>
    obtain ⟨t, rfl⟩ := h.ignored n hnode
    have hread : e.read ignoreFile = .ok (.text t) := Disk.read_eq (locate_ignoreFile e) hnode
    rw [show (some (Node.file (.text t))).isSome = true from rfl, if_pos rfl,
      Run.bind_ok (Action.run_readText_ok hread)]
    split
    · have hother (q : List String) (hq : q ≠ [".gitignore"]) :
          (e.put [".gitignore"] (.file (.text (t ++ ignoreLines)))).node? q = e.node? q :=
        Disk.node?_put_of_ne e (fun e => hq e.symm) _
      refine ⟨_, Action.run_change_ok (append_ignoreFile hnode), h.of_keeps ?_ ?_ ?_, hother⟩
      · exact .of_put (by rw [hnode]; nofun) _
      · intro n hn
        rw [Disk.node?_put_self e (by decide)] at hn
        exact ⟨_, (Option.some.inj hn).symm⟩
      · intro name hname
        rw [hother _ (file_ne_ignoreFile hname g)]
        exact h.free name hname
    · exact ⟨e, rfl, h.again, fun _ _ => rfl⟩

/-! ## saving and loading -/

def written (now : String) (info : Data) (m : Dictionary) : List (String × Data) :=
  [("version", .str "1.0"), ("updated_at", .str now), ("metadata", info),
    ("selections", .object m.fields)]

/-- The fields are read back from the document that is written for them. -/
def Reads (fields : List (String × Data)) : Prop :=
  Text.unifyNewlines (Yaml.document (keyed fields)).toList = (Yaml.document (keyed fields)).toList ∧
    Yaml.parse (Yaml.document (keyed fields)) = .ok (.object fields)

theorem reads_written {info : Data} (hinfo : Yaml.Fits 0 info) {m : Dictionary}
    (hnames : ∀ p ∈ m, Yaml.FitsKey p.1) (hkeys : (m.map (·.1)).Nodup) (now : String) :
    Reads (written now info m) := by
  have htop : ∀ k ∈ ["version", "updated_at", "metadata", "selections"], Yaml.IsName k := by
    decide
  have hfits : Yaml.FitsDocument (written now info m) := by
    refine ⟨List.cons_ne_nil _ _, fun f hf => (htop _ (List.mem_map_of_mem hf)).fitsKey, ?_,
      fun f hf => ?_⟩
    · show ["version", "updated_at", "metadata", "selections"].Nodup
      decide
    · simp only [written, List.mem_cons, List.not_mem_nil, or_false] at hf
      rcases hf with rfl | rfl | rfl | rfl
      · exact .str (by decide) _
      · exact .str (by decide) _
      · exact hinfo
      · exact m.fits hnames hkeys (by decide)
  exact ⟨hfits.clean.unifyNewlines_eq, Yaml.parse_document hfits⟩

theorem fits_empty : Yaml.Fits 0 (.map []) := by
  have hempty : Yaml.Fits 0 (.object []) := .object (by simp) (by simp) (by simp) (by simp)
  exact hempty

/-- metadata with which every document of a store is read back -/
def Readable (metadata : Data) : Prop :=
  ∀ (now : String) (m : Choices),
    Reads (written now (if metadata.isTrue then metadata else .map []) m.pairs)

/-- Nested lists and maps of texts, whole numbers and truth values can be metadata, and so can
nothing. -/
theorem readable_of_fits {metadata : Data} (h : metadata.isTrue = true → Yaml.Fits 0 metadata) :
    Readable metadata := by
  intro now m
  refine reads_written ?_ (fun p hp => (m.proper.ids p hp).isName.fitsKey) m.proper.distinct now
  split
  · exact h ‹_›
  · exact fits_empty

theorem readable_null : Readable .null := readable_of_fits nofun

theorem load_of_missing (h : d.locate s.selectionsFile = .error .missing) :
    s.load.run d = (.ok [], d) := by
  rw [load, Run.bind_ok (Action.run_exists_missing h)]
  rfl

theorem load_of_none {q : List String} (hq : d.locate s.selectionsFile = .ok q)
    (hnode : d.node? q = none) : s.load.run d = (.ok [], d) := by
  rw [load, Run.bind_ok (Action.run_exists_ok hq), hnode]
  rfl

theorem load_of_text {q : List String} {text : String} {v : Data}
    (hq : d.locate s.selectionsFile = .ok q) (hnode : d.node? q = some (.file (.text text)))
    (hclean : Text.unifyNewlines text.toList = text.toList) (hparse : Yaml.parse text = .ok v)
    (htrue : v.isTrue = true) : s.load.run d = (Selections.ofDocument v, d) := by
  have hread := Action.run_readText_ok (Disk.read_eq hq hnode)
  rw [hclean, String.ofList_toList] at hread
  have hyaml : parseYaml text = .ok v := by rw [parseYaml, hparse]; rfl
  rw [load, Run.bind_ok (Action.run_exists_ok hq), hnode]
  show (Action.readText s.selectionsFile >>= fun text => Action.lift (parseYaml text) >>= _).run d =
    _
  rw [Run.bind_ok hread, Run.bind_ok (Action.run_lift_ok hyaml d), htrue]
  exact Action.run_lift_eq _ d

theorem load_of_document {q : List String} {text : String} {fields : List (String × Data)}
    {m : Dictionary} (hq : d.locate s.selectionsFile = .ok q)
    (hnode : d.node? q = some (.file (.text text)))
    (hclean : Text.unifyNewlines text.toList = text.toList)
    (hparse : Yaml.parse text = .ok (.object fields))
    (hfields : Ordered.get? fields "selections" = some (.object m.fields)) :
    s.load.run d = (.ok m.selections, d) := by
  have htrue : (Data.object fields).isTrue = true := by
    cases fields with
    | nil => cases hfields
    | cons f fields => rfl
  rw [load_of_text hq hnode hclean hparse htrue,
    m.ofDocument Choice.ofData_toData hfields]

theorem Settles.write (h : s.Settles d e g) {name : String} (hname : name ∈ fileNames)
    (text : String) :
    ∃ e', (Action.write (s.folder.child name) text).run e = (.ok (), e') ∧ s.Settles e' e' g ∧
      e'.locate (s.folder.child name) = .ok (g ++ [name]) ∧ e'.node? (g ++ [name]) =
        some (.file (.text text)) := by
  have hq := locate_file h.rooted h.entered hname
  have hfree := h.free name hname
  have hne : g ++ [name] ≠ [] := by simp
  have hkeeps := Disk.KeepsFolders.of_put hfree (.file (.text text))
  have hs := h.of_keeps hkeeps
    (fun n hn => h.ignored n (Disk.node?_put_of_ne e (file_ne_ignoreFile hname g) _ ▸ hn))
    (fun other hother => Disk.node?_put_file_ne_folder hne _ (h.free other hother))
  exact ⟨_, Action.run_change_ok (Disk.write_ok hq hfree text), hs, hkeeps.locate hq,
    Disk.node?_put_self e hne _⟩

def stored (s : Store) : Action Data := do
  Action.lift (parseYaml (← Action.readText s.selectionsFile))

theorem stored_of_text {q : List String} {text : String} {v : Data}
    (hq : d.locate s.selectionsFile = .ok q) (hnode : d.node? q = some (.file (.text text)))
    (hclean : Text.unifyNewlines text.toList = text.toList) (hparse : Yaml.parse text = .ok v) :
    s.stored.run d = (.ok v, d) := by
  have hread := Action.run_readText_ok (Disk.read_eq hq hnode)
  rw [hclean, String.ofList_toList] at hread
  have hyaml : parseYaml text = .ok v := by rw [parseYaml, hparse]; rfl
  rw [stored, Run.bind_ok hread]
  exact Action.run_lift_ok hyaml d

theorem Usable.save_text (h : s.Usable d) (m : Dictionary) (metadata : Data) :
    ∃ d' q, (s.save m.selections metadata).run d = (.ok (), d') ∧ s.Usable d' ∧
      d'.locate s.selectionsFile = .ok q ∧ d'.node? q = some (.file (.text (Yaml.document (keyed
        (written s.now (if metadata.isTrue then metadata else .map []) m))))) := by
  obtain ⟨e, g, hs⟩ := h
  obtain ⟨e, hprepare, hs, _⟩ := hs.prepare
  obtain ⟨d', hwrite, hs', hq, hnode⟩ := hs.write selections_mem (Yaml.document (keyed
    (written s.now (if metadata.isTrue then metadata else .map []) m)))
  refine ⟨d', _, ?_, ⟨_, g, hs'⟩, hq, hnode⟩
  rw [Store.save, Run.bind_ok hprepare, m.toData_selections]
  exact hwrite

theorem Usable.save_written (h : s.Usable d) {m : Dictionary} (metadata : Data)
    (hreads : Reads (written s.now (if metadata.isTrue then metadata else .map []) m)) :
    ∃ d', (s.save m.selections metadata).run d = (.ok (), d') ∧ s.Usable d' ∧
      s.stored.run d' =
        (.ok (.object (written s.now (if metadata.isTrue then metadata else .map []) m)), d') ∧
      ∀ now, ({ s with now } : Store).load.run d' = (.ok m.selections, d') := by
  obtain ⟨hclean, hparse⟩ := hreads
  obtain ⟨d', q, hrun, husable, hq, hnode⟩ := h.save_text m metadata
  exact ⟨d', hrun, husable, stored_of_text hq hnode hclean hparse,
    fun now => load_of_document hq hnode hclean hparse rfl⟩

theorem Usable.save (h : s.Usable d) {metadata : Data} (hmetadata : Readable metadata)
    (m : Choices) :
    ∃ d', (s.save m.selections metadata).run d = (.ok (), d') ∧ s.Usable d' ∧
      ∀ now, ({ s with now } : Store).load.run d' = (.ok m.selections, d') := by
  obtain ⟨d', hrun, husable, _, hload⟩ := h.save_written (m := m.pairs) metadata (hmetadata s.now m)
  exact ⟨d', hrun, husable, hload⟩

/-! ## clearing -/

theorem Settles.of_differs (h : s.Settles d e g) {r : List String} {d' : Disk}
    (hd : Disk.DiffersAt r d d') (hr : e.node? r ≠ some .folder)
    (htext : ∀ n, d'.node? r = some n → ∃ t, n = .file (.text t)) :
    ∃ e', s.Settles d' e' g := by
  obtain ⟨e', hmade, hdiffers, hnode⟩ := hd.makeFrom h.made hr
  refine ⟨e', h.rooted, hmade, hdiffers.keepsFolders.enter h.entered, fun n hn => ?_,
    fun name hname hfolder => h.free name hname (hdiffers.symm.keepsFolders _ hfolder)⟩
  by_cases hqr : [".gitignore"] = r
  · subst hqr
    exact htext n (hnode ▸ hn)
  · exact h.ignored n (hdiffers.same _ hqr ▸ hn)

theorem Usable.of_sheds (h : s.Usable d) {places : List (List String)} {d' : Disk}
    (hd : d.Sheds places d') : s.Usable d' := by
  induction hd with
  | refl d => exact h
  | @step _ _ _ r _ hlacks _ ih =>
    obtain ⟨e, g, hs⟩ := h
    obtain ⟨c, hc⟩ := hlacks.file
    have hfile : e.node? r ≠ some .folder := by
      rw [Disk.node?_of_makeFrom hs.made hc]
      nofun
    obtain ⟨e', hs'⟩ := hs.of_differs hlacks.toDiffersAt hfile fun n hn => by
      rw [hlacks.gone] at hn; cases hn
    exact ih ⟨e', g, hs'⟩

theorem removeIfThere_missing {p : Path} (h : d.locate p = .error .missing) :
    (removeIfThere p).run d = (.ok (), d) := by
  rw [removeIfThere, Run.bind_ok (Action.run_exists_missing h)]
  rfl

theorem removeIfThere_free {p : Path} {q : List String} (hq : d.locate p = .ok q)
    (hfree : d.node? q ≠ some .folder) {places : List (List String)} (hplaces : q ∈ places) :
    ∃ d', (removeIfThere p).run d = (.ok (), d') ∧ d.Sheds places d' ∧ d'.node? q = none := by
  have hrun :=
    Run.bind_ok (Action.run_exists_ok hq) fun there => if there then Action.remove p else pure ()
  change (removeIfThere p).run d = _ at hrun
  cases hnode : d.node? q with
  | none =>
    rw [hnode] at hrun
    exact ⟨d, hrun, .refl d, hnode⟩
  | some n =>
    cases n with
    | folder => exact absurd hnode hfree
    | file c =>
      obtain ⟨d', hremove⟩ := Disk.remove_file hq hnode
      obtain ⟨r, hr, hlacks⟩ := Disk.remove_cases hremove
      cases hq.symm.trans hr
      rw [hnode] at hrun
      exact ⟨d', hrun.trans (Action.run_change_ok hremove),
        .step hplaces hlacks (.refl d'), hlacks.gone⟩

def places (g : List String) : List (List String) := fileNames.map fun name => g ++ [name]

theorem removeFile (ha : s.folder.anchor ≠ .root) (hg : d.enter [] s.folder.parts = .ok g)
    (hfree : ∀ name ∈ fileNames, d.node? (g ++ [name]) ≠ some .folder) {name : String}
    (hname : name ∈ fileNames) :
    ∃ d', (removeIfThere (s.folder.child name)).run d = (.ok (), d') ∧ d.Sheds (places g) d' ∧
      d'.node? (g ++ [name]) = none ∧ d'.enter [] s.folder.parts = .ok g ∧
      ∀ name ∈ fileNames, d'.node? (g ++ [name]) ≠ some .folder := by
  have hplace : g ++ [name] ∈ places g := List.mem_map.mpr ⟨name, hname, rfl⟩
  obtain ⟨d', hrun, hsheds, hnone⟩ :=
    removeIfThere_free (locate_file ha hg hname) (hfree name hname) hplace
  exact ⟨d', hrun, hsheds, hnone, hsheds.keepsFolders.enter hg,
    fun name hname hfolder => hfree name hname (hsheds.keptFolders _ hfolder)⟩

theorem clear_inside (ha : s.folder.anchor ≠ .root) (hg : d.enter [] s.folder.parts = .ok g)
    (hfree : ∀ name ∈ fileNames, d.node? (g ++ [name]) ≠ some .folder) :
    ∃ d', s.clear.run d = (.ok (), d') ∧ d.Sheds (places g) d' ∧
    d'.node? (g ++ ["selections.yaml"]) = none := by
  obtain ⟨d₁, hrun₁, hsheds₁, hnone, hg₁, hfree₁⟩ := removeFile ha hg hfree selections_mem
  obtain ⟨d₂, hrun₂, hsheds₂, _, hg₂, hfree₂⟩ := removeFile ha hg₁ hfree₁ state_mem
  obtain ⟨d₃, hrun₃, hsheds₃, _, _, _⟩ := removeFile ha hg₂ hfree₂ descriptions_mem
  refine ⟨d₃, ?_, hsheds₁.trans (hsheds₂.trans hsheds₃), hsheds₃.none (hsheds₂.none hnone)⟩
  show (removeIfThere (s.folder.child "selections.yaml") >>= fun _ =>
    removeIfThere (s.folder.child "state.json") >>= fun _ =>
      removeIfThere (s.folder.child "descriptions.json")).run d = _
  rw [Run.bind_ok hrun₁, Run.bind_ok hrun₂, hrun₃]

theorem locate_missing (ha : s.folder.anchor ≠ .root)
    (h : d.enter [] s.folder.parts = .error .missing) {name : String} (hname : name ∈ fileNames) :
    d.locate (s.folder.child name) = .error .missing := by
  have hne : ∀ name ∈ fileNames, name ≠ ".." := by decide
  rw [Path.child, Disk.locate_concat d ha _ (hne name hname), h]
  rfl

/-- Clearing succeeds, and then nothing is loaded.  Other stores can be used as before, and what is
outside the directory stays. -/
theorem Usable.clear (h : s.Usable d) :
    ∃ d', s.clear.run d = (.ok (), d') ∧ (∀ t : Store, t.Usable d → t.Usable d') ∧
    d.KeepsFolders d' ∧
      (∀ q, (∀ e g, s.Settles d e g → ¬ g <+: q) → d'.node? q = d.node? q) ∧
      ∀ now, ({ s with now } : Store).load.run d' = (.ok [], d') := by
  obtain ⟨e, g, hs⟩ := h
  rcases hs.cases with ⟨rfl, hg⟩ | hmissing
  · obtain ⟨d', hrun, hsheds, hnone⟩ := clear_inside hs.rooted hg hs.free
    refine ⟨d', hrun, fun t ht => ht.of_sheds hsheds, hsheds.keepsFolders,
      fun q hq => hsheds.same ?_, fun now =>
      load_of_none (locate_file hs.rooted (hsheds.keepsFolders.enter hg) selections_mem) hnone⟩
    intro hmem
    obtain ⟨name, _, rfl⟩ := List.mem_map.mp hmem
    exact hq d g hs (List.prefix_append g [name])
  · have hfile {name : String} (hname : name ∈ fileNames) := locate_missing hs.rooted hmissing hname
    refine ⟨d, ?_, fun _ ht => ht, fun _ hq => hq, fun _ _ => rfl, fun now => load_of_missing
      (hfile selections_mem)⟩
    show (removeIfThere (s.folder.child "selections.yaml") >>= fun _ =>
      removeIfThere (s.folder.child "state.json") >>= fun _ =>
        removeIfThere (s.folder.child "descriptions.json")).run d = _
    rw [Run.bind_ok (removeIfThere_missing (hfile selections_mem)),
      Run.bind_ok (removeIfThere_missing (hfile state_mem)),
      removeIfThere_missing (hfile descriptions_mem)]

end Store

/-! ## the ids of selections -/

namespace Selections

/-- each selection with the id that it stands under -/
def named (s : Selections) : Selections := s.map fun p => (p.1, { p.2 with id := p.1 })

/-- The id in a selection is not written. -/
theorem toData_named (s : Selections) : s.named.toData = s.toData := by
  rw [toData, toData, named, List.map_map]
  rfl

end Selections

theorem Dictionary.id_selections {m : Dictionary} {p : Data × Selection} (hp : p ∈ m.selections) :
    p.2.id = p.1 := by
  obtain ⟨q, hq, rfl⟩ := List.mem_map.mp hp
  obtain ⟨r, -, rfl⟩ := List.mem_map.mp hq
  rfl

/-- Whatever choices are saved are loaded again, each under its id and in their order, and the id of
each selection is the one that it stands under, whatever it was before. -/
theorem saved_choices_load {s : Store} {d : Disk} (h : s.Usable d) (m : Choices)
    {given : Selections} (hgiven : given.named = m.selections) :
    ∃ d', (s.save given .null).run d = (.ok (), d') ∧ s.load.run d' = (.ok m.selections, d') ∧
      ∀ p ∈ m.selections, p.2.id = p.1 := by
  obtain ⟨d', hsave, _, hload⟩ := h.save Store.readable_null m
  have hsame : s.save given .null = s.save m.selections .null := by
    rw [Store.save, Store.save, ← hgiven, Selections.toData_named]
  exact ⟨d', hsame ▸ hsave, hload s.now, fun p hp => Dictionary.id_selections hp⟩

/-- a store in a directory that is not there yet -/
def notesStore : Store := ⟨.ofParts ["notes", ".docuagent"], "2024-05-01T12:00:00"⟩

def notesDisk : Disk := ⟨"/home/notes", [([".gitignore"], .file (.text "*.log\n"))]⟩

/-- ids that look like numbers, and texts that look like something else, or break or fold a line -/
def trickyChoices : Choices where
  pairs :=
    [("000000000000", ⟨true, some "yes", none⟩),
     ("0b0101010101", ⟨false, some "2020-01-01", some "key: value # note\n\n  it's late\n"⟩),
     ("1e1234567890", ⟨true, some "<<", some ""⟩),
     ("deadbeef0042", ⟨true, none,
       some "a description that goes on and on, until at last the line is folded at one of the blanks in it"⟩),
     ("123456789012", ⟨false, some " null", some "a\r\u0085\u2028\ud7ff"⟩)]
  proper := by
    constructor
    · decide
    · decide

theorem notesStore_usable : notesStore.Usable notesDisk := by
  refine ⟨_, ["notes", ".docuagent"], by decide, rfl, rfl, ?_, by decide⟩
  intro n hn
  exact ⟨_, (Option.some.inj hn).symm⟩

/-- the choices under their ids, but without an id in the selections -/
def anonymousChoices : Selections :=
  trickyChoices.selections.map fun p => (p.1, { p.2 with id := .null })

theorem trickyChoices_load : notesStore.Usable notesDisk ∧
    ∃ d', (notesStore.save anonymousChoices .null).run notesDisk = (.ok (), d') ∧
      notesStore.load.run d' = (.ok trickyChoices.selections, d') ∧
      ∀ p ∈ trickyChoices.selections, p.2.id = p.1 :=
  ⟨notesStore_usable, saved_choices_load notesStore_usable trickyChoices rfl⟩

end Apidoc
