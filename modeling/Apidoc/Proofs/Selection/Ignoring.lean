import Apidoc.Proofs.Selection.Restarting

/-!
# The file of ignored paths

Every operation that writes into the directory of a store prepares the directory first, and looks
whether it is named among the ignored paths.

* `Store.Ignoring`           what may become of the file of ignored paths;
* `Action.Ignores`           no more becomes of it, and `Action.Enrolls`, success leaves the
                             directory named;
* `StoreOperation.ignores`   what holds of one operation, and `StoreOperation.enrolls`, of one that
                             saves;
* `ignored_at_most_once`     operations one after the other, whether or not they fail.
-/

namespace Apidoc

namespace Store

/-! ## what may become of the file -/

/-- The file of ignored paths stays as it is, or it gets the lines that name the directory because
it did not name it before. -/
def Ignoring (d d' : Disk) : Prop :=
  d'.node? [".gitignore"] = d.node? [".gitignore"] ∨
    ∃ t, d.node? [".gitignore"] = some (.file (.text t)) ∧ ¬ Ignores t ∧
      d'.node? [".gitignore"] = some (.file (.text (t ++ ignoreLines)))

/-- If there is a file of ignored paths, it names the directory. -/
def Named (d : Disk) : Prop :=
  ∀ n, d.node? [".gitignore"] = some n → ∃ t, n = .file (.text t) ∧ Ignores t

namespace Ignoring

variable {d d' d'' : Disk}

theorem refl (d : Disk) : Ignoring d d := .inl rfl

/-- The lines are not added again. -/
theorem trans (h : Ignoring d d') (h' : Ignoring d' d'') : Ignoring d d'' := by
  rcases h with hsame | ⟨t, ht, hnot, hadded⟩
  · rcases h' with hsame' | ⟨t, ht, hnot, hadded⟩
    · exact .inl (hsame'.trans hsame)
    · exact .inr ⟨t, hsame ▸ ht, hnot, hadded⟩
  · rcases h' with hsame' | ⟨t', ht', hnot', _⟩
    · exact .inr ⟨t, ht, hnot, hsame'.trans hadded⟩
    · rw [hadded] at ht'
      cases ht'
      exact absurd (ignores_append t) hnot'

theorem named (h : Ignoring d d') (hnamed : Named d) : Named d' := by
  rcases h with hsame | ⟨t, ht, hnot, _⟩
  · intro n hn
    exact hnamed n (hsame ▸ hn)
  · obtain ⟨t', ht', hignores⟩ := hnamed _ ht
    cases ht'
    exact absurd hignores hnot

end Ignoring

end Store

/-! ## actions -/

theorem Disk.inside?_of_locate {d : Disk} {p : Path} {q : List String} (h : d.locate p = .ok q) :
    p.inside? = some q := by
  obtain ⟨anchor, parts⟩ := p
  have ha : anchor ≠ .root := rooted_of_locate h
  rw [Path.inside?, if_neg ha]
  rcases parts.eq_nil_or_concat with rfl | ⟨start, last, rfl⟩
  · cases anchor with
    | root => exact absurd rfl ha
    | here =>
      cases h
      rfl
    | named name =>
      cases h
      rfl
  · rw [List.concat_eq_append] at h ⊢
    by_cases hlast : last = ".."
    · subst hlast
      refine climb?_of_enter (d := d) ?_
      unfold locate at h
      simpa [ha] using h
    · rw [locate_concat d ha start hlast] at h
      cases hstart : d.enter [] start with
      | error c =>
        rw [hstart] at h
        cases h
      | ok folder =>
        rw [hstart, Except.bind] at h
        split at h
        · cases h
        · cases h
          rw [climb?_append, climb?_of_enter hstart, Option.bind_some, Path.climb?, if_neg hlast,
            Path.climb?]

namespace Action

open Store (Ignoring Named)

variable {α β : Type}

/-- Whatever becomes of the action, the file of ignored paths gets the lines at most. -/
def Ignores (x : Action α) : Prop := ∀ d, Ignoring d (x.run d).2

/-- Besides, the directory is named once the action succeeds. -/
structure Enrolls (x : Action α) : Prop where
  ignores : x.Ignores
  named : ∀ ⦃d d' : Disk⦄ ⦃a : α⦄, x.run d = (.ok a, d') → Named d'

theorem Looks.ignores {x : Action α} (h : x.Looks) : x.Ignores := fun d => .inl (by rw [h d])

theorem Ignores.bind {x : Action α} {f : α → Action β} (hx : x.Ignores) (hf : ∀ a, (f a).Ignores) :
    (x >>= f).Ignores := by
  intro d
  rcases Run.bind_snd x f d with h | ⟨a, _, h⟩
  · rw [h]
    exact hx d
  · rw [h]
    exact (hx d).trans (hf a _)

theorem Enrolls.bind {x : Action α} {f : α → Action β} (hx : x.Enrolls) (hf : ∀ a, (f a).Ignores) :
    (x >>= f).Enrolls where
  ignores := hx.ignores.bind hf
  named d d' b hrun := by
    obtain ⟨a, e, hfirst, hrest⟩ := Run.ok_of_bind hrun
    have hkept := hf a e
    rw [hrest] at hkept
    exact hkept.named (hx.named hfirst)

theorem Enrolls.map {x : Action α} (hx : x.Enrolls) (f : α → β) :
    (x >>= fun a => pure (f a)).Enrolls :=
  hx.bind fun _ => (looks_pure _).ignores

theorem Looks.enrolls {x : Action α} {f : α → Action β} (hx : x.Looks) (hf : ∀ a, (f a).Enrolls) :
    (x >>= f).Enrolls where
  ignores := hx.ignores.bind fun a => (hf a).ignores
  named d d' b hrun := by
    obtain ⟨a, e, _, hrest⟩ := Run.ok_of_bind hrun
    exact (hf a).named hrest

theorem enrolls_throw (c : Fault) : (throw c : Action α).Enrolls where
  ignores := (looks_throw c).ignores
  named _ _ _ hrun := nomatch hrun

theorem ignores_change {f : Disk → Except DiskFault Disk}
    (h : ∀ d e, f d = .ok e → e.node? [".gitignore"] = d.node? [".gitignore"]) :
    (change f).Ignores := by
  intro d
  obtain ⟨c, _, hrun⟩ | ⟨e, he, hrun⟩ := run_change_cases f d
  · rw [hrun]
    exact .refl d
  · rw [hrun]
    exact .inl (h d e he)

theorem ignores_write {p : Path} (hp : ∀ (d : Disk) q, d.locate p = .ok q → q ≠ [".gitignore"])
    (text : String) : (write p text).Ignores := by
  refine ignores_change fun d e h => ?_
  obtain ⟨q, hq, _, rfl⟩ := Disk.write_cases h
  exact Disk.node?_put_of_ne d (hp d q hq) _

theorem ignores_writeJson {p : Path} (hp : ∀ (d : Disk) q, d.locate p = .ok q → q ≠ [".gitignore"])
    (v : Data) : (Store.writeJson p v).Ignores := by
  refine (ignores_write hp _).bind fun _ => ?_
  split
  · exact (looks_throw _).ignores
  · exact (looks_pure _).ignores

end Action

namespace Store

variable {s : Store}

theorem place_ne_ignoreFile {name : String} (hname : name ∈ fileNames) (d : Disk) (q : List String)
    (hq : d.locate (s.folder.child name) = .ok q) : q ≠ [".gitignore"] := by
  obtain ⟨g, _, rfl⟩ := Disk.locate_below hq (descends_file hname) (by simp)
  exact file_ne_ignoreFile hname g

/-- The directory is not where the file of ignored paths is, nor below it. -/
structure Beside (folder : Path) : Prop where
  rooted : folder.anchor ≠ .root
  descends : Disk.Descends folder.parts
  apart : ¬ [".gitignore"] <+: folder.parts

theorem ignores_prepare (hs : Beside s.folder) : s.prepare.Ignores := by
  have hmake : (Action.makeFolder s.folder).Ignores := by
    refine Action.ignores_change fun d e h => ?_
    have hgains : d.Gains (fun q _ => q <+: s.folder.parts) e := .of_makeFrom h fun r q b hr hq =>
      Disk.eq_of_locate hq (fun hup => hs.descends (hr.subset hup)) ▸ hr
    exact hgains.same fun _ => hs.apart
  refine hmake.bind fun _ d => ?_
  rw [Run.bind_ok (Action.run_exists_ok (locate_ignoreFile d))]
  split
  · -- the file may be no text, and then the action stops there
    rcases Run.bind_snd (Action.readText ignoreFile) _ d with h | ⟨text, htext, h⟩
    · rw [h]
      exact (Action.looks_readText _).ignores d
    · rw [h, Action.looks_readText _ d]
      obtain ⟨t, hread, rfl⟩ := Action.readText_cases htext
      obtain ⟨q, hq, hnode⟩ := Disk.read_cases hread
      cases (locate_ignoreFile d).symm.trans hq
      split
      · next hcontains =>
        rw [Action.run_change_ok (append_ignoreFile hnode)]
        rw [String.toList_ofList, Bool.not_eq_true'] at hcontains
        exact .inr ⟨t, hnode, Bool.eq_false_iff.mp hcontains, Disk.node?_put_self d (by decide) _⟩
      · exact .refl d
  · exact .refl d

theorem enrolls_prepare (hs : Beside s.folder) : s.prepare.Enrolls where
  ignores := ignores_prepare hs
  named d d' _ hrun := by
    obtain ⟨g, hprepared⟩ := prepared_of_prepare hs.rooted hrun
    exact hprepared.ignored

theorem enrolls_save (hs : Beside s.folder) (selections : Selections) (metadata : Data) :
    (s.save selections metadata).Enrolls :=
  (enrolls_prepare hs).bind fun _ => Action.ignores_write (place_ne_ignoreFile selections_mem) _

theorem enrolls_saveDescriptions (hs : Beside s.folder) (descriptions : Data) :
    (s.saveDescriptions descriptions).Enrolls :=
  (enrolls_prepare hs).bind fun _ => Action.ignores_writeJson
    (place_ne_ignoreFile descriptions_mem) _

theorem ignores_removeIfThere {name : String} (hname : name ∈ fileNames) :
    (removeIfThere (s.folder.child name)).Ignores := by
  refine (Action.looks_exists _).ignores.bind fun there => ?_
  split
  · refine Action.ignores_change fun d e h => ?_
    obtain ⟨r, hr, hlacks⟩ := Disk.remove_cases h
    exact hlacks.same _ (place_ne_ignoreFile hname d r hr).symm
  · exact (Action.looks_pure _).ignores

theorem looks_loadState (s : Store) : s.loadState.Looks := by
  refine (Action.looks_exists _).bind fun there => ?_
  split
  · exact (Action.looks_readText _).bind fun text => Action.looks_lift _
  · exact Action.looks_pure _

end Store

/-! ## operations -/

inductive StoreOperation where
  | save (selections : Selections) (metadata : Data)
  | update (id : String) (included title description : Option Data)
  | start (entries : List Entry) (included : Bool)
  | importFrom (p : Path)
  | exportTo (p : Path)
  | saveState (state : List (Data × Data))
  | saveDescriptions (descriptions : Data)
  | updateDescriptions (new : List (Data × Data))
  | load
  | ids (included : Bool)
  | loadState
  | loadDescriptions
  | clear

namespace StoreOperation

def run (s : Store) : StoreOperation → Action Unit
  | .save selections metadata => s.save selections metadata
  | .update id included title description => do let _ ← s.update id included title description
  | .start entries included => do let _ ← s.start entries included
  | .importFrom p => do let _ ← s.importFrom p
  | .exportTo p => s.exportTo p
  | .saveState state => do let _ ← s.saveState state
  | .saveDescriptions descriptions => s.saveDescriptions descriptions
  | .updateDescriptions new => s.updateDescriptions new
  | .load => do let _ ← s.load
  | .ids included => do let _ ← s.idsWith included
  | .loadState => do let _ ← s.loadState
  | .loadDescriptions => do let _ ← s.loadDescriptions
  | .clear => s.clear

/-- Whether the operation writes into the directory of the store. -/
def saves : StoreOperation → Bool
  | .save _ _ | .update _ _ _ _ | .start _ _ | .importFrom _ | .saveState _ | .saveDescriptions _
  | .updateDescriptions _ => true
  | _ => false

/-- What is exported goes into another file than that of ignored paths. -/
def Elsewhere : StoreOperation → Prop
  | .exportTo p => p.inside? ≠ some [".gitignore"]
  | _ => True

theorem enrolls {s : Store} (hs : Store.Beside s.folder) {op : StoreOperation}
    (hop : op.saves = true) : (op.run s).Enrolls := by
  cases op with
  | save selections metadata => exact Store.enrolls_save hs selections metadata
  | update id included title description =>
    exact (s.looks_load.enrolls fun _ => (Store.enrolls_save hs _ _).map _).map _
  | start entries included =>
    exact (s.looks_load.enrolls fun _ => (Store.enrolls_save hs _ _).map _).map _
  | importFrom p =>
    refine Action.Enrolls.map ?_ _
    exact (Action.looks_readText p).enrolls fun _ => (Action.looks_lift _).enrolls fun _ =>
      (Action.looks_lift _).enrolls fun _ => (Store.enrolls_save hs _ _).map _
  | saveState state =>
    refine Action.Enrolls.map ((Store.enrolls_prepare hs).bind fun _ => ?_) _
    exact (Action.ignores_writeJson (Store.place_ne_ignoreFile Store.state_mem) _).bind fun _ =>
      (Action.looks_pure _).ignores
  | saveDescriptions descriptions => exact Store.enrolls_saveDescriptions hs descriptions
  | updateDescriptions new =>
    refine s.looks_loadDescriptions.enrolls fun old => ?_
    split
    · exact Store.enrolls_saveDescriptions hs _
    · exact Action.enrolls_throw _
  | _ => cases hop

theorem ignores {s : Store} (hs : Store.Beside s.folder) {op : StoreOperation}
    (hop : op.Elsewhere) : (op.run s).Ignores := by
  cases op with
  | exportTo p =>
    have hplace (d : Disk) (q : List String) (hq : d.locate p = .ok q) : q ≠ [".gitignore"] := by
      rintro rfl
      exact hop (Disk.inside?_of_locate hq)
    refine s.looks_load.ignores.bind fun selections => ?_
    split
    · exact Action.ignores_write hplace _
    · exact Action.ignores_writeJson hplace _
  | load => exact (s.looks_load.bind fun _ => Action.looks_pure _).ignores
  | ids included => exact ((s.looks_load.bind fun _ => Action.looks_pure _).bind fun _ =>
      Action.looks_pure _).ignores
  | loadState => exact (s.looks_loadState.bind fun _ => Action.looks_pure _).ignores
  | loadDescriptions => exact (s.looks_loadDescriptions.bind fun _ => Action.looks_pure _).ignores
  | clear =>
    exact (Store.ignores_removeIfThere Store.selections_mem).bind fun _ =>
      (Store.ignores_removeIfThere Store.state_mem).bind fun _ =>
        Store.ignores_removeIfThere Store.descriptions_mem
  | _ => exact (enrolls hs rfl).ignores

/-- the disk after operations one after the other, each with its time, whether or not they fail -/
def runAll (folder : Path) (d : Disk) (ops : List (String × StoreOperation)) : Disk :=
  ops.foldl (fun d op => ((op.2.run ⟨folder, op.1⟩).run d).2) d

variable {folder : Path} {ops : List (String × StoreOperation)}

theorem ignoring_runAll (hfolder : Store.Beside folder)
    (hops : ∀ op ∈ ops, op.2.Elsewhere) (d : Disk) : Store.Ignoring d (runAll folder d ops) := by
  induction ops generalizing d with
  | nil => exact .refl d
  | cons op ops ih =>
    rw [List.forall_mem_cons] at hops
    exact (ignores (s := ⟨folder, op.1⟩) hfolder hops.1 d).trans (ih hops.2 _)

/-- Once an operation that writes into the directory succeeds, the directory stays named. -/
theorem named_runAll (hfolder : Store.Beside folder) {before after : List (String × StoreOperation)}
    {op : String × StoreOperation} (hops : ∀ op ∈ after, op.2.Elsewhere)
    (hsaves : op.2.saves = true) {d : Disk}
    (hok : ((op.2.run ⟨folder, op.1⟩).run (runAll folder d before)).1.isOk = true) :
    Store.Named (runAll folder d (before ++ op :: after)) := by
  have hrun : runAll folder d (before ++ op :: after) =
      runAll folder ((op.2.run ⟨folder, op.1⟩).run (runAll folder d before)).2 after := by
    rw [runAll, List.foldl_append]
    rfl
  rw [hrun]
  cases hresult : (op.2.run ⟨folder, op.1⟩).run (runAll folder d before) with
  | mk result e =>
    rw [hresult] at hok
    cases result with
    | error c => cases hok
    | ok a =>
      have hnamed := (enrolls (s := ⟨folder, op.1⟩) hfolder hsaves).named hresult
      exact (ignoring_runAll hfolder hops e).named hnamed

end StoreOperation

/-- the directory of a store when nothing else is said -/
def configFolder : Path := .ofParts [".docuagent"]

theorem beside_configFolder : Store.Beside configFolder where
  rooted := by decide
  descends := by simp [Disk.Descends, configFolder, Path.ofParts]
  apart := by decide

open StoreOperation (runAll) in
/-- **The directory is named at most once.** Whatever is done with a store, and whether or not it
fails, a file of ignored paths does not come; one that is there stays as it is or, if it does not
name the directory, gets the lines that name it at its end, once.  It does get them when something
is written into the directory. -/
theorem ignored_at_most_once {d : Disk}
    (htext : ∀ n, d.node? [".gitignore"] = some n → ∃ t, n = .file (.text t))
    {ops : List (String × StoreOperation)} (hops : ∀ op ∈ ops, op.2.Elsewhere) :
    ((d.node? [".gitignore"] = none ∧ (runAll configFolder d ops).node? [".gitignore"] = none) ∨
      ∃ t, d.node? [".gitignore"] = some (.file (.text t)) ∧
        ((runAll configFolder d ops).node? [".gitignore"] = some (.file (.text t)) ∨
          ¬ ".docuagent/".toList <:+: t.toList ∧ (runAll configFolder d ops).node? [".gitignore"] =
            some (.file (.text (t ++ "\n# DocuAgent configuration\n.docuagent/\n"))))) ∧
      ∀ before op after, ops = before ++ op :: after → op.2.saves = true →
        ((op.2.run ⟨configFolder, op.1⟩).run (runAll configFolder d before)).1.isOk = true →
        ∀ n, (runAll configFolder d ops).node? [".gitignore"] = some n →
          ∃ t, n = .file (.text t) ∧ ".docuagent/".toList <:+: t.toList := by
  refine ⟨?_, ?_⟩
  · have hignoring := StoreOperation.ignoring_runAll beside_configFolder hops d
    cases hnode : d.node? [".gitignore"] with
    | none =>
      rcases hignoring with hsame | ⟨t, ht, _⟩
      · exact .inl ⟨rfl, hsame.trans hnode⟩
      · cases ht.symm.trans hnode
    | some n =>
      obtain ⟨t, rfl⟩ := htext n hnode
      refine .inr ⟨t, rfl, ?_⟩
      rcases hignoring with hsame | ⟨t', ht', hnot, hadded⟩
      · exact .inl (hsame.trans hnode)
      · cases ht'.symm.trans hnode
        exact .inr ⟨fun h => hnot (Store.ignores_iff.mpr h), hadded⟩
  · rintro before op after rfl hsaves hok n hn
    have hafter : ∀ op ∈ after, op.2.Elsewhere := fun op hop => hops op (by simp [hop])
    obtain ⟨t, rfl, ht⟩ := StoreOperation.named_runAll beside_configFolder hafter hsaves hok n hn
    exact ⟨t, rfl, Store.ignores_iff.mp ht⟩

def roughDisk : Disk := ⟨"/home/notes", [([".gitignore"], .file (.text "*.log\r\nbuild"))]⟩

/-- operations some of which write into the directory, and some of which fail -/
def roughOperations : List (String × StoreOperation) :=
  [("09:00", .importFrom (.ofParts ["missing.yaml"])),
    ("09:01", .exportTo (.ofParts [".gitignore.yaml"])),
   ("09:02", .update "0b0101010101" (some (.bool false)) none none),
   ("09:03", .saveState [(.str "day", .date 2024 5 1)]), ("09:04", .clear),
     ("09:05", .start [] true)]

/-- The third operation adds the lines, and the later ones do not add them again. -/
theorem roughDisk_ignored : (∃ t, roughDisk.node? [".gitignore"] = some (.file (.text t))) ∧
    (∀ op ∈ roughOperations, op.2.Elsewhere) ∧
    (StoreOperation.runAll configFolder roughDisk roughOperations).node? [".gitignore"] =
      some (.file (.text "*.log\r\nbuild\n# DocuAgent configuration\n.docuagent/\n")) := by
  have hops : ∀ op ∈ roughOperations, op.2.Elsewhere := by
    simp [roughOperations, StoreOperation.Elsewhere, Path.inside?, Path.climb?, Path.ofParts]
  have htext : ∀ n, roughDisk.node? [".gitignore"] = some n → ∃ t, n = .file (.text t) :=
    fun n hn => ⟨_, (Option.some.inj hn).symm⟩
  obtain ⟨hfile, hnamed⟩ := ignored_at_most_once htext hops
  have hnamed := hnamed (roughOperations.take 2) _ (roughOperations.drop 3) rfl rfl (by decide)
  refine ⟨⟨_, rfl⟩, hops, ?_⟩
  rcases hfile with ⟨hnone, _⟩ | ⟨t, ht, hsame | ⟨_, hadded⟩⟩
  · cases hnone
  · cases ht
    obtain ⟨t, ht, hnames⟩ := hnamed _ hsame
    cases ht
    exact absurd (Text.contains_iff.mpr hnames) (by decide)
  · cases ht
    exact hadded

end Apidoc
