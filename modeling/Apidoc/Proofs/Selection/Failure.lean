import Apidoc.Proofs.Data.Json.Values
import Apidoc.Proofs.Repository.Gains
import Apidoc.Proofs.Selection.Saving

/-!
# Changes of a store that fail

Every change reads first and writes last, and the last write takes all of its text at once.  So a
change that fails has made directories at most, and added to the file of ignored paths.

* `Store.gains_prepare`   what preparing the directory can do;
* `StoreChange`           the changes of what is stored;
* `StoreChange.fails`     what one that fails can have done;
* `failed_change_keeps_files`   no other file is changed by it.
-/

namespace Apidoc

namespace Store

variable {s : Store} {d d' : Disk}

theorem gains_prepare {P : List String → Node → Prop} (s : Store)
    (hfolder : ∀ r q (b : Disk), r <+: s.folder.parts → b.locate ⟨s.folder.anchor, r⟩ =
      .ok q → P q .folder)
    (hignored : ∀ t, P [".gitignore"] (.file (.text t))) : s.prepare.Gains P := by
  have hmake : (Action.makeFolder s.folder).Gains P :=
    Action.gains_change fun d e h => .of_makeFrom h hfolder
  have happend : (Action.change fun d => d.append ignoreFile ignoreLines).Gains P := by
    refine Action.gains_change fun d e h => .of_append h fun q t hq => ?_
    rw [locate_ignoreFile] at hq
    cases hq
    exact hignored t
  refine hmake.bind fun _ => (Action.looks_exists _).gains.bind fun there => ?_
  split
  · refine (Action.looks_readText _).gains.bind fun text => ?_
    split
    · exact happend
    · exact (Action.looks_pure _).gains
  · exact (Action.looks_pure _).gains

/-- Directories may come, and the file of ignored paths may change. -/
def Prepares (q : List String) (n : Node) : Prop := n = .folder ∨ q = [".gitignore"]

theorem prepares (s : Store) : s.prepare.Gains Prepares :=
  s.gains_prepare (fun _ _ _ _ _ => .inl rfl) fun _ => .inr rfl

/-! ## reading comes first -/

theorem looks_load (s : Store) : s.load.Looks := by
  refine (Action.looks_exists _).bind fun there => ?_
  split
  · exact (Action.looks_readText _).bind fun text => (Action.looks_lift _).bind fun v =>
      Action.looks_lift _
  · exact Action.looks_pure _

theorem looks_loadDescriptions (s : Store) : s.loadDescriptions.Looks := by
  refine (Action.looks_exists _).bind fun there => ?_
  split
  · refine (Action.looks_readText _).bind fun text => (Action.looks_lift _).bind fun v => ?_
    split
    · exact Action.looks_pure _
    · exact Action.looks_throw _
  · exact Action.looks_pure _

theorem run_lift {α : Type} {x : Except Fault α} {a : α} (h : (Action.lift x).run d = (.ok a, d')) :
    x = .ok a := by
  cases x with
  | ok b =>
    cases h
    rfl
  | error c => cases h

theorem writable_of_loadDescriptions {v : Data} (h : s.loadDescriptions.run d = (.ok v, d')) :
    Json.Writable v := by
  obtain ⟨there, e, _, h⟩ := Run.ok_of_bind h
  split at h
  · obtain ⟨text, e, _, h⟩ := Run.ok_of_bind h
    obtain ⟨w, e, hw, h⟩ := Run.ok_of_bind h
    have hwritable := Json.writable_of_parse (ok_of_mapError (run_lift hw))
    split at h
    · cases h
      cases hget : Ordered.get? _ (Data.str "descriptions") with
      | none => exact .of_pairs (List.forall_mem_nil _)
      | some v => exact hwritable.get? hget
    · cases h
  · cases h
    exact .of_pairs (List.forall_mem_nil _)

/-! ## writing comes last -/

theorem fails_save (s : Store) (selections : Selections) (metadata : Data) :
    (s.save selections metadata).Fails Prepares :=
  Action.Fails.bind s.prepares fun _ _ => Action.fails_change _

theorem fails_writeJson {P : List String → Node → Prop} {v : Data}
    (hv : Json.Writable v) (p : Path) : (writeJson p v).Fails P := by
  intro d c d' hrun
  rcases Run.error_of_bind hrun with h | ⟨_, e, _, h⟩
  · exact Action.fails_change _ d c d' h
  · have hcomplete : (Json.render v).complete = true := Json.complete_write hv 0
    rw [hcomplete] at h
    cases h

theorem fails_saveDescriptions (s : Store) {v : Data} (hv : Json.Writable v) :
    (s.saveDescriptions v).Fails Prepares := by
  refine Action.Fails.bind s.prepares fun _ _ => fails_writeJson (.of_pairs ?_) _
  refine List.forall_mem_map.mpr ?_
  rw [List.forall_mem_cons, List.forall_mem_cons, List.forall_mem_cons]
  exact ⟨⟨rfl, .str _⟩, ⟨rfl, .str _⟩, ⟨rfl, hv⟩, List.forall_mem_nil _⟩

end Store

/-! ## changes -/

/-- The changes of what is stored.  New descriptions have to have a form in JSON. -/
inductive StoreChange where
  | update (id : String) (included title description : Option Data)
  | start (entries : List Entry) (included : Bool)
  | importFrom (p : Path)
  | describe (new : List (Data × Data)) (h : Json.Writable (.map new))

namespace StoreChange

def run (s : Store) : StoreChange → Action Unit
  | .update id included title description =>
    (fun _ => ()) <$> s.update id included title description
  | .start entries included => (fun _ => ()) <$> s.start entries included
  | .importFrom p => (fun _ => ()) <$> s.importFrom p
  | .describe new _ => s.updateDescriptions new

theorem fails (s : Store) (c : StoreChange) : (c.run s).Fails Store.Prepares := by
  cases c with
  | update id included title description =>
    refine .map (.bind s.looks_load.gains fun old _ => ?_) _
    exact (s.fails_save _ _).map fun _ => _
  | start entries included =>
    refine .map (.bind s.looks_load.gains fun old _ => ?_) _
    exact (s.fails_save _ _).map fun _ => _
  | importFrom p =>
    refine .map (.bind (Action.looks_readText p).gains fun text _ =>
      .bind (Action.looks_lift _).gains fun v _ =>
      .bind (Action.looks_lift _).gains fun selections _ => ?_) _
    exact (s.fails_save _ _).map fun _ => _
  | describe new h =>
    refine .bind s.looks_loadDescriptions.gains ?_
    rintro v ⟨d, d', hload⟩
    split
    · exact s.fails_saveDescriptions ((Store.writable_of_loadDescriptions hload).overlay h)
    · exact (Action.looks_throw _).gains.fails

end StoreChange

/-! ## what is stored afterwards -/

namespace Disk

variable {d d' : Disk}

theorem toOption_read (d : Disk) (p : Path) :
    (d.read p).toOption = (d.locate p).toOption.bind d.file? := by
  unfold read
  cases d.locate p with
  | error c => rfl
  | ok q =>
    show _ = d.file? q
    dsimp only
    unfold file?
    split <;> simp [*, Except.toOption]

end Disk

namespace Store

variable {s : Store} {d d' : Disk}

/-- The path of the directory leads there already, or it leads down and there can be nothing yet
where it leads. -/
def Reachable (s : Store) (d : Disk) : Prop :=
  (∃ g, d.enter [] s.folder.parts = .ok g) ∨ d.Grounded ∧ Disk.Descends s.folder.parts

theorem descends_file {name : String} (hname : name ∈ fileNames) : Disk.Descends [name] := by
  have hnames : ∀ name ∈ fileNames, ".." ∉ [name] := by decide
  exact hnames name hname

/-- A file that is found once the directory is made was found before. -/
theorem Reachable.locate (h : s.Reachable d) (hd : d.Gains Prepares d') {name : String}
    (hname : name ∈ fileNames) {q : List String} (hq : d'.locate (s.folder.child name) = .ok q)
    (hfile : (d'.file? q).isSome) : d.locate (s.folder.child name) = .ok q := by
  obtain ⟨g', hg', rfl⟩ := Disk.locate_below hq (descends_file hname) (by simp)
  have ha : s.folder.anchor ≠ .root := (Disk.rooted_of_locate hq :)
  rcases h with ⟨g, hg⟩ | ⟨hgrounded, hparts⟩
  · have hsame := hd.keepsFolders.enter hg
    cases hsame.symm.trans hg'
    exact locate_file ha hg hname
  · have hparts' : g' = s.folder.parts := by simpa using Disk.eq_append_of_enter hg' hparts
    subst hparts'
    obtain ⟨c, hc⟩ := Option.isSome_iff_exists.mp hfile
    rw [hd.file?_eq fun c hc => hc.elim nofun (file_ne_ignoreFile hname _),
      Disk.file?_eq_some] at hc
    refine locate_file ha (Disk.enter_of_folders hparts (Disk.short_of_enter hparts hg') ?_) hname
    rintro r - ⟨t, ht⟩
    rw [← ht, List.append_assoc] at hc
    exact hgrounded.folder (by simp) hc

theorem Reachable.toOption_read (h : s.Reachable d) (hd : d.Gains Prepares d') {name : String}
    (hname : name ∈ fileNames) :
    (d'.read (s.folder.child name)).toOption = (d.read (s.folder.child name)).toOption := by
  have hfile (q : List String) (hq : d'.locate (s.folder.child name) = .ok q) : d'.file? q =
      d.file? q := by
    obtain ⟨g, _, rfl⟩ := Disk.locate_below hq (descends_file hname) (by simp)
    exact hd.file?_eq fun c hc => hc.elim nofun (file_ne_ignoreFile hname _)
  rw [Disk.toOption_read, Disk.toOption_read]
  cases hq : d.locate (s.folder.child name) with
  | ok q =>
    have hq' := hd.keepsFolders.locate hq
    rw [hq']
    exact hfile q hq'
  | error c =>
    cases hq' : d'.locate (s.folder.child name) with
    | error c' => rfl
    | ok q =>
      show d'.file? q = none
      by_contra hne
      have hsome := h.locate hd hname hq' (Option.isSome_iff_ne_none.mpr hne)
      rw [hq] at hsome
      cases hsome

end Store

/-- A change of what is stored that fails leaves every file as it was, the file of ignored paths
apart, and so what can be read from the files of the store. -/
theorem failed_change_keeps_files {s : Store} {c : StoreChange} {d d' : Disk} {f : Fault}
    (h : (c.run s).run d = (.error f, d')) :
    (∀ q, q ≠ [".gitignore"] → d'.file? q = d.file? q) ∧
      (s.Reachable d → ∀ name ∈ Store.fileNames,
        (d'.read (s.folder.child name)).toOption = (d.read (s.folder.child name)).toOption) := by
  have hgains : d.Gains Store.Prepares d' := c.fails s d f d' h
  exact ⟨fun q hq => hgains.file?_eq fun c hc => hc.elim nofun hq, fun hs name hname =>
    hs.toOption_read hgains hname⟩

/-- a disk with descriptions, on which the file of ignored paths is no text -/
def lockedDisk : Disk :=
  ⟨"/home/notes",
    [([".gitignore"], .file (.binary [0xff])), (["notes"], .folder),
      (["notes", ".docuagent"], .folder),
     (["notes", ".docuagent", "descriptions.json"],
       .file (.text "\x7b\"descriptions\": \x7b\"f\": \"an old text\"\x7d\x7d"))]⟩

def redescribe : StoreChange :=
  .describe [(.str "f", .str "a new text")]
    (.of_pairs (List.forall_mem_singleton.mpr ⟨rfl, .str _⟩))

theorem lockedDisk_redescribe : notesStore.Reachable lockedDisk ∧
    ∃ f d', (redescribe.run notesStore).run lockedDisk = (.error f, d') ∧
      (∀ q, q ≠ [".gitignore"] → d'.file? q = lockedDisk.file? q) ∧
      ∀ name ∈ Store.fileNames, (d'.read (notesStore.folder.child name)).toOption =
        (lockedDisk.read (notesStore.folder.child name)).toOption := by
  have hreachable : notesStore.Reachable lockedDisk := .inl ⟨["notes", ".docuagent"], rfl⟩
  have hfails : ((redescribe.run notesStore).run lockedDisk).1.isOk = false := by decide +kernel
  cases hrun : (redescribe.run notesStore).run lockedDisk with
  | mk r d' =>
    rw [hrun] at hfails
    cases r with
    | ok a => cases hfails
    | error f =>
      have hkept := failed_change_keeps_files hrun
      exact ⟨hreachable, f, d', rfl, hkept.1, hkept.2 hreachable⟩

end Apidoc
