import Apidoc.Proofs.Repository.Rewriting
import Apidoc.Proofs.Selection.Dictionary
import Apidoc.Proofs.Selection.Failure
import Apidoc.Proofs.Text.Words

/-!
# Starting a store again

* `Store.Prepared`          the directory is there and is ignored, so preparing it changes nothing;
* `Store.Started`           besides, the file of selections is the one that was written for some
                            choices;
* `Store.HoldsChoices`      what can be loaded are choices under ids;
* `Store.started_of_start`  a start that succeeds leaves the store so;
* `Store.Started.start`     the next start reads the choices, keeps them all and writes the same
                            file.
-/

namespace Apidoc

open Ordered (keyed)

namespace Action

variable {α : Type} {d d' : Disk} {p : Path}

theorem run_ask {f : Disk → Except DiskFault α} {a : α} (h : (ask f).run d = (.ok a, d')) :
    f d = .ok a := by
  rw [ask, Run.bind_ok (run_get d)] at h
  split at h
  · rename_i hb
    cases h
    exact hb
  · cases h

theorem readText_cases {text : String} (h : (readText p).run d = (.ok text, d')) :
    ∃ t, d.read p = .ok (.text t) ∧ text = String.ofList (Text.unifyNewlines t.toList) := by
  obtain ⟨content, _, hask, hrest⟩ := Run.ok_of_bind h
  cases content with
  | text t =>
    cases hrest
    exact ⟨t, run_ask hask, rfl⟩
  | binary bytes => cases hrest

end Action

theorem Dictionary.choice_map {ids : List String} (included : Bool) (f : String → Choice)
    {id : String} (h : id ∈ ids) : choice (ids.map fun id => (id, f id)) included id = f id := by
  rw [choice, lookup_map, if_pos h]
  rfl

namespace Store

variable {s : Store} {d e : Disk} {g : List String} {P : List String → Node → Prop}

def Ignores (text : String) : Prop :=
  Text.contains ignoredFolder.toList (Text.unifyNewlines text.toList) = true

theorem ignores_iff {text : String} : Ignores text ↔ ignoredFolder.toList <:+: text.toList := by
  rw [Ignores, Text.contains_iff]
  exact Text.infix_unifyNewlines (by decide) (by decide) (by decide) _

theorem ignores_append (text : String) : Ignores (text ++ ignoreLines) := by
  have hlines : ignoreLines.toList = "\n# DocuAgent configuration\n".toList ++
      ignoredFolder.toList ++ ['\n'] := by
    decide
  have hfound : ignoredFolder.toList <:+: ignoreLines.toList := ⟨_, _, hlines.symm⟩
  rw [ignores_iff, String.toList_append]
  exact hfound.trans (List.suffix_append _ _).isInfix

/-! ## the directory -/

/-- The directory of the store is at `g`, and the file of ignored paths names it if there is such a
file. -/
structure Prepared (s : Store) (d : Disk) (g : List String) : Prop where
  rooted : s.folder.anchor ≠ .root
  entered : d.enter [] s.folder.parts = .ok g
  ignored : ∀ n, d.node? [".gitignore"] = some n → ∃ t, n = .file (.text t) ∧ Ignores t

theorem prepared_of_prepare (hroot : s.folder.anchor ≠ .root) (h : s.prepare.run d = (.ok (), e)) :
    ∃ g, s.Prepared e g := by
  obtain ⟨_, e₁, hmake, hrest⟩ := Run.ok_of_bind h
  obtain ⟨g, hg⟩ := Disk.enter_of_makeFrom rfl (Action.run_change hmake)
  rw [Run.bind_ok (Action.run_exists_ok (locate_ignoreFile e₁))] at hrest
  split at hrest
  · obtain ⟨text, e₂, htext, hrest⟩ := Run.ok_of_bind hrest
    obtain rfl := (Action.looks_readText _).run_eq htext
    obtain ⟨t, hread, rfl⟩ := Action.readText_cases htext
    obtain ⟨q, hq, hnode⟩ := Disk.read_cases hread
    cases (locate_ignoreFile e₂).symm.trans hq
    split at hrest
    · have happend := Action.run_change hrest
      simp only [Disk.append, hread] at happend
      obtain ⟨q, hq, hfree, rfl⟩ := Disk.write_cases happend
      cases (locate_ignoreFile e₂).symm.trans hq
      refine ⟨g, hroot, (Disk.KeepsFolders.of_put hfree _).enter hg, fun n hn => ?_⟩
      rw [Disk.node?_put_self _ (by decide)] at hn
      exact ⟨_, (Option.some.inj hn).symm, ignores_append t⟩
    · rename_i hcontains
      cases hrest
      refine ⟨g, hroot, hg, fun n hn => ⟨t, Option.some.inj (hn.symm.trans hnode), ?_⟩⟩
      rwa [Bool.not_eq_true', Bool.not_eq_false, String.toList_ofList] at hcontains
  · rename_i hnone
    cases hrest
    exact ⟨g, hroot, hg, fun n hn => absurd (by rw [hn]; rfl) hnone⟩

namespace Prepared

theorem run_prepare (h : s.Prepared d g) : s.prepare.run d = (.ok (), d) := by
  have hmake : d.makeFolder s.folder = .ok d := Disk.makeFrom_of_enter h.rooted h.entered
  rw [prepare, Action.makeFolder, Run.bind_ok (Action.run_change_ok hmake),
    Run.bind_ok (Action.run_exists_ok (locate_ignoreFile d))]
  cases hnode : d.node? [".gitignore"] with
  | none => rfl
  | some n =>
    obtain ⟨t, rfl, ht⟩ := h.ignored n hnode
    rw [Option.isSome_some, if_pos rfl,
      Run.bind_ok (Action.run_readText_ok (Disk.read_eq (locate_ignoreFile d) hnode)),
      String.toList_ofList, show Text.contains _ _ = true from ht]
    rfl

theorem of_gains (h : s.Prepared d g) (hd : d.Gains P e) (hignored : ∀ n, ¬ P [".gitignore"] n) :
    s.Prepared e g :=
  ⟨h.rooted, hd.keepsFolders.enter h.entered, fun n hn => h.ignored n (hd.same hignored ▸ hn)⟩

end Prepared

/-! ## the selections -/

/-- The store holds the choices as they were written. -/
structure Started (s : Store) (m : Choices) (d : Disk) (g : List String) :
    Prop extends s.Prepared d g where
  saved : d.Has (g ++ ["selections.yaml"])
    (.file (.text (Yaml.document (keyed (written s.now (.map []) m.pairs)))))

theorem save_eq (s : Store) (m : Choices) : s.save m.selections .null = s.prepare >>= fun _ =>
    Action.write s.selectionsFile (Yaml.document (keyed (written s.now (.map []) m.pairs))) := by
  rw [save, Choices.selections, m.pairs.toData_selections]
  rfl

theorem started_of_save {m : Choices} (h : (s.save m.selections .null).run d = (.ok (), e)) :
    ∃ g, s.Started m e g := by
  rw [save_eq] at h
  obtain ⟨_, e₁, hprepare, hwrite⟩ := Run.ok_of_bind h
  have hwrite := Action.run_change hwrite
  obtain ⟨q, hq, hfree, he⟩ := Disk.write_cases hwrite
  have hroot : s.folder.anchor ≠ .root := (Disk.rooted_of_locate hq :)
  obtain ⟨g, hg⟩ := prepared_of_prepare hroot hprepare
  have hplace : e₁.locate s.selectionsFile = .ok (g ++ ["selections.yaml"]) :=
    locate_file hroot hg.entered selections_mem
  cases hplace.symm.trans hq
  have hgains : e₁.Gains (fun q _ => q = g ++ ["selections.yaml"]) e :=
    .of_write hwrite fun q hq => Except.ok.inj (hq.symm.trans hplace)
  refine ⟨g, hg.of_gains hgains fun _ h => file_ne_ignoreFile selections_mem g h.symm, ?_⟩
  rw [he]
  exact Disk.has_put _ _ _

namespace Started

variable {m : Choices}

theorem of_gains (h : s.Started m d g) (hd : d.Gains P e) (hignored : ∀ n, ¬ P [".gitignore"] n)
    (hsaved : ∀ n, ¬ P (g ++ ["selections.yaml"]) n) : s.Started m e g :=
  ⟨h.toPrepared.of_gains hd hignored, h.saved.of_gains hd hsaved⟩

theorem load (h : s.Started m d g) : s.load.run d = (.ok m.selections, d) := by
  obtain ⟨hclean, hparse⟩ := readable_null s.now m
  exact load_of_document (locate_file h.rooted h.entered selections_mem)
    (h.saved.node?_eq (by simp)) hclean hparse rfl

theorem save (h : s.Started m d g) : (s.save m.selections .null).run d = (.ok (), d) := by
  have hwrite := h.saved.write_eq (locate_file h.rooted h.entered selections_mem) (by simp)
  rw [save_eq, Run.bind_ok h.run_prepare]
  exact Action.run_change_ok hwrite

theorem start (h : s.Started m d g) {entries : List Entry} {included : Bool}
    (hm : m.selections.restrict included ((Entry.flatten entries).map (·.id)) = m.selections) :
    (s.start entries included).run d = (.ok m.selections, d) := by
  rw [Store.start, Run.bind_ok h.load, Selections.addEntries_eq, hm, Run.bind_ok h.save]
  rfl

end Started

/-- Whatever can be loaded from the store are choices under ids. -/
def HoldsChoices (s : Store) (d : Disk) : Prop :=
  ∀ old, s.load.run d = (.ok old, d) → ∃ m : Choices, old = m.selections

theorem holdsChoices_of_holds {folder : Path} {m : Dictionary} (h : Holds folder d m)
    (now : String) : (⟨folder, now⟩ : Store).HoldsChoices d := by
  intro old hold
  cases (h.loads now).symm.trans hold
  exact ⟨⟨m, h.proper⟩, rfl⟩

theorem started_of_start {entries : List Entry} {included : Bool} {sel : Selections}
    (hids : ∀ e ∈ Entry.flatten entries, IsId e.id) (hold : s.HoldsChoices d)
    (h : (s.start entries included).run d = (.ok sel, e)) :
    ∃ (m : Choices) (g : List String), sel = m.selections ∧ s.Started m e g ∧
      m.selections.restrict included ((Entry.flatten entries).map (·.id)) = m.selections := by
  obtain ⟨old, d₁, hload, hrest⟩ := Run.ok_of_bind h
  obtain rfl := (looks_load s).run_eq hload
  obtain ⟨m, rfl⟩ := hold old hload
  obtain ⟨_, e₁, hsave, hpure⟩ := Run.ok_of_bind hrest
  cases hpure
  let kept : Choices := ⟨_, Dictionary.Proper.contents hids (m.pairs.choice included)⟩
  have hkept : m.selections.restrict included ((Entry.flatten entries).map (·.id)) =
    kept.selections :=
    m.pairs.restrict_selections included entries
  rw [Selections.addEntries_eq, hkept] at hsave ⊢
  obtain ⟨g, hg⟩ := started_of_save hsave
  refine ⟨kept, g, rfl, hg, ?_⟩
  refine (kept.pairs.restrict_selections included entries).trans (congrArg Dictionary.selections ?_)
  exact List.map_congr_left fun id hid => by rw [Dictionary.choice_map included _ hid]

/-! ## places -/

/-- Directories come on the way to the store, and the two files may change. -/
def Starts (s : Store) (q : List String) (n : Node) : Prop :=
  n = .folder ∧ q <+: s.folder.parts ∨ q = [".gitignore"] ∨ q = s.folder.parts ++
    ["selections.yaml"]

theorem gains_save (hfolder : Disk.Descends s.folder.parts) (selections : Selections) :
    (s.save selections .null).Gains s.Starts := by
  have hprepare : s.prepare.Gains s.Starts := by
    refine s.gains_prepare (fun r q b hr hq => ?_) fun _ => .inr (.inl rfl)
    exact .inl ⟨rfl, Disk.eq_of_locate hq (fun hup => hfolder (hr.subset hup)) ▸ hr⟩
  have hfile : Disk.Descends (s.folder.parts ++ ["selections.yaml"]) := by
    simpa [Disk.Descends] using hfolder
  refine hprepare.bind fun _ => ?_
  exact Action.gains_change fun d e h => .of_write h fun q hq => .inr
    (.inr (Disk.eq_of_locate hq hfile))

theorem gains_start (hfolder : Disk.Descends s.folder.parts) (entries : List Entry)
    (included : Bool) : (s.start entries included).Gains s.Starts :=
  (looks_load s).gains.bind fun _ => (gains_save hfolder _).bind fun _ =>
    (Action.looks_pure _).gains

/-! ## looking again -/

theorem alike_load (hroot : s.folder.anchor ≠ .root) (hd : d.enter [] s.folder.parts = .ok g)
    (he : e.enter [] s.folder.parts = .ok g)
    (hsame : e.node? (g ++ ["selections.yaml"]) = d.node? (g ++ ["selections.yaml"])) :
    s.load.Alike d e := by
  obtain ⟨hexists, hread⟩ :=
    Disk.look_eq (locate_file hroot hd selections_mem) (locate_file hroot he selections_mem) hsame
  refine (Action.Alike.ask hexists).bind fun there => ?_
  split
  · exact (Action.Alike.readText hread).bind fun text => (Action.Alike.lift _).bind fun v => .lift _
  · exact .pure _

theorem alike_loadDescriptions (hroot : s.folder.anchor ≠ .root)
    (hd : d.enter [] s.folder.parts = .ok g) (he : e.enter [] s.folder.parts = .ok g)
    (hsame : e.node? (g ++ ["descriptions.json"]) = d.node? (g ++ ["descriptions.json"])) :
    s.loadDescriptions.Alike d e := by
  obtain ⟨hexists, hread⟩ :=
    Disk.look_eq (locate_file hroot hd descriptions_mem)
      (locate_file hroot he descriptions_mem) hsame
  refine (Action.Alike.ask hexists).bind fun there => ?_
  split
  · refine (Action.Alike.readText hread).bind fun text => (Action.Alike.lift _).bind fun v => ?_
    split
    · exact .pure _
    · exact .throw _
  · exact .pure _

theorem entered_of_load {old : Selections} (h : s.load.run d = (.ok old, e)) (hne : old ≠ []) :
    s.folder.anchor ≠ .root ∧ ∃ g, d.enter [] s.folder.parts = .ok g := by
  obtain ⟨there, d₁, hthere, hrest⟩ := Run.ok_of_bind h
  have hexists := Action.run_ask hthere
  cases there with
  | false =>
    cases hrest
    exact absurd rfl hne
  | true =>
    unfold Disk.exists? at hexists
    split at hexists
    · rename_i q hq
      obtain ⟨g, hg, _⟩ := Disk.locate_below hq (by simp [Disk.Descends]) (List.cons_ne_nil _ _)
      exact ⟨(Disk.rooted_of_locate hq :), g, hg⟩
    · cases hexists
    · cases hexists

end Store

end Apidoc
