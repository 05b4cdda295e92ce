import Apidoc.Proofs.Repository.Rewriting
import Apidoc.Proofs.Site.Files

/-!
# Writing a site again

* `Site.writeFiles_eq`   a run that finishes puts the files in their places, one after the other;
* `Site.write_of_names`  where a site was written, another one with the same names can be;
* `Site.write_of_alike`  files that are the same in the end make the same disk;
* `Site.write_again`     a second run finds the directories and puts the same files there;
* `Site.gains_files`     nothing comes to the disk but directories and the files of the site;
* `Site.gains_write`     what comes to the disk under the directory of the site, and nothing else
                         does.
-/

namespace Apidoc

namespace Site

open Disk (Descends)

variable {site : Site} {out : Path} {d d' e : Disk} {g : List String}
  {fs : List (List String × String)}

/-! ## directories -/

theorem prepare_cases (h : (prepare out).run d = (.ok (), e)) :
    ∃ d₁, d.makeFolder out = .ok d₁ ∧ d₁.makeFolder (out.child "modules") = .ok e := by
  have hmake {d : Disk} (h : (Action.makeFolder out >>= fun _ => Action.makeFolder
    (out.child "modules")).run d =
      (.ok (), e)) : ∃ d₁, d.makeFolder out = .ok d₁ ∧
        d₁.makeFolder (out.child "modules") = .ok e := by
    obtain ⟨_, d₁, h₁, h⟩ := Run.ok_of_bind h
    exact ⟨d₁, Action.run_change h₁, Action.run_change h⟩
  obtain ⟨there, d₀, hthere, hrest⟩ := Run.ok_of_bind h
  obtain rfl := (Action.looks_exists out).run_eq hthere
  split at hrest
  · obtain ⟨_, _, hget, hrest⟩ := Run.ok_of_bind hrest
    cases hget
    split at hrest
    · obtain ⟨_, _, hthrow, _⟩ := Run.ok_of_bind hrest
      cases hthrow
    · exact hmake hrest
  · exact hmake hrest

structure Ready (out : Path) (d : Disk) : Prop where
  rooted : out.anchor ≠ .root
  entered : ∃ g, d.enter [] out.parts = .ok g
  modules : ∃ g, d.enter [] (out.child "modules").parts = .ok g

theorem ready_of_prepare (h : (prepare out).run d = (.ok (), e)) : Ready out e := by
  obtain ⟨d₁, h₁, h⟩ := prepare_cases h
  obtain ⟨g', hg'⟩ := Disk.enter_of_makeFrom rfl h
  have hsplit := Disk.enter_append e [] out.parts ["modules"]
  rw [show e.enter [] (out.parts ++ ["modules"]) = .ok g' from hg'] at hsplit
  obtain ⟨g, hg, _⟩ := bind_eq_ok.mp hsplit.symm
  exact ⟨Disk.rooted_of_makeFrom h (by simp [Path.child]), ⟨g, hg⟩, ⟨g', hg'⟩⟩

theorem Ready.of_keeps (h : Ready out d) (hkeeps : d.KeepsFolders e) : Ready out e := by
  obtain ⟨g, hg⟩ := h.entered
  obtain ⟨g', hg'⟩ := h.modules
  exact ⟨h.rooted, ⟨g, hkeeps.enter hg⟩, ⟨g', hkeeps.enter hg'⟩⟩

theorem Ready.run_prepare (h : Ready out d) : (prepare out).run d = (.ok (), d) := by
  obtain ⟨g, hg⟩ := h.entered
  obtain ⟨g', hg'⟩ := h.modules
  have hout : d.makeFolder out = .ok d := Disk.makeFrom_of_enter h.rooted hg
  have hmodules : d.makeFolder (out.child "modules") = .ok d := Disk.makeFrom_of_enter h.rooted hg'
  obtain ⟨hlocate, hfolder⟩ := Disk.locate_entered h.rooted hg
  have hthere : d.isFolder out = true := by
    simp only [Disk.isFolder, Disk.lookup, hlocate, hfolder, BEq.rfl]
  rw [prepare, Run.bind_ok (Action.run_exists_ok hlocate), hfolder]
  show (get >>= fun (d : Disk) => if !d.isFolder out then _ else _ : Action Unit).run d = _
  rw [Run.bind_ok (Action.run_get d), hthere]
  show (Action.makeFolder out >>= fun _ => Action.makeFolder (out.child "modules")).run d = _
  exact (Run.bind_ok (Action.run_change_ok hout) _).trans (Action.run_change_ok hmodules)

/-! ## files -/

def placed (g : List String) (fs : List (List String × String)) : List (List String × Node) :=
  fs.map fun f => (g ++ f.1, .file (.text f.2))

theorem folder_not_placed (g : List String) (fs : List (List String × String)) (q : List String) :
    (q, Node.folder) ∉ placed g fs := by
  intro h
  obtain ⟨f, _, hf⟩ := List.mem_map.mp h
  cases hf

theorem writeFiles_eq (hfs : ∀ f ∈ fs, Descends f.1 ∧ f.1 ≠ []) (hg : d.enter [] out.parts = .ok g)
    (h : (writeFiles out fs).run d = (.ok (), d')) :
    d' = d.putAll (placed g fs) ∧ d.Gains (fun q n => (q, n) ∈ placed g fs) d' ∧
      ∀ f ∈ fs, d'.locate (out.below f.1) = .ok (g ++ f.1) ∧ d'.node? (g ++ f.1) ≠
        some .folder := by
  induction fs generalizing d with
  | nil =>
    cases h
    exact ⟨rfl, .refl _, by simp⟩
  | cons f fs ih =>
    obtain ⟨e, he, h⟩ := writeFiles_cons h
    rw [List.forall_mem_cons] at hfs
    obtain ⟨q, hq, hfree, rfl⟩ := Disk.write_cases he
    obtain ⟨_, hg', rfl⟩ := Disk.locate_below hq hfs.1.1 hfs.1.2
    cases hg.symm.trans hg'
    have hkeeps := Disk.KeepsFolders.of_put hfree (.file (.text f.2))
    obtain ⟨hputs, hgains, hplaces⟩ := ih hfs.2 (hkeeps.enter hg) h
    have hall : d.Gains (fun q n => (q, n) ∈ placed g (f :: fs)) d' :=
      .step List.mem_cons_self hfree nofun (hgains.mono fun _ _ => List.mem_cons_of_mem _)
    refine ⟨hputs, hall, List.forall_mem_cons.mpr ⟨⟨hall.keepsFolders.locate hq, fun hfolder =>
      hfree ?_⟩, hplaces⟩⟩
    exact hall.before (folder_not_placed g _ _) hfolder

theorem run_writeFiles (h : ∀ f ∈ fs, d.locate (out.below f.1) = .ok (g ++ f.1) ∧
      d.node? (g ++ f.1) ≠ some .folder) :
    (writeFiles out fs).run d = (.ok (), d.putAll (placed g fs)) := by
  induction fs generalizing d with
  | nil => rfl
  | cons f fs ih =>
    rw [List.forall_mem_cons] at h
    obtain ⟨⟨hq, hfree⟩, hfs⟩ := h
    have hne : g ++ f.1 ≠ [] := fun e => hfree (e ▸ Disk.node?_nil d)
    show (Action.write (out.below f.1) f.2 >>= fun _ => writeFiles out fs).run d = _
    refine (Run.bind_ok (Action.run_change_ok (Disk.write_ok hq hfree f.2)) _).trans
      (ih fun f' hf' => ?_)
    exact ⟨(Disk.KeepsFolders.of_put hfree _).locate (hfs f' hf').1,
      Disk.node?_put_file_ne_folder hne _ (hfs f' hf').2⟩

/-- Where files were written, others can be written under the same names. -/
theorem writeFiles_of_names {fs' : List (List String × String)}
    (hnames : fs'.map (·.1) = fs.map (·.1)) (hfs : ∀ f ∈ fs, Descends f.1 ∧ f.1 ≠ [])
    (hg : d.enter [] out.parts = .ok g) (h : (writeFiles out fs).run d = (.ok (), d')) :
    (writeFiles out fs').run d = (.ok (), d.putAll (placed g fs')) := by
  obtain ⟨-, hgains, hplaces⟩ := writeFiles_eq hfs hg h
  have hback : d'.KeepsFolders d := fun q => hgains.before (folder_not_placed g fs q)
  refine run_writeFiles fun f hf => ?_
  have hname : f.1 ∈ fs.map (·.1) := hnames ▸ List.mem_map_of_mem hf
  obtain ⟨k, hk, hkf⟩ := List.mem_map.mp hname
  obtain ⟨hq, hfree⟩ := hplaces k hk
  rw [hkf] at hq hfree
  exact ⟨hback.locate hq, fun hfolder => hfree (hgains.keepsFolders _ hfolder)⟩

theorem write_of_names {other : Site} (hnames : other.files.map (·.1) = site.files.map (·.1))
    (hfault : other.fault? = none) (h : (site.write out).run d = (.ok (), d')) :
    ∃ e, (other.write out).run d = (.ok (), e) := by
  obtain ⟨e, hprepare, -, hfiles⟩ := write_cases h
  obtain ⟨g, hg⟩ := (ready_of_prepare hprepare).entered
  refine ⟨e.putAll (placed g other.files), ?_⟩
  rw [write, Run.bind_ok hprepare, hfault]
  exact writeFiles_of_names hnames (fun _ => descends_files) hg hfiles

/-- Files that are the same in the end make the same disk. -/
theorem write_of_alike {other : Site} (halike : Disk.EndsAlike site.files other.files)
    (hfault : other.fault? = none) (h : (site.write out).run d = (.ok (), d')) :
    (other.write out).run d = (.ok (), d') := by
  obtain ⟨e, hprepare, -, hfiles⟩ := write_cases h
  obtain ⟨g, hg⟩ := (ready_of_prepare hprepare).entered
  obtain ⟨hputs, -, -⟩ := writeFiles_eq (fun _ => descends_files) hg hfiles
  have hplaced : Disk.EndsAlike (placed g site.files) (placed g other.files) :=
    halike.map (g ++ ·) fun text => Node.file (.text text)
  rw [write, Run.bind_ok hprepare, hfault, hputs, Disk.putAll_congr hplaced]
  exact writeFiles_of_names halike.names_eq (fun _ => descends_files) hg hfiles

theorem write_again (h : (site.write out).run d = (.ok (), d')) :
    (site.write out).run d' = (.ok (), d') := by
  obtain ⟨e, hprepare, hfault, hfiles⟩ := write_cases h
  have hready := ready_of_prepare hprepare
  obtain ⟨g, hg⟩ := hready.entered
  obtain ⟨hputs, hgains, hplaces⟩ := writeFiles_eq (fun _ => descends_files) hg hfiles
  have hready' : Ready out d' := hready.of_keeps hgains.keepsFolders
  rw [write, Run.bind_ok hready'.run_prepare, hfault]
  refine (run_writeFiles hplaces).trans ?_
  rw [hputs, Disk.putAll_putAll]

/-! ## places -/

def fileNames (site : Site) : List (List String) := site.files.map (·.1)

theorem gains_files (h : (site.write out).run d = (.ok (), d')) :
    d.Gains (fun q n => n = .folder ∨ ∃ g, out.inside? = some g ∧ ∃ name ∈ site.fileNames, q = g ++
      name) d' := by
  obtain ⟨e, hprepare, -, hfiles⟩ := write_cases h
  obtain ⟨d₁, h₁, h₂⟩ := prepare_cases hprepare
  have hready := ready_of_prepare hprepare
  obtain ⟨g, hg⟩ := hready.entered
  obtain ⟨-, hgains, -⟩ := writeFiles_eq (fun _ => descends_files) hg hfiles
  refine ((Disk.Gains.of_makeFrom h₁ fun _ _ _ _ _ => .inl rfl).trans
    (.of_makeFrom h₂ fun _ _ _ _ _ => .inl rfl)).trans (hgains.mono fun q n hn => .inr ?_)
  obtain ⟨f, hf, hq⟩ := List.mem_map.mp hn
  cases hq
  exact ⟨g, Disk.inside?_of_enter hready.rooted hg, f.1, List.mem_map_of_mem hf, rfl⟩

theorem home_write (h : (site.write out).run d = (.ok (), d')) : d'.home = d.home :=
  (gains_files h).home_eq

/-- Directories come on the way to the pages of the modules, and files with the names of the site.
-/
def Puts (site : Site) (out : Path) (q : List String) (n : Node) : Prop :=
  n = .folder ∧ q <+: out.parts ++ ["modules"] ∨ ∃ f ∈ site.files, q = out.parts ++ f.1

theorem gains_write (hout : Descends out.parts) (h : (site.write out).run d = (.ok (), d')) :
    d.Gains (site.Puts out) d' := by
  obtain ⟨e, hprepare, _, hfiles⟩ := write_cases h
  obtain ⟨g, hg⟩ := (ready_of_prepare hprepare).entered
  obtain ⟨_, hgains, _⟩ := writeFiles_eq (fun _ => descends_files) hg hfiles
  obtain rfl : g = out.parts := Disk.eq_append_of_enter hg hout
  have hmodules : Descends (out.parts ++ ["modules"]) := by
    simpa [Descends] using hout
  have hfolder {parts : List String} (hparts : parts <+: out.parts ++ ["modules"])
    (r q : List String) (b : Disk)
      (hr : r <+: [] ++ parts) (hq : b.locate ⟨out.anchor, r⟩ = .ok q) :
      site.Puts out q .folder := by
    have hr := hr.trans hparts
    exact .inl ⟨rfl, Disk.eq_of_locate hq (fun hup => hmodules (hr.subset hup)) ▸ hr⟩
  obtain ⟨d₁, h₁, h₂⟩ := prepare_cases hprepare
  refine ((Disk.Gains.of_makeFrom h₁ (hfolder (List.prefix_append _ _))).trans
    (.of_makeFrom h₂ (hfolder (List.prefix_refl _)))).trans
      (hgains.mono fun q n hn => ?_)
  obtain ⟨f, hf, hq⟩ := List.mem_map.mp hn
  cases hq
  exact .inr ⟨f, hf, rfl⟩

end Site

end Apidoc
