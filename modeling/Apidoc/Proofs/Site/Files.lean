import Apidoc.Page.Site
import Apidoc.Proofs.Data.Ordered
import Apidoc.Proofs.Page.Module
import Apidoc.Proofs.Repository.Written

/-!
# The files of a site on the disk

* `searchIndex_eq`       what the search index finds is what the pages show;
* `Site.write_cases`     a run that finishes has made the directories and written all files;
* `Site.read_file`       each of them is then read back, if the pages of the modules have different
                         names;
* `Site.pages`           the pages of modules among the files.
-/

namespace Apidoc

/-! ## what is found -/

theorem contains_componentIndex {ms : List ModuleDoc} {m : ModuleDoc} {c : Component} (hm : m ∈ ms)
    (hc : c ∈ m.indexed) : (componentIndex ms).contains c.id = true := by
  have hkey : c.id ∈ ((ms.flatMap ModuleDoc.indexed).map fun c => (c.id, c)).map (·.1) :=
    List.mem_map_of_mem (List.mem_map_of_mem (List.mem_flatMap.mpr ⟨m, hm, hc⟩))
  obtain ⟨k, hk, hkc⟩ := Ordered.exists_key_overlay (beq_self_eq_true c.id) hkey []
  obtain ⟨p, hp, rfl⟩ := List.mem_map.mp hk
  exact List.any_eq_true.mpr ⟨p, hp, hkc⟩

namespace SiteSettings

variable (s : SiteSettings) {ms : List ModuleDoc} {m : ModuleDoc}

/-- The search index and the pages ask in different words, but what is in the index of components is
found just if it is shown. -/
theorem finds_eq_shows {c : Component} (hm : m ∈ ms) (hc : c ∈ m.indexed) :
    s.finds (componentIndex ms) c.id = s.shows c.id := by
  rw [finds, contains_componentIndex hm hc, shows, Selections.shows]
  cases s.selections.isEmpty <;> rfl

theorem finds_module (hm : m ∈ ms) : s.finds (componentIndex ms) m.id = s.shows m.id :=
  finds_eq_shows s hm (c := .module m) (by simp [ModuleDoc.indexed])

theorem finds_class {c : ClassDoc} (hm : m ∈ ms) (hc : c ∈ m.classes) :
    s.finds (componentIndex ms) c.id = s.shows c.id := by
  refine finds_eq_shows s hm (c := .classDef c) ?_
  have hself : Component.classDef c ∈ m.classes.flatMap ClassDoc.indexed :=
    List.mem_flatMap.mpr ⟨c, hc, by simp [ClassDoc.indexed]⟩
  simp [ModuleDoc.indexed, hself]

theorem finds_method {c : ClassDoc} {f : MethodDoc} (hm : m ∈ ms) (hc : c ∈ m.classes)
    (hf : f ∈ c.methods) : s.finds (componentIndex ms) f.id = s.shows f.id := by
  refine finds_eq_shows s hm (c := .method f) ?_
  have hself : Component.method f ∈ m.classes.flatMap ClassDoc.indexed :=
    List.mem_flatMap.mpr ⟨c, hc, by simp [ClassDoc.indexed, hf]⟩
  simp [ModuleDoc.indexed, hself]

theorem finds_function {f : FunctionDoc} (hm : m ∈ ms) (hf : f ∈ m.functions) :
    s.finds (componentIndex ms) f.id = s.shows f.id :=
  finds_eq_shows s hm (c := .function f) (by simp [ModuleDoc.indexed, hf])

end SiteSettings

theorem moduleSearch_found {s : SiteSettings} {ms : List ModuleDoc} {m : ModuleDoc} (hm : m ∈ ms) :
    moduleSearch s (s.finds (componentIndex ms)) m = moduleSearch s s.shows m := by
  have hclass : ∀ c ∈ m.classes.filter fun c => s.shows c.id,
      classSearch s (s.finds (componentIndex ms)) m c = classSearch s s.shows m c := by
    intro c hc
    have hmethods := List.filter_congr fun f hf => s.finds_method hm (List.mem_filter.mp hc).1 hf
    rw [classSearch, classSearch, hmethods]
  have hclasses := List.filter_congr fun c hc => s.finds_class hm hc
  have hfunctions := List.filter_congr fun f hf => s.finds_function hm hf
  rw [moduleSearch, moduleSearch, hclasses, hfunctions, List.flatMap_congr hclass]

/-- What is found is what is shown. -/
theorem searchIndex_eq (s : SiteSettings) (ms : List ModuleDoc) :
    searchIndex s ms = (ms.filter fun m => s.shows m.id).flatMap (moduleSearch s s.shows) := by
  have hmodules := List.filter_congr fun m (hm : m ∈ ms) => s.finds_module hm
  rw [searchIndex, hmodules]
  exact List.flatMap_congr fun m hm => moduleSearch_found (List.mem_filter.mp hm).1

namespace Site

open Disk (Descends)

variable {site : Site} {out : Path} {d d' : Disk}

theorem foundModules_eq (site : Site) : site.foundModules = site.shownModules :=
  List.filter_congr fun _ hm => site.settings.finds_module hm

/-! ## writing some files -/

theorem writeFiles_cons {f : List String × String} {fs : List (List String × String)}
    (h : (writeFiles out (f :: fs)).run d = (.ok (), d')) :
    ∃ e, d.write (out.below f.1) f.2 = .ok e ∧ (writeFiles out fs).run e = (.ok (), d') := by
  change (Action.write (out.below f.1) f.2 >>= fun _ => writeFiles out fs).run d = _ at h
  obtain ⟨_, e, he, h⟩ := Run.ok_of_bind h
  exact ⟨e, Action.run_change he, h⟩

theorem node?_of_writeFiles {fs : List (List String × String)}
    (hfs : ∀ f ∈ fs, Descends f.1 ∧ f.1 ≠ []) {name q : List String}
    (hname : Descends name ∧ name ≠ []) (hnew : ∀ f ∈ fs, f.1 ≠ name)
    (h : (writeFiles out fs).run d = (.ok (), d')) (hq : d.locate (out.below name) = .ok q) :
    d'.locate (out.below name) = .ok q ∧ d'.node? q = d.node? q := by
  induction fs generalizing d with
  | nil =>
    cases h
    exact ⟨hq, rfl⟩
  | cons f fs ih =>
    obtain ⟨e, he, h⟩ := writeFiles_cons h
    rw [List.forall_mem_cons] at hfs hnew
    obtain ⟨hq', hnode⟩ := Disk.node?_of_write he hfs.1 hname hnew.1 hq
    rw [← hnode]
    exact ih hfs.2 hnew.2 h hq'

/-- Of the files written under one name the last one stays. -/
theorem read_of_writeFiles_last {fs rest : List (List String × String)} {f : List String × String}
    (hfs : ∀ g ∈ fs ++ f :: rest, Descends g.1 ∧ g.1 ≠ []) (hlast : ∀ g ∈ rest, g.1 ≠ f.1)
    (h : (writeFiles out (fs ++ f :: rest)).run d = (.ok (), d')) :
    d'.read (out.below f.1) = .ok (.text f.2) := by
  induction fs generalizing d with
  | nil =>
    obtain ⟨e, he, hrest⟩ := writeFiles_cons h
    rw [List.nil_append, List.forall_mem_cons] at hfs
    obtain ⟨q, hq, hnode⟩ := Disk.node?_of_written he hfs.1
    obtain ⟨hq', hnode'⟩ := node?_of_writeFiles hfs.2 hfs.1 hlast hrest hq
    exact Disk.read_eq hq' (hnode'.trans hnode)
  | cons g fs ih =>
    obtain ⟨e, -, h⟩ := writeFiles_cons h
    rw [List.cons_append, List.forall_mem_cons] at hfs
    exact ih hfs.2 h

theorem read_of_writeFiles {fs : List (List String × String)}
    (hfs : ∀ f ∈ fs, Descends f.1 ∧ f.1 ≠ []) (hnames : (fs.map (·.1)).Nodup)
    (h : (writeFiles out fs).run d = (.ok (), d')) {f : List String × String} (hf : f ∈ fs) :
    d'.read (out.below f.1) = .ok (.text f.2) := by
  obtain ⟨before, rest, rfl⟩ := List.append_of_mem hf
  refine read_of_writeFiles_last hfs (fun g hg he => ?_) h
  rw [List.map_append, List.map_cons, List.nodup_append, List.nodup_cons] at hnames
  exact hnames.2.1.1 (List.mem_map.mpr ⟨g, hg, he⟩)

/-! ## the files of a site -/

theorem write_cases (h : (site.write out).run d = (.ok (), d')) :
    ∃ e, (prepare out).run d = (.ok (), e) ∧ site.fault? = none ∧
      (writeFiles out site.files).run e = (.ok (), d') := by
  obtain ⟨_, e, he, h⟩ := Run.ok_of_bind h
  refine ⟨e, he, ?_⟩
  split at h
  · exact ⟨‹_›, h⟩
  · obtain ⟨_, _, _, h⟩ := Run.ok_of_bind h
    cases h

theorem pageFile_ne_parent (path : String) : pageFile path ≠ ".." := by
  intro h
  have hlength := congrArg (fun s : String => s.toList.length) h
  simp only [pageFile, String.toList_append, List.length_append] at hlength
  have hend : ".html".toList.length = 5 := rfl
  have hdots : "..".toList.length = 2 := rfl
  omega

theorem descends_singleton {name : String} (h : name ≠ "..") : Descends [name] ∧ [name] ≠ [] :=
  ⟨fun hmem => h (List.mem_singleton.mp hmem).symm, List.cons_ne_nil _ _⟩

theorem descends_files {f : List String × String} (hf : f ∈ site.files) :
    Descends f.1 ∧ f.1 ≠ [] := by
  simp only [files, List.mem_append, List.mem_cons, List.mem_map, List.not_mem_nil, or_false] at hf
  rcases hf with ((rfl | rfl | rfl) | ⟨m, _, rfl⟩) | rfl
  · exact descends_singleton (by decide)
  · exact descends_singleton (by decide)
  · exact descends_singleton (by decide)
  · refine ⟨fun h => ?_, List.cons_ne_nil _ _⟩
    rcases List.mem_cons.mp h with h | h
    · exact absurd h (by decide)
    · exact pageFile_ne_parent m.path (List.mem_singleton.mp h).symm
  · exact descends_singleton (by decide)

/-- The pages of the modules have different names. -/
def NamesApart (site : Site) : Prop := (site.modules.map fun m => pageFile m.path).Nodup

theorem nodup_files (h : site.NamesApart) : (site.files.map (·.1)).Nodup := by
  have hpages : (site.shownModules.map fun m => ["modules", pageFile m.path]).Nodup := by
    have hshown : (site.shownModules.map fun m => pageFile m.path).Nodup :=
      h.sublist (List.filter_sublist.map _)
    have hpairs := List.pairwise_map.mp hshown
    refine List.pairwise_map.mpr (hpairs.imp fun hne he => hne ?_)
    exact (List.cons.inj (List.cons.inj he).2).1
  have hlong {q : List String}
      (hq : q ∈ site.shownModules.map fun m => ["modules", pageFile m.path]) : q.length = 2 := by
    obtain ⟨m, _, rfl⟩ := List.mem_map.mp hq
    rfl
  have hfirst : ∀ q ∈ [["style.css"], ["script.js"], ["index.html"]], q.length = 1 ∧
      q ≠ ["search.json"] := by
    decide
  have hnames : site.files.map (·.1) = [["style.css"], ["script.js"], ["index.html"]] ++
      (site.shownModules.map fun m => ["modules", pageFile m.path]) ++ [["search.json"]] := by
    simp only [files, List.map_append, List.map_map]
    rfl
  rw [hnames, List.nodup_append, List.nodup_append]
  refine ⟨⟨by decide, hpages, ?_⟩, by decide, ?_⟩
  · rintro q hq r hr rfl
    have h1 := (hfirst q hq).1
    have h2 := hlong hr
    omega
  · rintro q hq r hr rfl
    rw [List.mem_singleton] at hr
    rcases List.mem_append.mp hq with hq | hq
    · exact (hfirst q hq).2 hr
    · have h2 := hlong hq
      rw [hr] at h2
      cases h2

theorem read_file (h : (site.write out).run d = (.ok (), d')) (hnames : site.NamesApart)
    {name : List String} {text : String} (hf : (name, text) ∈ site.files) :
    d'.read (out.below name) = .ok (.text text) := by
  obtain ⟨e, _, _, h⟩ := write_cases h
  exact read_of_writeFiles (fun _ => descends_files) (nodup_files hnames) h hf

theorem index_mem_files (site : Site) : (["index.html"], site.indexText) ∈ site.files := by
  simp [files]

theorem search_mem_files (site : Site) :
    (["search.json"], searchText (searchIndex site.settings site.modules)) ∈ site.files := by
  simp [files]

/-! ## pages -/

/-- the name and text of a file, if it is the page of a module -/
def page? : List String × String → Option (String × String)
  | (["modules", name], text) => some (name, text)
  | _ => none

/-- the pages of modules among the files of a site, in the order in which they are written -/
def pages (site : Site) : List (String × String) := site.files.filterMap page?

theorem pages_eq (site : Site) :
    site.pages = site.shownModules.map fun m => (pageFile m.path,
      (modulePage site.settings m).render) := by
  have hother (name text : String) : page? ([name], text) = none := by simp [page?]
  have hpage (m : ModuleDoc) : page? (["modules", pageFile m.path],
    (modulePage site.settings m).render) =
      some (pageFile m.path, (modulePage site.settings m).render) := rfl
  simp only [pages, files, List.filterMap_append, List.filterMap_cons, List.filterMap_nil,
    List.filterMap_map, Function.comp_def, hother, hpage, List.nil_append, List.append_nil]
  exact congrFun List.filterMap_eq_map site.shownModules

theorem page_mem {m : ModuleDoc} (hm : m ∈ site.shownModules) :
    (pageFile m.path, (modulePage site.settings m).render) ∈ site.pages := by
  simp only [pages_eq, List.mem_map]
  exact ⟨m, hm, rfl⟩

theorem mem_files_of_mem_pages {name text : String} (h : (name, text) ∈ site.pages) :
    (["modules", name], text) ∈ site.files := by
  obtain ⟨f, hf, hpage⟩ := List.mem_filterMap.mp h
  unfold page? at hpage
  split at hpage
  · cases hpage
    exact hf
  · cases hpage

theorem read_page (h : (site.write out).run d = (.ok (), d')) (hnames : site.NamesApart)
    {name text : String} (hpage : (name, text) ∈ site.pages) :
    d'.read (out.below ["modules", name]) = .ok (.text text) :=
  read_file h hnames (mem_files_of_mem_pages hpage)

end Site

end Apidoc
