import Apidoc.Proofs.Contents.Entries
import Apidoc.Proofs.Selection.Dictionary
import Apidoc.Proofs.Site.Exclusion

/-!
# No selections are all selections

A store that starts from a table of contents selects all of it.  A site with these selections is the
site without any.

* `Selections.Unmarked`      nothing is said of any entry but that it is included;
* `ModuleDoc.Shown`          a module is shown with all that is in it;
* `modulePage_bare`, `moduleSearch_bare`, `pageFault?_bare`, `entryItem_bare`   then its page, its
                                                                                place in the search
                                                                                index and on the
                                                                                index page, and what
                                                                                cannot be asked for
                                                                                are as without
                                                                                selections;
* `Site.write_bare`          and so is the whole site.
-/

namespace Apidoc

/-! ## selections that say nothing -/

/-- Nothing is said of any entry but that it is included. -/
def Selections.Unmarked (sel : Selections) : Prop :=
  ∀ id, sel.of? id = none ∨ sel.of? id = some (.default (.str id) true)

theorem Selections.Unmarked.includes_eq {sel : Selections} (h : sel.Unmarked) (id : String) :
    sel.includes id = true := by
  unfold includes
  rcases h id with hid | hid
  · rw [hid]
  · rw [hid]
    rfl

abbrev SiteSettings.bare (s : SiteSettings) : SiteSettings := { s with selections := [] }

variable {s : SiteSettings}

section

variable (h : s.selections.Unmarked)
include h

theorem describe_bare (header : Header) : s.describe header = s.bare.describe header := by
  unfold SiteSettings.describe
  rcases h header.id with hid | hid
  · rw [hid]
    rfl
  · rw [hid]
    rfl

theorem moduleTitle_bare (m : ModuleDoc) : s.moduleTitle m = s.bare.moduleTitle m := by
  unfold SiteSettings.moduleTitle
  rcases h m.id with hid | hid
  · rw [hid]
    rfl
  · rw [hid]
    rfl

theorem headerFault?_bare (id : String) : Site.headerFault? s id = Site.headerFault? s.bare id := by
  unfold Site.headerFault?
  rcases h id with hid | hid
  · rw [hid]
    rfl
  · rw [hid]
    rfl

end

/-! ## modules that are shown whole -/

structure ClassDoc.Shown (s : SiteSettings) (c : ClassDoc) : Prop where
  self : s.shows c.id = true
  methods : ∀ f ∈ c.methods, s.shows f.id = true

/-- A module is shown with all that is in it. -/
structure ModuleDoc.Shown (s : SiteSettings) (m : ModuleDoc) : Prop where
  self : s.shows m.id = true
  classes : ∀ c ∈ m.classes, c.Shown s
  functions : ∀ f ∈ m.functions, s.shows f.id = true

theorem shows_bare (s : SiteSettings) (id : String) : s.bare.shows id = true := rfl

theorem filter_shows {α : Type} {id : α → String} {xs : List α}
    (h : ∀ x ∈ xs, s.shows (id x) = true) :
    (xs.filter fun x => s.shows (id x)) = xs := List.filter_eq_self.mpr h

theorem filter_bare {α : Type} (id : α → String) (xs : List α) :
    (xs.filter fun x => s.bare.shows (id x)) = xs :=
  List.filter_eq_self.mpr fun _ _ => rfl

/-! ## pages -/

theorem functionLink_bare {f : FunctionDoc} (hf : s.shows f.id = true) :
    functionLink s f = functionLink s.bare f := by
  rw [functionLink, functionLink, hf, shows_bare]

theorem functionBlock_bare {f : FunctionDoc} (hf : s.shows f.id = true) :
    functionBlock s f = functionBlock s.bare f := by
  rw [functionBlock, functionBlock, markedClass, markedClass, hf, shows_bare]
  rfl

theorem methodLink_bare {c : ClassDoc} {f : MethodDoc} (hf : s.shows f.id = true) :
    methodLink s c f = methodLink s.bare c f := by
  rw [methodLink, methodLink, hf, shows_bare]

theorem methodBlock_bare {c : ClassDoc} {f : MethodDoc} (hf : s.shows f.id = true) :
    methodBlock s c f = methodBlock s.bare c f := by
  rw [methodBlock, methodBlock, markedClass, markedClass, hf, shows_bare]
  rfl

theorem classLinks_bare {c : ClassDoc} (hc : c.Shown s) : classLinks s c = classLinks s.bare c := by
  have hmethods : List.Forall₂ (fun f f' => methodLink s c f =
    methodLink s.bare c f') c.methods c.methods :=
    List.forall₂_same.mpr fun f hf => methodLink_bare (hc.methods f hf)
  rw [classLinks, classLinks, hc.self, shows_bare, each_congr₂ hmethods]

section

variable (h : s.selections.Unmarked)
include h

theorem classSection_bare {c : ClassDoc} (hc : c.Shown s) :
    classSection s c = classSection s.bare c := by
  have hmethods : List.Forall₂ (fun f f' => methodBlock s c f =
    methodBlock s.bare c f') c.methods c.methods :=
    List.forall₂_same.mpr fun f hf => methodBlock_bare (hc.methods f hf)
  unfold classSection
  rw [hc.self, shows_bare, each_congr₂ hmethods, describe_bare h]

theorem moduleHeader_bare {m : ModuleDoc} (hm : m.Shown s) :
    moduleHeader s m = moduleHeader s.bare m := by
  rw [moduleHeader, moduleHeader, hm.self, shows_bare, moduleTitle_bare h]

theorem moduleDescription_bare (m : ModuleDoc) :
    s.moduleDescription m = s.bare.moduleDescription m := by
  rw [SiteSettings.moduleDescription, SiteSettings.moduleDescription, describe_bare h]
  rfl

theorem modulePage_bare {m : ModuleDoc} (hm : m.Shown s) :
    modulePage s m = modulePage s.bare m := by
  have hlinks : List.Forall₂ (fun c c' => classLinks s c =
    classLinks s.bare c') m.classes m.classes :=
    List.forall₂_same.mpr fun c hc => classLinks_bare (hm.classes c hc)
  have hsections : List.Forall₂ (fun c c' => classSection s c =
    classSection s.bare c') m.classes m.classes :=
    List.forall₂_same.mpr fun c hc => classSection_bare h (hm.classes c hc)
  have hcalls : List.Forall₂ (fun f f' => functionLink s f =
    functionLink s.bare f') m.functions m.functions :=
    List.forall₂_same.mpr fun f hf => functionLink_bare (hm.functions f hf)
  have hblocks : List.Forall₂ (fun f f' => functionBlock s f =
    functionBlock s.bare f') m.functions m.functions :=
    List.forall₂_same.mpr fun f hf => functionBlock_bare (hm.functions f hf)
  unfold modulePage
  dsimp only
  rw [filter_shows fun c hc => (hm.classes c hc).self, filter_shows hm.functions,
    filter_bare (fun c : ClassDoc => c.id), filter_bare (fun f : FunctionDoc => f.id),
    each_congr₂ hlinks, each_congr₂ hsections, each_congr₂ hcalls, each_congr₂ hblocks,
    moduleDescription_bare h, moduleHeader_bare h hm]

end

/-! ## the search index -/

theorem classSearch_bare (m : ModuleDoc) {c : ClassDoc} (hc : c.Shown s) :
    classSearch s s.shows m c = classSearch s.bare s.bare.shows m c := by
  rw [classSearch, classSearch, filter_shows hc.methods, filter_bare (fun f : MethodDoc => f.id)]
  rfl

theorem moduleSearch_bare {m : ModuleDoc} (hm : m.Shown s) :
    moduleSearch s s.shows m = moduleSearch s.bare s.bare.shows m := by
  have hclasses : List.Forall₂ (fun c c' => classSearch s s.shows m c =
    classSearch s.bare s.bare.shows m c') m.classes m.classes :=
    List.forall₂_same.mpr fun c hc => classSearch_bare m (hm.classes c hc)
  rw [moduleSearch, moduleSearch, filter_shows fun c hc => (hm.classes c hc).self,
    filter_shows hm.functions, filter_bare (fun c : ClassDoc => c.id),
    filter_bare (fun f : FunctionDoc => f.id), flatMap_congr₂ hclasses]
  rfl

/-! ## faults -/

section

variable (h : s.selections.Unmarked)
include h

theorem classFault?_bare {c : ClassDoc} (hc : c.Shown s) :
    Site.classFault? s c = Site.classFault? s.bare c := by
  have hany : List.Forall₂ (fun f f' : MethodDoc => (s.editable || s.shows f.id) =
    (s.editable || s.bare.shows f'.id))
      c.methods c.methods := List.forall₂_same.mpr fun f hf => by rw [hc.methods f hf, shows_bare]
  rw [Site.classFault?, Site.classFault?, headerFault?_bare h, any_congr₂ hany]

theorem pageFault?_bare {m : ModuleDoc} (hm : m.Shown s) :
    Site.pageFault? s m = Site.pageFault? s.bare m := by
  have hclasses : List.Forall₂ (fun c c' => Site.classFault? s c =
    Site.classFault? s.bare c') m.classes m.classes :=
    List.forall₂_same.mpr fun c hc => classFault?_bare h (hm.classes c hc)
  have hany : List.Forall₂ (fun f f' : FunctionDoc => s.shows f.id =
    s.bare.shows f'.id) m.functions m.functions :=
    List.forall₂_same.mpr fun f hf => by rw [hm.functions f hf, shows_bare]
  rw [Site.pageFault?, Site.pageFault?, headerFault?_bare h,
    filter_shows fun c hc => (hm.classes c hc).self, filter_bare (fun c : ClassDoc => c.id),
    findSome?_congr₂ hclasses, any_congr₂ hany]

theorem firstFault?_bare {ms : List ModuleDoc} (hms : ∀ m ∈ ms, m.Shown s) :
    Site.firstFault? s ms = Site.firstFault? s.bare ms := by
  induction ms with
  | nil => rfl
  | cons m ms ih =>
    rw [List.forall_mem_cons] at hms
    rw [Site.firstFault?, Site.firstFault?, pageFault?_bare h hms.1, ih hms.2]

end

/-! ## the index page -/

section

variable {sel : Selections} (h : sel.Unmarked)
include h

theorem childItem_bare (editable : Bool) (path : String) (heading : Heading) :
    childItem editable sel path heading = childItem editable [] path heading := by
  rw [childItem, childItem, h.includes_eq]
  rfl

theorem entryItem_bare (editable : Bool) (e : Entry) :
    entryItem editable sel e = entryItem editable [] e := by
  have hchildren : List.Forall₂ (fun c c' : Entry =>
    childItem editable sel e.heading.path c.heading =
      childItem editable [] e.heading.path c'.heading) e.children e.children :=
    List.forall₂_same.mpr fun c _ => childItem_bare h editable _ _
  rw [entryItem, entryItem, h.includes_eq, each_congr₂ hchildren]
  rfl

theorem indexPage_bare (title stamp : String) (editable : Bool) (entries : List Entry) :
    indexPage title stamp editable entries sel = indexPage title stamp editable entries [] := by
  have hentries : List.Forall₂ (fun e e' => entryItem editable sel e =
    entryItem editable [] e') entries entries :=
    List.forall₂_same.mpr fun e _ => entryItem_bare h editable e
  unfold indexPage
  rw [each_congr₂ hentries]

end

/-! ## the site -/

namespace Site

variable {site : Site}

def bare (site : Site) : Site := { site with settings := site.settings.bare }

section

variable (h : site.settings.selections.Unmarked) (hms : ∀ m ∈ site.modules, m.Shown site.settings)
include hms

theorem shownModules_bare : site.shownModules = site.bare.shownModules := by
  have hall : site.shownModules = site.modules := filter_shows fun m hm => (hms m hm).self
  have hbare : site.bare.shownModules = site.modules := filter_bare (fun m => m.id) site.modules
  rw [hall, hbare]

include h

theorem files_bare : site.files = site.bare.files := by
  have hshown : ∀ m ∈ site.shownModules, m.Shown site.settings :=
    fun m hm => hms m (List.mem_of_mem_filter hm)
  have hpages : List.Forall₂ (fun m m' : ModuleDoc =>
      (["modules", pageFile m.path], (modulePage site.settings m).render) =
        (["modules", pageFile m'.path], (modulePage site.settings.bare m').render))
          site.shownModules site.shownModules :=
    List.forall₂_same.mpr fun m hm => by rw [modulePage_bare h (hshown m hm)]
  have hsearch : List.Forall₂ (fun m m' => moduleSearch site.settings site.settings.shows m =
      moduleSearch site.settings.bare site.settings.bare.shows m') site.shownModules
        site.shownModules := List.forall₂_same.mpr fun m hm => moduleSearch_bare (hshown m hm)
  have hindex : site.indexText = site.bare.indexText := by
    rw [indexText, indexText, indexPage_bare h]
    rfl
  have hentries : searchIndex site.settings site.modules =
      searchIndex site.settings.bare site.modules := by
    rw [searchIndex_eq, searchIndex_eq]
    show site.shownModules.flatMap _ = site.bare.shownModules.flatMap _
    rw [← shownModules_bare hms]
    exact flatMap_congr₂ hsearch
  unfold files
  rw [hindex, map_congr₂ hpages, hentries, shownModules_bare hms]
  rfl

theorem fault?_bare : site.fault? = site.bare.fault? := by
  have hshown : ∀ m ∈ site.shownModules, m.Shown site.settings :=
    fun m hm => hms m (List.mem_of_mem_filter hm)
  unfold fault?
  rw [foundModules_eq, foundModules_eq, firstFault?_bare h hshown, shownModules_bare hms]
  rfl

theorem write_bare (out : Path) : site.write out = site.bare.write out := by
  rw [write, write, fault?_bare h hms, files_bare h hms]

end

end Site

/-! ## all selections -/

variable {d : Disk}

theorem Store.Usable.run_save {s : Store} (h : s.Usable d) (selections : Selections)
    (metadata : Data) : ∃ d', (s.save selections metadata).run d = (.ok (), d') := by
  obtain ⟨e, g, hs⟩ := h
  obtain ⟨e, hprepare, hs, _⟩ := hs.prepare
  have hq : e.locate s.selectionsFile = .ok (g ++ ["selections.yaml"]) :=
    Store.locate_file hs.rooted hs.entered Store.selections_mem
  rw [Store.save, Run.bind_ok hprepare]
  exact ⟨_, Action.run_change_ok (Disk.write_ok hq (hs.free _ Store.selections_mem) _)⟩

def Selections.all (entries : List Entry) : Selections :=
  Dictionary.selections ((Dictionary.contentIds entries).map fun id => (id, ⟨true, none, none⟩))

theorem Selections.of?_all (entries : List Entry) (id : String) :
    (all entries).of? id =
      if id ∈ (Entry.flatten entries).map (·.id) then some (.default (.str id) true) else none := by
  rw [all, of?, Dictionary.selections, Ordered.get?_keyed, Ordered.get?_map_key,
    Ordered.get?_eq_lookup, Dictionary.lookup_map, Dictionary.contentIds]
  simp only [List.mem_eraseDups]
  split
  · rfl
  · rfl

theorem Selections.unmarked_all (entries : List Entry) : (all entries).Unmarked := by
  intro id
  rw [of?_all]
  split
  · exact .inr rfl
  · exact .inl rfl

theorem Selections.names_all {entries : List Entry} {e : Entry} (h : e ∈ Entry.flatten entries) :
    (all entries).names e.id = true := by
  rw [names, of?_all, if_pos (List.mem_map_of_mem h)]
  rfl

theorem Store.Usable.run_start {s : Store} (h : s.Usable d)
    (hnone : d.lookup s.selectionsFile = none) (entries : List Entry) :
    ∃ d', (s.start entries true).run d = (.ok (.all entries), d') := by
  have hload : s.load.run d = (.ok [], d) := (Holds.of_none h hnone).loads s.now
  have hnew : Selections.restrict [] true ((Entry.flatten entries).map (·.id)) = .all entries :=
    Dictionary.restrict_selections [] true entries
  obtain ⟨d', hsave⟩ := h.run_save (.all entries) .null
  refine ⟨d', ?_⟩
  rw [Store.start, Run.bind_ok hload, Selections.addEntries_eq, hnew, Run.bind_ok hsave]
  rfl

theorem ModuleDoc.shown_all {ms : List ModuleDoc} {s : SiteSettings}
    (hs : s.selections = .all (contents .full ms)) {m : ModuleDoc} (hm : m ∈ ms) : m.Shown s := by
  have hshows {e : Entry} (he : e ∈ Entry.flatten (contents .full ms)) : s.shows e.id = true := by
    rw [SiteSettings.shows, hs, Selections.shows, Selections.names_all he, Bool.or_true]
  have hmodule : moduleEntry .full m ∈ contents .full ms := List.mem_map_of_mem hm
  have hchild {e : Entry} (he : e ∈ (moduleEntry .full m).children) : s.shows e.id = true :=
    hshows (Entry.mem_flatten_of_child hmodule (Entry.mem_flatten_of_mem he))
  have hclass {c : ClassDoc} (hc : c ∈ m.classes) : classEntry .full m.id c ∈
    (moduleEntry .full m).children :=
    List.mem_append_left _ (List.mem_append_left _ (List.mem_map_of_mem hc))
  refine ⟨hshows (Entry.mem_flatten_of_mem hmodule),
    fun c hc => ⟨hchild (hclass hc), fun f hf => ?_⟩, fun f hf => ?_⟩
  · have hmethod : leaf (f.toHeader.heading (methodTitle f) .method 2 (some c.id)) ∈
      (classEntry .full m.id c).children :=
      List.mem_append_left _ (List.mem_map_of_mem hf)
    exact hshows (Entry.mem_flatten_of_child hmodule (Entry.mem_flatten_of_child (hclass hc)
      (Entry.mem_flatten_of_mem hmethod)))
  · have hfunction : functionEntry m.id f ∈ (moduleEntry .full m).children :=
      List.mem_append_left _ (List.mem_append_right _ (List.mem_map_of_mem hf))
    exact hchild hfunction

/-- the site of some modules and their table of contents -/
def Site.documenting (settings : SiteSettings) (style : Option String) (stamp : String)
    (ms : List ModuleDoc) (sel : Selections) : Site :=
  ⟨{ settings with selections := sel }, style, stamp, ms, contents .full ms⟩

/-- A store that starts from the table of contents of some modules selects all of it, and the site
with these selections is written as the one without any, whatever was in its directory. -/
theorem full_selections_change_nothing {s : Store} (h : s.Usable d)
    (hnone : d.lookup s.selectionsFile = none) (ms : List ModuleDoc) :
    ∃ sel d', (s.start (contents .full ms) true).run d = (.ok sel, d') ∧
      (∀ e ∈ Entry.flatten (contents .full ms), sel.names e.id = true) ∧
      ∀ settings style stamp out e,
        ((Site.documenting settings style stamp ms sel).write out).run e =
          ((Site.documenting settings style stamp ms []).write out).run e := by
  obtain ⟨d', hstart⟩ := h.run_start hnone (contents .full ms)
  refine ⟨_, d', hstart, fun e he => Selections.names_all he, fun settings style stamp out e => ?_⟩
  have hunmarked : (Site.documenting settings style stamp ms
    (.all (contents .full ms))).settings.selections.Unmarked :=
    Selections.unmarked_all _
  rw [Site.write_bare hunmarked fun m hm => ModuleDoc.shown_all rfl hm]
  rfl

theorem notesStore_selects_all :
    notesStore.Usable notesDisk ∧ notesDisk.lookup notesStore.selectionsFile = none ∧
    ∃ sel d', (notesStore.start (contents .full Site.shapesSite.modules) true).run notesDisk =
      (.ok sel, d') ∧
      (∀ e ∈ Entry.flatten (contents .full Site.shapesSite.modules), sel.names e.id = true) ∧
      ∀ settings style stamp out e,
        ((Site.documenting settings style stamp Site.shapesSite.modules sel).write out).run e =
          ((Site.documenting settings style stamp Site.shapesSite.modules []).write out).run e :=
  ⟨notesStore_usable, rfl,
    full_selections_change_nothing notesStore_usable rfl Site.shapesSite.modules⟩

end Apidoc
