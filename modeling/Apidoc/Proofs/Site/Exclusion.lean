import Apidoc.Proofs.Site.Links
import Mathlib.Data.List.Forall2

/-!
# What is excluded does not show

Two lists of modules are *alike* if they differ only in components that a selection excludes, and in
what belongs to those.  On a site that is not for editing, alike modules make the same files:

* `Alike`                two components that are excluded under one id, or that are related and
                         described alike;
* `forall₂_filter`       what is shown of alike components is related;
* `modulePage_congr`, `moduleSearch_congr`, `pageFault?_congr`, `entryItem_congr`   related modules
                                                                                    have the same
                                                                                    page, entries,
                                                                                    faults and place
                                                                                    on the index
                                                                                    page;
* `Differ`               lists of modules that differ in one excluded component.
-/

namespace Apidoc

/-- A selection says that a component is not included. -/
def Selections.Excludes (s : Selections) (id : String) : Prop :=
  ∃ sel, s.of? id = some sel ∧ sel.isIncluded = false

theorem Selections.Excludes.includes_eq {s : Selections} {id : String} (h : s.Excludes id) :
    s.includes id = false := by
  obtain ⟨sel, hsel, hout⟩ := h
  simp only [includes, hsel, hout]

theorem Selections.Excludes.shows_eq {s : Selections} {id : String} (h : s.Excludes id) :
    s.shows id = false := by
  obtain ⟨sel, hsel, hout⟩ := h
  have hne : s.isEmpty = false := by
    cases s with
    | nil => cases hsel
    | cons p s => rfl
  simp only [shows, names, hsel, hout, hne, Bool.or_false]

theorem Selections.Excludes.of_eq {s : Selections} {id id' : String} (h : s.Excludes id)
    (he : id' = id) :
    s.Excludes id' := he ▸ h

/-! ## components that are alike -/

section

variable (s : SiteSettings) (ds : Ordered String Data)

abbrev SiteSettings.describedBy : SiteSettings := { s with descriptions := ds }

def Agrees (id : String) : Prop := s.descriptions.get? id = ds.get? id

/-- Two components are excluded under one id, or they are related and described alike. -/
def Alike {α : Type} (id : α → String) (R : α → α → Prop) (x y : α) : Prop :=
  id y = id x ∧ (s.selections.Excludes (id x) ∨ R x y ∧ Agrees s ds (id x))

def MethodsAlike : List MethodDoc → List MethodDoc → Prop :=
  List.Forall₂ (Alike s ds (fun m => m.id) Eq)

def FunctionsAlike : List FunctionDoc → List FunctionDoc → Prop :=
  List.Forall₂ (Alike s ds (fun f => f.id) Eq)

/-- Two classes are the same but for methods that are excluded. -/
def SameClass (c c' : ClassDoc) : Prop :=
  ∃ ms, c' = { c with methods := ms } ∧ MethodsAlike s ds c.methods ms

def ClassesAlike : List ClassDoc → List ClassDoc → Prop :=
  List.Forall₂ (Alike s ds (fun c => c.id) (SameClass s ds))

/-- Two modules are the same but for classes, methods and functions that are excluded. -/
def SameModule (m m' : ModuleDoc) : Prop :=
  ∃ cs fs, m' = { m with classes := cs, functions := fs } ∧ ClassesAlike s ds m.classes cs ∧
    FunctionsAlike s ds m.functions fs

def ModulesAlike : List ModuleDoc → List ModuleDoc → Prop :=
  List.Forall₂ (Alike s ds (fun m => m.id) (SameModule s ds))

end

variable {s : SiteSettings} {ds : Ordered String Data}

theorem forall₂_filter {α : Type} {id : α → String} {R : α → α → Prop} {xs ys : List α}
    (h : List.Forall₂ (Alike s ds id R) xs ys) :
    List.Forall₂ (fun x y => R x y ∧ Agrees s ds (id x)) (xs.filter fun x => s.shows (id x))
      (ys.filter fun y => s.shows (id y)) := by
  induction h with
  | nil => exact .nil
  | @cons x y xs ys hxy _ ih =>
    rw [List.filter_cons, List.filter_cons, hxy.1]
    cases hs : s.shows (id x) with
    | false => exact ih
    | true =>
      rcases hxy.2 with hout | hkept
      · rw [SiteSettings.shows, hout.shows_eq] at hs
        cases hs
      · exact .cons hkept ih

/-! ## lists of related components -/

section

variable {α β γ : Type} {f : α → γ} {g : β → γ} {xs : List α} {ys : List β}

theorem map_congr₂ (h : List.Forall₂ (fun x y => f x = g y) xs ys) : xs.map f = ys.map g := by
  induction h with
  | nil => rfl
  | cons hxy _ ih => rw [List.map_cons, List.map_cons, hxy, ih]

theorem flatMap_congr₂ {f : α → List γ} {g : β → List γ}
    (h : List.Forall₂ (fun x y => f x = g y) xs ys) : xs.flatMap f = ys.flatMap g := by
  rw [List.flatMap_def, List.flatMap_def, map_congr₂ h]

theorem each_congr₂ {f : α → Markup} {g : β → Markup}
    (h : List.Forall₂ (fun x y => f x = g y) xs ys) (indent : Nat) :
    Markup.each indent xs f = Markup.each indent ys g := by
  unfold Markup.each
  rw [flatMap_congr₂ (h.imp fun x y hxy => by rw [hxy])]

theorem any_congr₂ {f : α → Bool} {g : β → Bool} (h : List.Forall₂ (fun x y => f x = g y) xs ys) :
    xs.any f = ys.any g := by
  induction h with
  | nil => rfl
  | cons hxy _ ih => rw [List.any_cons, List.any_cons, hxy, ih]

theorem findSome?_congr₂ {f : α → Option γ} {g : β → Option γ}
    (h : List.Forall₂ (fun x y => f x = g y) xs ys) : xs.findSome? f = ys.findSome? g := by
  induction h with
  | nil => rfl
  | cons hxy _ ih => rw [List.findSome?_cons, List.findSome?_cons, hxy, ih]

theorem isEmpty_congr₂ {R : α → β → Prop} (h : List.Forall₂ R xs ys) : xs.isEmpty = ys.isEmpty := by
  cases h with
  | nil => rfl
  | cons _ _ => rfl

end

/-! ## pages -/

theorem bodyPart_congr {f : FunctionDoc} (h : Agrees s ds f.id) (indent : Nat) (rank : String) :
    bodyPart s indent rank f = bodyPart (s.describedBy ds) indent rank f := by
  have hmade : s.description? f.id = (s.describedBy ds).description? f.id := h
  rw [bodyPart, bodyPart, hmade]

theorem describe_congr {h : Header} (hid : Agrees s ds h.id) :
    s.describe h = (s.describedBy ds).describe h := by
  have hmade : s.description? h.id = (s.describedBy ds).description? h.id := hid
  rw [SiteSettings.describe, SiteSettings.describe, hmade]

theorem functionBlock_congr {f f' : FunctionDoc} (h : f = f' ∧ Agrees s ds f.id) :
    functionBlock s f = functionBlock (s.describedBy ds) f' := by
  obtain ⟨rfl, hid⟩ := h
  rw [functionBlock, functionBlock, bodyPart_congr hid]
  rfl

section

variable (hedit : s.editable = false)
include hedit

theorem optional_of_excludes {id : String} (h : s.selections.Excludes id) (indent : Nat)
    (m : Markup) : Markup.optional indent (s.editable || s.shows id) m = Markup.gap indent := by
  rw [hedit, SiteSettings.shows, h.shows_eq]
  exact List.append_nil _

theorem methodLink_congr {c : ClassDoc} {f f' : MethodDoc} (h : Alike s ds (fun m => m.id) Eq f f')
    (ms : List MethodDoc) :
    methodLink s c f = methodLink (s.describedBy ds) { c with methods := ms } f' := by
  obtain ⟨hid, hout | ⟨rfl, _⟩⟩ := h
  · have hout' : (s.describedBy ds).selections.Excludes f'.id := hout.of_eq hid
    rw [methodLink, methodLink, optional_of_excludes hedit hout,
      optional_of_excludes (s := s.describedBy ds) hedit hout']
  · rfl

theorem methodBlock_congr {c : ClassDoc} {f f' : MethodDoc} (h : Alike s ds (fun m => m.id) Eq f f')
    (ms : List MethodDoc) :
    methodBlock s c f = methodBlock (s.describedBy ds) { c with methods := ms } f' := by
  obtain ⟨hid, hout | ⟨rfl, hagree⟩⟩ := h
  · have hout' : (s.describedBy ds).selections.Excludes f'.id := hout.of_eq hid
    rw [methodBlock, methodBlock, optional_of_excludes hedit hout,
      optional_of_excludes (s := s.describedBy ds) hedit hout']
  · rw [methodBlock, methodBlock, bodyPart_congr hagree]
    rfl

theorem classLinks_congr {c c' : ClassDoc} (h : SameClass s ds c c') :
    classLinks s c = classLinks (s.describedBy ds) c' := by
  obtain ⟨ms, rfl, hms⟩ := h
  rw [classLinks, classLinks,
    each_congr₂ (hms.imp fun f f' hf => methodLink_congr hedit (c := c) hf ms)]
  rfl

theorem classSection_congr {c c' : ClassDoc} (h : SameClass s ds c c' ∧ Agrees s ds c.id) :
    classSection s c = classSection (s.describedBy ds) c' := by
  obtain ⟨⟨ms, rfl, hms⟩, hid⟩ := h
  have hblocks : List.Forall₂ (fun f f' => methodBlock s c f =
      methodBlock (s.describedBy ds) { c with methods := ms } f') c.methods ms :=
    hms.imp fun f f' hf => methodBlock_congr hedit hf ms
  have heach := each_congr₂ hblocks 16
  unfold classSection
  rw [heach, describe_congr (h := c.toHeader) hid]
  rfl

theorem modulePage_congr {m m' : ModuleDoc} (h : SameModule s ds m m' ∧ Agrees s ds m.id) :
    modulePage s m = modulePage (s.describedBy ds) m' := by
  obtain ⟨⟨cs, fs, rfl, hcs, hfs⟩, hid⟩ := h
  have hclasses := forall₂_filter hcs
  have hfunctions := forall₂_filter hfs
  have hmade : s.description? m.id = (s.describedBy ds).description? m.id := hid
  have hdescription : s.moduleDescription m =
      (s.describedBy ds).moduleDescription { m with classes := cs, functions := fs } := by
    rw [SiteSettings.moduleDescription, SiteSettings.moduleDescription,
      describe_congr (h := m.toHeader) hid, hmade]
  have hlinks : List.Forall₂ (fun c c' => classLinks s c = classLinks (s.describedBy ds) c')
      (m.classes.filter fun c => s.shows c.id) (cs.filter fun c => s.shows c.id) :=
    hclasses.imp fun c c' hc => classLinks_congr hedit hc.1
  have hsections : List.Forall₂ (fun c c' => classSection s c = classSection (s.describedBy ds) c')
      (m.classes.filter fun c => s.shows c.id) (cs.filter fun c => s.shows c.id) :=
    hclasses.imp fun c c' hc => classSection_congr hedit hc
  have hcalls : List.Forall₂ (fun f f' => functionLink s f = functionLink (s.describedBy ds) f')
      (m.functions.filter fun f => s.shows f.id) (fs.filter fun f => s.shows f.id) :=
    hfunctions.imp fun f f' hf => congrArg (functionLink s) hf.1
  have hblocks : List.Forall₂ (fun f f' => functionBlock s f = functionBlock (s.describedBy ds) f')
      (m.functions.filter fun f => s.shows f.id) (fs.filter fun f => s.shows f.id) :=
    hfunctions.imp fun f f' hf => functionBlock_congr hf
  unfold modulePage
  dsimp only
  rw [each_congr₂ hlinks, each_congr₂ hsections, each_congr₂ hcalls, each_congr₂ hblocks,
    isEmpty_congr₂ hfunctions, hdescription]
  rfl

end

/-! ## the search index -/

theorem searchText_congr {h : Header} (hid : Agrees s ds h.id) :
    s.searchText h = (s.describedBy ds).searchText h := by
  have hmade : s.description? h.id = (s.describedBy ds).description? h.id := hid
  rw [SiteSettings.searchText, SiteSettings.searchText, hmade]

theorem functionSearch_congr {m : ModuleDoc} {f f' : FunctionDoc} (h : f = f' ∧ Agrees s ds f.id)
    (cs : List ClassDoc) (fs : List FunctionDoc) :
    functionSearch s m f = functionSearch (s.describedBy ds)
    { m with classes := cs, functions := fs } f' := by
  obtain ⟨rfl, hid⟩ := h
  rw [functionSearch, functionSearch, searchText_congr (h := f.toHeader) hid]

theorem classSearch_congr {m : ModuleDoc} {c c' : ClassDoc}
    (h : SameClass s ds c c' ∧ Agrees s ds c.id) (cs : List ClassDoc) (fs : List FunctionDoc) :
    classSearch s s.shows m c = classSearch (s.describedBy ds) (s.describedBy ds).shows
      { m with classes := cs, functions := fs } c' := by
  obtain ⟨⟨ms, rfl, hms⟩, hid⟩ := h
  have hmethods : List.Forall₂ (fun f f' => methodSearch s m c f =
      methodSearch (s.describedBy ds) { m with classes := cs, functions := fs }
      { c with methods := ms } f') (c.methods.filter fun f => s.shows f.id)
        (ms.filter fun f => s.shows f.id) := by
    refine (forall₂_filter hms).imp ?_
    rintro f _ ⟨rfl, hf⟩
    rw [methodSearch, methodSearch, searchText_congr (h := f.toHeader) hf]
    rfl
  rw [classSearch, classSearch, map_congr₂ hmethods, searchText_congr (h := c.toHeader) hid]
  rfl

theorem moduleSearch_congr {m m' : ModuleDoc} (h : SameModule s ds m m' ∧ Agrees s ds m.id) :
    moduleSearch s s.shows m = moduleSearch (s.describedBy ds) (s.describedBy ds).shows m' := by
  obtain ⟨⟨cs, fs, rfl, hcs, hfs⟩, hid⟩ := h
  have hclasses : List.Forall₂ (fun c c' => classSearch s s.shows m c =
      classSearch (s.describedBy ds) (s.describedBy ds).shows
        { m with classes := cs, functions := fs } c')
      (m.classes.filter fun c => s.shows c.id) (cs.filter fun c => s.shows c.id) :=
    (forall₂_filter hcs).imp fun c c' hc => classSearch_congr hc cs fs
  have hfunctions : List.Forall₂ (fun f f' => functionSearch s m f =
      functionSearch (s.describedBy ds) { m with classes := cs, functions := fs } f')
      (m.functions.filter fun f => s.shows f.id) (fs.filter fun f => s.shows f.id) :=
    (forall₂_filter hfs).imp fun f f' hf => functionSearch_congr hf cs fs
  rw [moduleSearch, moduleSearch, flatMap_congr₂ hclasses, map_congr₂ hfunctions,
    searchText_congr (h := m.toHeader) hid]
  rfl

/-! ## faults -/

theorem classFault?_congr {c c' : ClassDoc} (h : SameClass s ds c c') :
    Site.classFault? s c = Site.classFault? (s.describedBy ds) c' := by
  obtain ⟨ms, rfl, hms⟩ := h
  have hany : List.Forall₂ (fun f f' : MethodDoc => (s.editable || s.shows f.id) =
    (s.editable || s.shows f'.id))
      c.methods ms := hms.imp fun f f' hf => by rw [show f'.id = f.id from hf.1]
  rw [Site.classFault?, Site.classFault?, any_congr₂ hany]
  rfl

theorem pageFault?_congr {m m' : ModuleDoc} (h : SameModule s ds m m') :
    Site.pageFault? s m = Site.pageFault? (s.describedBy ds) m' := by
  obtain ⟨cs, fs, rfl, hcs, hfs⟩ := h
  have hclasses : List.Forall₂ (fun c c' => Site.classFault? s c =
    Site.classFault? (s.describedBy ds) c')
      (m.classes.filter fun c => s.shows c.id) (cs.filter fun c => s.shows c.id) :=
    (forall₂_filter hcs).imp fun c c' hc => classFault?_congr hc.1
  have hany : List.Forall₂ (fun f f' : FunctionDoc => s.shows f.id = s.shows f'.id)
    m.functions fs :=
    hfs.imp fun f f' hf => by rw [show f'.id = f.id from hf.1]
  rw [Site.pageFault?, Site.pageFault?, findSome?_congr₂ hclasses, any_congr₂ hany]
  rfl

/-! ## the index page -/

theorem childItem_of_excludes {sel : Selections} {h : Heading} (hout : sel.Excludes h.id)
    (path : String) : childItem false sel path h = Markup.gap 28 ++ Markup.gap 28 := by
  unfold childItem
  dsimp only
  rw [hout.includes_eq]
  rfl

theorem entryItem_of_excludes {sel : Selections} {e : Entry} (hout : sel.Excludes e.heading.id) :
    entryItem false sel e = Markup.gap 16 ++ Markup.gap 16 := by
  unfold entryItem
  dsimp only
  rw [hout.includes_eq]
  rfl

theorem children_congr {m m' : ModuleDoc} (h : SameModule s ds m m') (cs : ContentsSettings)
    (path : String) :
    List.Forall₂ (fun e e' : Entry => childItem false s.selections path e.heading =
        childItem false s.selections path e'.heading)
      (moduleEntry cs m).children (moduleEntry cs m').children := by
  obtain ⟨classes, functions, rfl, hcs, hfs⟩ := h
  have hclass {c c' : ClassDoc} (hc : Alike s ds (fun c => c.id) (SameClass s ds) c c') :
      childItem false s.selections path (classEntry cs m.id c).heading =
        childItem false s.selections path (classEntry cs m.id c').heading := by
    obtain ⟨hid, hout | ⟨⟨ms, rfl, _⟩, _⟩⟩ := hc
    · rw [childItem_of_excludes (h := (classEntry cs m.id c).heading) hout,
        childItem_of_excludes (h := (classEntry cs m.id c').heading) (hout.of_eq hid)]
    · rfl
  have hfunction {f f' : FunctionDoc} (hf : Alike s ds (fun f => f.id) Eq f f') :
      childItem false s.selections path (functionEntry m.id f).heading =
        childItem false s.selections path (functionEntry m.id f').heading := by
    obtain ⟨hid, hout | ⟨rfl, _⟩⟩ := hf
    · rw [childItem_of_excludes (h := (functionEntry m.id f).heading) hout,
        childItem_of_excludes (h := (functionEntry m.id f').heading) (hout.of_eq hid)]
    · rfl
  refine List.rel_append (List.rel_append ?_ ?_) (List.forall₂_same.mpr fun _ _ => rfl)
  · rw [List.forall₂_map_left_iff, List.forall₂_map_right_iff]
    exact hcs.imp fun c c' hc => hclass hc
  · rw [List.forall₂_map_left_iff, List.forall₂_map_right_iff]
    exact hfs.imp fun f f' hf => hfunction hf

theorem entryItem_congr {m m' : ModuleDoc} (h : Alike s ds (fun m => m.id) (SameModule s ds) m m')
    (cs : ContentsSettings) :
    entryItem false s.selections (moduleEntry cs m) = entryItem false s.selections
      (moduleEntry cs m') := by
  obtain ⟨hid, hout | ⟨hsame, _⟩⟩ := h
  · rw [entryItem_of_excludes (e := moduleEntry cs m) hout,
      entryItem_of_excludes (e := moduleEntry cs m') (hout.of_eq hid)]
  · have hchildren := children_congr hsame cs (moduleEntry cs m).heading.path
    have hheading : (moduleEntry cs m').heading = (moduleEntry cs m).heading := by
      obtain ⟨_, _, rfl, _⟩ := hsame
      rfl
    unfold entryItem
    dsimp only
    rw [hheading, isEmpty_congr₂ hchildren, each_congr₂ hchildren]

/-! ## sites -/

namespace Site

def madeFrom (site : Site) (cs : ContentsSettings) (ms : List ModuleDoc)
    (ds : Ordered String Data) : Site :=
  { site with settings := site.settings.describedBy ds, modules := ms, entries := contents cs ms }

variable {site : Site} {cs : ContentsSettings} {ms : List ModuleDoc} {ds : Ordered String Data}

theorem shownModules_alike (cs : ContentsSettings)
    (h : ModulesAlike site.settings ds site.modules ms) :
    List.Forall₂ (fun m m' => SameModule site.settings ds m m' ∧ Agrees site.settings ds m.id)
      site.shownModules (site.madeFrom cs ms ds).shownModules := forall₂_filter h

theorem firstFault?_congr {s : SiteSettings} {ms ms' : List ModuleDoc}
    (h : List.Forall₂ (fun m m' => SameModule s ds m m' ∧ Agrees s ds m.id) ms ms') :
    firstFault? s ms = firstFault? (s.describedBy ds) ms' := by
  induction h with
  | nil => rfl
  | cons hm _ ih => rw [firstFault?, firstFault?, pageFault?_congr hm.1, ih]

theorem fault?_congr (h : ModulesAlike site.settings ds site.modules ms) :
    site.fault? = (site.madeFrom cs ms ds).fault? := by
  have hshown := shownModules_alike cs h
  rw [fault?, fault?, foundModules_eq, foundModules_eq, firstFault?_congr hshown,
    isEmpty_congr₂ hshown, hshown.length_eq]
  rfl

section

variable (hentries : site.entries = contents cs site.modules)
  (hedit : site.settings.editable = false)
include hentries hedit

theorem indexText_congr (h : ModulesAlike site.settings ds site.modules ms) :
    site.indexText = (site.madeFrom cs ms ds).indexText := by
  have hitems : List.Forall₂ (fun e e' => entryItem false site.settings.selections e =
      entryItem false site.settings.selections e') (contents cs site.modules) (contents cs ms) := by
    rw [contents, contents, List.forall₂_map_left_iff, List.forall₂_map_right_iff]
    exact h.imp fun m m' hm => entryItem_congr hm cs
  have heach := each_congr₂ hitems 12
  have hlength : (contents cs site.modules).length = (contents cs ms).length := hitems.length_eq
  show (indexPage site.settings.title site.stamp site.settings.editable site.entries
    site.settings.selections).render =
      (indexPage site.settings.title site.stamp site.settings.editable
      (contents cs ms) site.settings.selections).render
  rw [hentries, hedit]
  unfold indexPage
  rw [hlength, heach]

theorem files_congr (h : ModulesAlike site.settings ds site.modules ms) :
    site.files = (site.madeFrom cs ms ds).files := by
  have hshown := shownModules_alike cs h
  have hpages : List.Forall₂ (fun m m' : ModuleDoc =>
      (["modules", pageFile m.path], (modulePage site.settings m).render) =
        (["modules", pageFile m'.path], (modulePage (site.settings.describedBy ds) m').render))
      site.shownModules (site.madeFrom cs ms ds).shownModules := by
    refine hshown.imp fun m m' hm => ?_
    rw [modulePage_congr hedit hm]
    obtain ⟨⟨_, _, rfl, _⟩, _⟩ := hm
    rfl
  have hsearch : searchIndex site.settings site.modules =
      searchIndex (site.settings.describedBy ds) ms := by
    rw [searchIndex_eq, searchIndex_eq]
    exact flatMap_congr₂ (hshown.imp fun m m' hm => moduleSearch_congr hm)
  rw [files, files, map_congr₂ hpages, indexText_congr hentries hedit h, hsearch]
  rfl

theorem write_congr (h : ModulesAlike site.settings ds site.modules ms) (out : Path) :
    site.write out = (site.madeFrom cs ms ds).write out := by
  rw [write, write, fault?_congr h, files_congr hentries hedit h]

end

end Site

/-! ## one excluded component -/

/-- Two lists of modules differ only in one excluded component and in what belongs to it; the last
argument is all other components. -/
inductive Differ (s : Selections) : List ModuleDoc → List ModuleDoc → List Component → Prop
  | module {before after : List ModuleDoc} {m m' : ModuleDoc} (hid : m'.id = m.id)
      (hout : s.Excludes m.id) :
      Differ s (before ++ m :: after) (before ++ m' :: after)
      ((before ++ after).flatMap ModuleDoc.components)
  | classDef {before after : List ModuleDoc} {m : ModuleDoc} {cs cs' : List ClassDoc}
      {c c' : ClassDoc} (hid : c'.id = c.id) (hout : s.Excludes c.id) :
      Differ s (before ++ { m with classes := cs ++ c :: cs' } :: after)
        (before ++ { m with classes := cs ++ c' :: cs' } :: after)
        ((before ++ { m with classes := cs ++ cs' } :: after).flatMap ModuleDoc.components)
  | method {before after : List ModuleDoc} {m : ModuleDoc} {cs cs' : List ClassDoc} {c : ClassDoc}
      {fs fs' : List MethodDoc} {f f' : MethodDoc} (hid : f'.id = f.id) (hout : s.Excludes f.id) :
      Differ s
        (before ++ { m with classes := cs ++ { c with methods := fs ++ f :: fs' } :: cs' } :: after)
        (before ++ { m with classes := cs ++ { c with methods := fs ++ f' :: fs' } :: cs' } :: after)
        ((before ++ { m with classes := cs ++ { c with methods := fs ++ fs' } :: cs' } ::
          after).flatMap ModuleDoc.components)
  | function {before after : List ModuleDoc} {m : ModuleDoc} {fs fs' : List FunctionDoc}
      {f f' : FunctionDoc} (hid : f'.id = f.id) (hout : s.Excludes f.id) :
      Differ s (before ++ { m with functions := fs ++ f :: fs' } :: after)
        (before ++ { m with functions := fs ++ f' :: fs' } :: after)
        ((before ++ { m with functions := fs ++ fs' } :: after).flatMap ModuleDoc.components)

def AllAgree (s : SiteSettings) (ds : Ordered String Data) (ks : List Component) : Prop :=
  ∀ k ∈ ks, Agrees s ds k.id

theorem allAgree_append {ks ks' : List Component} :
    AllAgree s ds (ks ++ ks') ↔ AllAgree s ds ks ∧ AllAgree s ds ks' := List.forall_mem_append

theorem allAgree_flatMap {α : Type} {f : α → List Component} {xs : List α} :
    AllAgree s ds (xs.flatMap f) ↔ ∀ x ∈ xs, AllAgree s ds (f x) := by
  simp only [AllAgree, List.mem_flatMap]
  exact ⟨fun h x hx k hk => h k ⟨x, hx, hk⟩, fun h k ⟨x, hx, hk⟩ => h x hx k hk⟩

theorem allAgree_class {c : ClassDoc} (h : AllAgree s ds c.components) :
    Agrees s ds c.id ∧ AllAgree s ds (c.methods.map .method) := by
  rw [ClassDoc.components, allAgree_append, allAgree_append] at h
  exact ⟨h.1.1 _ List.mem_cons_self, fun k hk => h.1.1 k (List.mem_cons_of_mem _ hk)⟩

theorem allAgree_module {m : ModuleDoc} (h : AllAgree s ds m.components) :
    Agrees s ds m.id ∧ (∀ c ∈ m.classes, AllAgree s ds c.components) ∧
      AllAgree s ds (m.functions.map .function) := by
  rw [ModuleDoc.components, allAgree_append, allAgree_append] at h
  exact ⟨h.1.1 _ List.mem_cons_self,
    allAgree_flatMap.mp fun k hk => h.1.1 k (List.mem_cons_of_mem _ hk), h.1.2⟩

theorem methodsAlike_refl {fs : List MethodDoc} (h : AllAgree s ds (fs.map .method)) :
    MethodsAlike s ds fs fs :=
  List.forall₂_same.mpr fun _ hf => ⟨rfl, .inr ⟨rfl, h _ (List.mem_map_of_mem hf)⟩⟩

theorem functionsAlike_refl {fs : List FunctionDoc} (h : AllAgree s ds (fs.map .function)) :
    FunctionsAlike s ds fs fs :=
  List.forall₂_same.mpr fun _ hf => ⟨rfl, .inr ⟨rfl, h _ (List.mem_map_of_mem hf)⟩⟩

theorem classesAlike_refl {cs : List ClassDoc} (h : ∀ c ∈ cs, AllAgree s ds c.components) :
    ClassesAlike s ds cs cs := by
  refine List.forall₂_same.mpr fun c hc => ?_
  obtain ⟨hid, hmethods⟩ := allAgree_class (h c hc)
  exact ⟨rfl, .inr ⟨⟨c.methods, rfl, methodsAlike_refl hmethods⟩, hid⟩⟩

theorem modulesAlike_refl {ms : List ModuleDoc} (h : ∀ m ∈ ms, AllAgree s ds m.components) :
    ModulesAlike s ds ms ms := by
  refine List.forall₂_same.mpr fun m hm => ?_
  obtain ⟨hid, hclasses, hfunctions⟩ := allAgree_module (h m hm)
  exact ⟨rfl, .inr ⟨⟨m.classes, m.functions, rfl, classesAlike_refl hclasses,
    functionsAlike_refl hfunctions⟩, hid⟩⟩

theorem forall₂_hole {α : Type} {R : α → α → Prop} {xs ys : List α} {x y : α}
    (hxs : List.Forall₂ R xs xs) (hxy : R x y) (hys : List.Forall₂ R ys ys) :
    List.Forall₂ R (xs ++ x :: ys) (xs ++ y :: ys) :=
  List.rel_append hxs (.cons hxy hys)

theorem modulesAlike_hole {before after : List ModuleDoc} {m m' rest : ModuleDoc}
    (hrest : AllAgree s ds ((before ++ rest :: after).flatMap ModuleDoc.components))
    (h : AllAgree s ds rest.components → Alike s ds (fun m => m.id) (SameModule s ds) m m') :
    ModulesAlike s ds (before ++ m :: after) (before ++ m' :: after) := by
  rw [List.flatMap_append, List.flatMap_cons, allAgree_append, allAgree_append, allAgree_flatMap,
    allAgree_flatMap] at hrest
  exact forall₂_hole (modulesAlike_refl hrest.1) (h hrest.2.1) (modulesAlike_refl hrest.2.2)

/-- Lists that differ in one excluded component are alike, if the other components are described
alike. -/
theorem Differ.modulesAlike {ms ms' : List ModuleDoc} {rest : List Component}
    (h : Differ s.selections ms ms' rest) (hrest : AllAgree s ds rest) :
    ModulesAlike s ds ms ms' := by
  cases h with
  | module hid hout =>
    rw [List.flatMap_append, allAgree_append, allAgree_flatMap, allAgree_flatMap] at hrest
    exact forall₂_hole (modulesAlike_refl hrest.1) ⟨hid, .inl hout⟩ (modulesAlike_refl hrest.2)
  | @classDef _ _ m cs cs' c c' hid hout =>
    refine modulesAlike_hole hrest fun hmodule => ?_
    obtain ⟨hm, hclasses, hfunctions⟩ := allAgree_module hmodule
    rw [List.forall_mem_append] at hclasses
    have hcs : ClassesAlike s ds (cs ++ c :: cs') (cs ++ c' :: cs') :=
      forall₂_hole (classesAlike_refl hclasses.1) ⟨hid, .inl hout⟩ (classesAlike_refl hclasses.2)
    exact ⟨rfl, .inr ⟨⟨cs ++ c' :: cs', m.functions, rfl, hcs, functionsAlike_refl hfunctions⟩, hm⟩⟩
  | @method _ _ m cs cs' c fs fs' f f' hid hout =>
    refine modulesAlike_hole hrest fun hmodule => ?_
    obtain ⟨hm, hclasses, hfunctions⟩ := allAgree_module hmodule
    rw [List.forall_mem_append, List.forall_mem_cons] at hclasses
    obtain ⟨hc, hmethods⟩ := allAgree_class hclasses.2.1
    rw [List.map_append, allAgree_append] at hmethods
    have hfs : MethodsAlike s ds (fs ++ f :: fs') (fs ++ f' :: fs') :=
      forall₂_hole (methodsAlike_refl hmethods.1) ⟨hid, .inl hout⟩ (methodsAlike_refl hmethods.2)
    have hcs : ClassesAlike s ds (cs ++ { c with methods := fs ++ f :: fs' } :: cs')
        (cs ++ { c with methods := fs ++ f' :: fs' } :: cs') :=
      forall₂_hole (classesAlike_refl hclasses.1) ⟨rfl, .inr ⟨⟨fs ++ f' :: fs', rfl, hfs⟩, hc⟩⟩
        (classesAlike_refl hclasses.2.2)
    exact ⟨rfl, .inr ⟨⟨_, m.functions, rfl, hcs, functionsAlike_refl hfunctions⟩, hm⟩⟩
  | @function _ _ m fs fs' f f' hid hout =>
    refine modulesAlike_hole hrest fun hmodule => ?_
    obtain ⟨hm, hclasses, hfunctions⟩ := allAgree_module hmodule
    rw [List.map_append, allAgree_append] at hfunctions
    have hfs : FunctionsAlike s ds (fs ++ f :: fs') (fs ++ f' :: fs') :=
      forall₂_hole (functionsAlike_refl hfunctions.1) ⟨hid, .inl hout⟩
        (functionsAlike_refl hfunctions.2)
    exact ⟨rfl, .inr ⟨⟨m.classes, fs ++ f' :: fs', rfl, classesAlike_refl hclasses, hfs⟩, hm⟩⟩

namespace Site

/-- On a site that is not for editing, an excluded component does not show: whatever it holds, and
however it and what belongs to it is described, the site is made of the same files and is written
alike. -/
theorem excluded_component_hidden {site : Site} {cs : ContentsSettings}
    (hentries : site.entries = contents cs site.modules) (hedit : site.settings.editable = false)
    {ms : List ModuleDoc} {rest : List Component}
    (hdiffer : Differ site.settings.selections site.modules ms rest) {ds : Ordered String Data}
    (hrest : ∀ k ∈ rest, site.settings.descriptions.get? k.id = ds.get? k.id) :
    site.files = (site.madeFrom cs ms ds).files ∧
      ∀ (out : Path) (d : Disk), (site.write out).run d =
        ((site.madeFrom cs ms ds).write out).run d := by
  have halike := hdiffer.modulesAlike hrest
  refine ⟨files_congr hentries hedit halike, fun out d => ?_⟩
  rw [← write_congr hentries hedit halike]

/-! ## a site with an excluded method -/

def bareMethod (id name path : String) : MethodDoc :=
  { bareFunction id name path false with
    isStatic := false, isClassMethod := false, isProperty := false, parent := none }

def stackModules (push : MethodDoc) : List ModuleDoc :=
  [] ++ { bareModule "m1" "stack" "stack.py" [] [] [] with
    classes := [] ++ { bareClass "c1" "Stack" "stack.py" [] with
      methods := [] ++ push :: [bareMethod "f2" "pop" "stack.py"] } :: [] } :: []

/-- a site on which one of the methods is excluded, although there is a description of it -/
def stackSite : Site where
  settings :=
    ⟨"API", true, false, [(.str "m1", .default (.str "m1") true),
      (.str "c1", .default (.str "c1") true), (.str "f1", .default (.str "f1") false),
    (.str "f2", .default (.str "f2") true)], [("f1", .str "adds"), ("f2", .str "removes")], false⟩
  style := none
  stamp := ""
  modules := stackModules (bareMethod "f1" "push" "stack.py")
  entries := contents .full (stackModules (bareMethod "f1" "push" "stack.py"))

def secretMethod : MethodDoc := { bareMethod "f1" "secret" "stack.py" with isAsync := true }

def secretDescriptions : Ordered String Data := [("f2", .str "removes"), ("f1", .str "hides")]

theorem stackSite_method_hidden :
    stackSite.settings.selections.Excludes "f1" ∧
    stackSite.files =
      (stackSite.madeFrom .full (stackModules secretMethod) secretDescriptions).files := by
  have hout : stackSite.settings.selections.Excludes "f1" := ⟨.default (.str "f1") false, rfl, rfl⟩
  have hdiffer : Differ stackSite.settings.selections stackSite.modules
    (stackModules secretMethod) _ :=
    .method rfl hout
  refine ⟨hout, (excluded_component_hidden rfl rfl hdiffer ?_).1⟩
  -- the module, the class and the other method
  intro k hk
  rcases List.mem_cons.mp hk with rfl | hk
  · rfl
  rcases List.mem_cons.mp hk with rfl | hk
  · rfl
  rcases List.mem_cons.mp hk with rfl | hk
  · rfl
  · cases hk

end Site

end Apidoc
