import Apidoc.Contents.Build
import Apidoc.Proofs.Page.Index
import Apidoc.Proofs.Site.Files
import Apidoc.Proofs.Text.Cut
import Mathlib.Data.List.Basic
import Mathlib.Data.List.Nodup

/-!
# Where the links of a site lead

A link names a page that the run has written, or such a page and an anchor on it (`Site.Leads`).

* `Kind.anchor_inj`          an anchor tells the kind and the name of what it marks;
* `SiteSettings.mem_pageBlocks`   the anchors of a page are those of the components shown on it;
* `Site.mem_links`           the links of the index page, module by module;
* `Site.Connected`           what has to hold of the modules for all of them to lead somewhere.
-/

namespace Apidoc

open Html

/-! ## urls and anchors -/

theorem url_ne_fragment {p : String} (hp : '#' ∉ p.toList) (q a : String) : p ≠ q ++ "#" ++ a := by
  rintro rfl
  apply hp
  rw [String.toList_append, String.toList_append]
  exact List.mem_append_left _ (List.mem_append_right _ (List.mem_singleton.mpr rfl))

theorem not_mem_pageUrl {path : String} (h : '#' ∉ path.toList) : '#' ∉ (pageUrl path).toList := by
  have hname : '#' ∉ (pageName path).toList := by
    rw [pageName, String.toList_ofList]
    intro hmem
    have hmem : '#' ∈ Text.substitute (fun c => c == '/' || c == '\\') '_' path.toList := by
      unfold dropSuffix at hmem
      split at hmem
      · exact List.mem_of_mem_take hmem
      · exact hmem
    obtain ⟨c, hc, he⟩ := List.mem_map.mp hmem
    split at he
    · exact absurd he (by decide)
    · exact h (he ▸ hc)
  rw [pageUrl, pageFile, String.toList_append, String.toList_append, List.mem_append,
    List.mem_append]
  rintro (hmem | hmem | hmem)
  · exact absurd hmem (by decide)
  · exact hname hmem
  · exact absurd hmem (by decide)

theorem Kind.text_inj {k k' : Kind} (h : k.text = k'.text) : k = k' := by
  revert h
  cases k <;> cases k' <;> decide

/-- An anchor tells the kind and the name of what it marks. -/
theorem Kind.anchor_inj {k k' : Kind} {x y : String}
    (h : k.text ++ "-" ++ x = k'.text ++ "-" ++ y) : k = k' ∧ x = y := by
  have hdash (k : Kind) : '-' ∉ k.text.toList := by cases k <;> decide
  obtain ⟨hk, hxy⟩ := cut_inj rfl (hdash k) (hdash k') h
  exact ⟨Kind.text_inj hk, hxy⟩

theorem classAnchor_eq (c : ClassDoc) : classAnchor c = Kind.classDef.text ++ "-" ++ c.name := rfl

theorem methodAnchor_eq (c : ClassDoc) (f : MethodDoc) :
    methodAnchor c f = Kind.method.text ++ "-" ++ (c.name ++ "-" ++ f.name) := by
  rw [← String.append_assoc, ← String.append_assoc]
  rfl

theorem functionAnchor_eq (f : FunctionDoc) :
    functionAnchor f = Kind.function.text ++ "-" ++ f.name := rfl

theorem SiteSettings.mem_pageBlocks {s : SiteSettings} {m : ModuleDoc} {k : Kind} {x : String} :
    k.text ++ "-" ++ x ∈ (s.pageBlocks m).map (·.2) ↔
      (k = .classDef ∧ ∃ c ∈ m.classes, s.shows c.id ∧ c.name = x) ∨
      (k = .method ∧ ∃ c ∈ m.classes, s.shows c.id ∧ ∃ f ∈ c.methods, s.lists f ∧
        c.name ++ "-" ++ f.name = x) ∨
      (k = .function ∧ ∃ f ∈ m.functions, s.shows f.id ∧ f.name = x) := by
  have hanchor {k' : Kind} {y : String} :
      k'.text ++ "-" ++ y = k.text ++ "-" ++ x ↔ k = k' ∧ y = x :=
    ⟨fun h => ⟨(Kind.anchor_inj h).1.symm, (Kind.anchor_inj h).2⟩, by rintro ⟨rfl, rfl⟩; rfl⟩
  simp only [pageBlocks, classBlocks, shownClasses, shownFunctions, List.map_append,
    List.map_flatMap, List.map_cons, List.map_map, Function.comp_def, List.mem_append,
    List.mem_flatMap, List.mem_cons, List.mem_map, List.mem_filter, classAnchor_eq, methodAnchor_eq,
    functionAnchor_eq, hanchor]
  constructor
  · rintro (⟨c, ⟨hc, hs⟩, h | ⟨f, ⟨hf, hl⟩, hk, hx⟩⟩ | ⟨f, ⟨hf, hs⟩, hk, hx⟩)
    · obtain ⟨hk, hx⟩ := hanchor.mp h.symm
      exact .inl ⟨hk, c, hc, hs, hx⟩
    · exact .inr (.inl ⟨hk, c, hc, hs, f, hf, hl, hx⟩)
    · exact .inr (.inr ⟨hk, f, hf, hs, hx⟩)
  · rintro (⟨hk, c, hc, hs, hx⟩ | ⟨hk, c, hc, hs, f, hf, hl, hx⟩ | ⟨hk, f, hf, hs, hx⟩)
    · exact .inl ⟨c, ⟨hc, hs⟩, .inl (hanchor.mpr ⟨hk, hx⟩).symm⟩
    · exact .inl ⟨c, ⟨hc, hs⟩, .inr ⟨f, ⟨hf, hl⟩, hk, hx⟩⟩
    · exact .inr ⟨f, ⟨hf, hs⟩, hk, hx⟩

/-! ## where a link leads -/

namespace Site

variable {site : Site} {out : Path} {d d' : Disk}

/-- A url names a page of the site that is on the disk, or such a page and an anchor on it. -/
def Leads (site : Site) (out : Path) (d : Disk) (url : String) : Prop :=
  ∃ name text, (name, text) ∈ site.pages ∧ d.read (out.below ["modules", name]) = .ok (.text text) ∧
    (url = "modules/" ++ name ∨ ∃ a ∈ anchors text, url = "modules/" ++ name ++ "#" ++ a)

theorem leads_iff (hrun : (site.write out).run d = (.ok (), d')) (hnames : site.NamesApart)
    {url : String} :
    site.Leads out d' url ↔ ∃ m ∈ site.shownModules, url = pageUrl m.path ∨
      ∃ a ∈ anchors (modulePage site.settings m).render, url = pageUrl m.path ++ "#" ++ a := by
  constructor
  · rintro ⟨name, text, hpage, _, hurl⟩
    rw [pages_eq] at hpage
    obtain ⟨m, hm, he⟩ := List.mem_map.mp hpage
    obtain ⟨rfl, rfl⟩ := Prod.mk.inj he
    exact ⟨m, hm, hurl⟩
  · rintro ⟨m, hm, hurl⟩
    exact ⟨_, _, page_mem hm, read_page hrun hnames (page_mem hm), hurl⟩

/-- No module has a path in which a fragment would start. -/
def PlainPaths (site : Site) : Prop := ∀ m ∈ site.modules, '#' ∉ m.path.toList

theorem eq_of_pageUrl_eq (hnames : site.NamesApart) {m m' : ModuleDoc} (hm : m ∈ site.modules)
    (hm' : m' ∈ site.modules) (h : pageUrl m.path = pageUrl m'.path) : m = m' :=
  List.inj_on_of_nodup_map hnames hm hm' (String.append_right_inj _ |>.mp h)

theorem mem_shownModules {m : ModuleDoc} :
    m ∈ site.shownModules ↔ m ∈ site.modules ∧ site.settings.shows m.id = true := List.mem_filter

section

variable (hrun : (site.write out).run d = (.ok (), d')) (hnames : site.NamesApart)
include hrun hnames

theorem leads_page_iff (hplain : site.PlainPaths) {m : ModuleDoc} (hm : m ∈ site.modules) :
    site.Leads out d' (pageUrl m.path) ↔ site.settings.shows m.id = true := by
  rw [leads_iff hrun hnames]
  constructor
  · rintro ⟨m', hm', hurl | ⟨a, _, hurl⟩⟩
    · rw [mem_shownModules] at hm'
      exact eq_of_pageUrl_eq hnames hm hm'.1 hurl ▸ hm'.2
    · exact absurd hurl (url_ne_fragment (not_mem_pageUrl (hplain m hm)) _ _)
  · intro hs
    exact ⟨m, mem_shownModules.mpr ⟨hm, hs⟩, .inl rfl⟩

theorem leads_fragment_iff (hplain : site.PlainPaths) {m : ModuleDoc} (hm : m ∈ site.modules)
    {a : String} :
    site.Leads out d' (pageUrl m.path ++ "#" ++ a) ↔
      site.settings.shows m.id = true ∧ a ∈ anchors (modulePage site.settings m).render := by
  rw [leads_iff hrun hnames]
  constructor
  · rintro ⟨m', hm', hurl | ⟨b, hb, hurl⟩⟩
    · rw [mem_shownModules] at hm'
      exact absurd hurl.symm (url_ne_fragment (not_mem_pageUrl (hplain m' hm'.1)) _ _)
    · rw [mem_shownModules] at hm'
      obtain ⟨hpage, rfl⟩ :=
        cut_inj rfl (not_mem_pageUrl (hplain m hm)) (not_mem_pageUrl (hplain m' hm'.1)) hurl
      obtain rfl := eq_of_pageUrl_eq hnames hm hm'.1 hpage
      exact ⟨hm'.2, hb⟩
  · rintro ⟨hs, ha⟩
    exact ⟨m, mem_shownModules.mpr ⟨hm, hs⟩, .inr ⟨a, ha, rfl⟩⟩

end

/-! ## the links of the index page -/

theorem anchors_of_not_editable {s : SiteSettings} (h : s.editable = false) (m : ModuleDoc) :
    anchors (modulePage s m).render = (s.pageBlocks m).map (·.2) := by
  rw [anchors_modulePage, h]
  rfl

/-- the classes, functions and constants of a module that the index page lists, each with the name
under which it is listed -/
def listed (s : Selections) (m : ModuleDoc) : List (Kind × String) :=
  ((moduleEntry .full m).children.filter fun e => s.includes e.id).map fun e =>
    (e.heading.kind, titleName e.heading.title)

theorem mem_links (hentries : site.entries = contents .full site.modules)
    (hedit : site.settings.editable = false) {url : String} :
    url ∈ links site.indexText ↔ ∃ m ∈ site.modules, site.settings.selections.includes m.id = true ∧
      (url = pageUrl m.path ∨ ∃ l ∈ listed site.settings.selections m,
        url = pageUrl m.path ++ "#" ++ (l.1.text ++ "-" ++ l.2)) := by
  have hlinks (m : ModuleDoc) : url ∈ entryLinks false site.settings.selections
    (moduleEntry .full m) ↔
      site.settings.selections.includes m.id = true ∧
      (url = pageUrl m.path ∨ ∃ l ∈ listed site.settings.selections m,
        url = pageUrl m.path ++ "#" ++ (l.1.text ++ "-" ++ l.2)) := by
    have hurl (e : Entry) : entryUrl (moduleEntry .full m).heading.path e.heading =
        pageUrl m.path ++ "#" ++ (e.heading.kind.text ++ "-" ++ titleName e.heading.title) := by
      rw [entryUrl, ← String.append_assoc, ← String.append_assoc]
      rfl
    unfold entryLinks
    rw [List.mem_ite_nil_right]
    refine and_congr .rfl ?_
    simp only [List.mem_cons, List.mem_map, listed, hurl]
    refine or_congr .rfl ?_
    constructor
    · rintro ⟨e, he, rfl⟩
      exact ⟨_, ⟨e, he, rfl⟩, rfl⟩
    · rintro ⟨_, ⟨e, he, rfl⟩, rfl⟩
      exact ⟨e, he, rfl⟩
  rw [indexText, links_indexPage, hentries, hedit, contents, List.mem_flatMap]
  simp only [List.mem_map, exists_exists_and_eq_and, hlinks]

/-- What the index page lists of a module is on the page of the module, under the name by which it
is listed.  A constant has no anchor. -/
def ListsAnchors (s : SiteSettings) (m : ModuleDoc) : Prop :=
  (∀ c ∈ m.classes, s.selections.includes c.id = true →
    ∃ c' ∈ m.classes, s.shows c'.id = true ∧ c'.name = titleName (classTitle c)) ∧
  (∀ f ∈ m.functions, s.selections.includes f.id = true →
    ∃ f' ∈ m.functions, s.shows f'.id = true ∧ f'.name = titleName (functionTitle f)) ∧
  ∀ k ∈ m.constants, isSignificant k.name = true → s.selections.includes k.id = false

/-- Every module that the index page lists has a page, with all that is listed below it. -/
def Connected (site : Site) : Prop :=
  ∀ m ∈ site.modules, site.settings.selections.includes m.id = true →
    site.settings.shows m.id = true ∧ ListsAnchors site.settings m

theorem listsAnchors_iff (s : SiteSettings) (m : ModuleDoc) : ListsAnchors s m ↔
    ∀ l ∈ listed s.selections m, l.1.text ++ "-" ++ l.2 ∈ (s.pageBlocks m).map (·.2) := by
  have hclass (c : ClassDoc) : Kind.classDef.text ++ "-" ++ titleName (classTitle c) ∈
      (s.pageBlocks m).map (·.2) ↔
        ∃ c' ∈ m.classes, s.shows c'.id = true ∧ c'.name = titleName (classTitle c) := by
    simp [SiteSettings.mem_pageBlocks]
  have hfunction (f : FunctionDoc) : Kind.function.text ++ "-" ++ titleName (functionTitle f) ∈
      (s.pageBlocks m).map (·.2) ↔
        ∃ f' ∈ m.functions, s.shows f'.id = true ∧ f'.name = titleName (functionTitle f) := by
    simp [SiteSettings.mem_pageBlocks]
  have hconstant (x : String) : Kind.constant.text ++ "-" ++ x ∉ (s.pageBlocks m).map (·.2) := by
    simp [SiteSettings.mem_pageBlocks]
  have hchildren : (moduleEntry .full m).children = m.classes.map (classEntry .full m.id) ++
      m.functions.map (functionEntry m.id) ++
        (m.constants.filter fun p => isSignificant p.name).map (constantEntry m.id) := rfl
  rw [listed, List.forall_mem_map, hchildren]
  simp only [List.mem_filter, and_imp, List.forall_mem_append, List.forall_mem_map]
  refine Iff.trans ?_ and_assoc.symm
  refine and_congr ?_ (and_congr ?_ ?_)
  · exact forall₂_congr fun c _ => imp_congr .rfl (hclass c).symm
  · exact forall₂_congr fun f _ => imp_congr .rfl (hfunction f).symm
  · refine forall₃_congr fun k _ _ => ?_
    rw [← Bool.not_eq_true]
    exact imp_congr .rfl (iff_of_false id (hconstant _))

section

variable (hrun : (site.write out).run d = (.ok (), d')) (hnames : site.NamesApart)
  (hentries : site.entries = contents .full site.modules) (hedit : site.settings.editable = false)
include hrun hnames hentries hedit

theorem leads_of_connected (hconn : site.Connected) {url : String}
    (hurl : url ∈ links site.indexText) : site.Leads out d' url := by
  obtain ⟨m, hm, hincl, hurl⟩ := (mem_links hentries hedit).mp hurl
  obtain ⟨hshows, hlists⟩ := hconn m hm hincl
  refine (leads_iff hrun hnames).mpr ⟨m, mem_shownModules.mpr ⟨hm, hshows⟩, ?_⟩
  refine hurl.imp id ?_
  rintro ⟨l, hl, rfl⟩
  exact ⟨_, anchors_of_not_editable hedit m ▸ (listsAnchors_iff _ _).mp hlists l hl, rfl⟩

theorem connected_of_leads (hplain : site.PlainPaths)
    (hall : ∀ url ∈ links site.indexText, site.Leads out d' url) : site.Connected := by
  intro m hm hincl
  have hleads {url : String} (h : url = pageUrl m.path ∨ ∃ l ∈ listed site.settings.selections m,
      url = pageUrl m.path ++ "#" ++ (l.1.text ++ "-" ++ l.2)) : site.Leads out d' url :=
    hall url ((mem_links hentries hedit).mpr ⟨m, hm, hincl, h⟩)
  refine ⟨(leads_page_iff hrun hnames hplain hm).mp (hleads (.inl rfl)), ?_⟩
  rw [listsAnchors_iff]
  intro l hl
  rw [← anchors_of_not_editable hedit]
  exact ((leads_fragment_iff hrun hnames hplain hm).mp (hleads (.inr ⟨l, hl, rfl⟩))).2

/-- The links of the index page of a site that is not for editing lead somewhere if what is listed
is also shown, and, where no path of a module contains the mark of a fragment, only then. -/
theorem index_links_lead_iff : ∃ index, d'.read (out.below ["index.html"]) = .ok (.text index) ∧
    (site.Connected → ∀ url ∈ links index, site.Leads out d' url) ∧
    (site.PlainPaths → (∀ url ∈ links index, site.Leads out d' url) → site.Connected) :=
  ⟨site.indexText, read_file hrun hnames site.index_mem_files,
    fun hconn _ => leads_of_connected hrun hnames hentries hedit hconn,
    connected_of_leads hrun hnames hentries hedit⟩

end

/-! ## two sites -/

def bareHeader (id name path : String) : Header := ⟨id, name, path, 1, none, none, none⟩

def bareFunction (id name path : String) (isAsync : Bool) : FunctionDoc :=
  { bareHeader id name path with parameters := [], returns := none, isAsync, decorators := [] }

def bareClass (id name path : String) (bases : List String) : ClassDoc :=
  { bareHeader id name path with
    bases, methods := [], properties := [], classVariables := [], decorators := [] }

def bareConstant (id name path : String) : PropertyDoc :=
  { bareHeader id name path with hint := none, default := none, isClassVariable := false }

def bareModule (id name path : String) (classes : List ClassDoc) (functions : List FunctionDoc)
    (constants : List PropertyDoc) : ModuleDoc :=
  { bareHeader id name path with classes, functions, constants, imports := [], exports := none }

def ofModules (ms : List ModuleDoc) (selections : Selections) : Site where
  settings := ⟨"API", false, false, selections, [], false⟩
  style := none
  stamp := ""
  modules := ms
  entries := contents .full ms

/-- a module with a class that has a base, and one whose function is excluded -/
def shapesSite : Site :=
  ofModules
    [bareModule "m1" "shapes" "pkg/shapes.py" [bareClass "c1" "Circle" "pkg/shapes.py" ["Shape"]]
      [bareFunction "f1" "area" "pkg/shapes.py" false] [],
     bareModule "m2" "tools" "tools.py" [] [bareFunction "f2" "trace" "tools.py" true] []]
    [(.str "m1", .default (.str "m1") true), (.str "c1", .default (.str "c1") true),
      (.str "f1", .default (.str "f1") true),
     (.str "m2", .default (.str "m2") true), (.str "f2", .default (.str "f2") false)]

def docs : Path := ⟨.here, ["docs"]⟩

def made (site : Site) : Except Fault Unit × Disk := (site.write docs).run (.empty "/work")

theorem made_eq {site : Site} (h : (made site).1 = .ok ()) :
    (site.write docs).run (.empty "/work") = (.ok (), (made site).2) := Prod.ext h rfl

theorem shapesSite_links_lead :
    shapesSite.Connected ∧ shapesSite.PlainPaths ∧
    ∃ index, (made shapesSite).2.read (docs.below ["index.html"]) = .ok (.text index) ∧
      ∀ url ∈ links index, shapesSite.Leads docs (made shapesSite).2 url := by
  have hconn : shapesSite.Connected := by
    unfold Connected ListsAnchors
    decide
  have hplain : shapesSite.PlainPaths := by
    unfold PlainPaths
    decide
  obtain ⟨index, hread, hlead, _⟩ :=
    index_links_lead_iff (made_eq (by rfl : (made shapesSite).1 = .ok ()))
    (by unfold NamesApart; decide) rfl rfl
  exact ⟨hconn, hplain, index, hread, hlead hconn⟩

def netModule : ModuleDoc :=
  bareModule "m1" "net" "net.py" [] [bareFunction "f1" "fetch" "net.py" true]
    [bareConstant "k1" "LIMIT" "net.py"]

def toolsModule : ModuleDoc := bareModule "m2" "tools" "tools.py" [] [] []

/-- two modules, one of which no selection names -/
def netSite : Site :=
  ofModules [netModule, toolsModule]
    [(.str "m1", .default (.str "m1") true), (.str "f1", .default (.str "f1") true),
      (.str "k1", .default (.str "k1") true)]

/-- A function that is asynchronous, a constant, and a module that no selection names are listed
under urls that lead nowhere. -/
theorem netSite_links_astray :
    (made netSite).1 = .ok () ∧ netSite.NamesApart ∧
    ∃ index, (made netSite).2.read (docs.below ["index.html"]) = .ok (.text index) ∧
      ∀ url ∈ ["modules/net.html#function-async fetch", "modules/net.html#constant-LIMIT",
        "modules/tools.html"], url ∈ links index ∧ ¬ netSite.Leads docs (made netSite).2 url := by
  have hrun : (made netSite).1 = .ok () := by rfl
  have hnames : netSite.NamesApart := by
    unfold NamesApart
    decide
  have hplain : netSite.PlainPaths := by
    unfold PlainPaths
    decide
  have hnet : netModule ∈ netSite.modules := List.mem_cons_self
  have htools : toolsModule ∈ netSite.modules := List.mem_cons_of_mem _ List.mem_cons_self
  have hlinks : links netSite.indexText =
      ["modules/net.html", "modules/net.html#function-async fetch",
        "modules/net.html#constant-LIMIT",
       "modules/tools.html"] := by
    rw [indexText, links_indexPage]
    decide
  have hfragment {a : String} (ha : a ∉ (netSite.settings.pageBlocks netModule).map (·.2)) :
      ¬ netSite.Leads docs (made netSite).2 (pageUrl netModule.path ++ "#" ++ a) := by
    rw [leads_fragment_iff (made_eq hrun) hnames hplain hnet, anchors_of_not_editable rfl]
    exact fun h => ha h.2
  refine ⟨hrun, hnames, netSite.indexText, read_file (made_eq hrun) hnames netSite.index_mem_files,
    ?_⟩
  rw [hlinks]
  simp only [List.forall_mem_cons]
  refine ⟨⟨by decide, ?_⟩, ⟨by decide, ?_⟩, ⟨by decide, ?_⟩, by simp⟩
  · exact hfragment (show "function-async fetch" ∉ _ by decide)
  · exact hfragment (show "constant-LIMIT" ∉ _ by decide)
  · refine (leads_page_iff (made_eq hrun) hnames hplain htools).not.mpr ?_
    decide

end Site

end Apidoc
