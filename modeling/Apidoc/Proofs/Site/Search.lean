import Apidoc.Proofs.Data.Json
import Apidoc.Proofs.Site.Links

/-!
# The search index and the pages

* `url_of_mem_moduleSearch`   an entry of the search index names the page of its module, or an
                              anchor there;
* `map_moduleSearch`          on a site that is not for editing, the entries of a module are the
                              module and the components on its page, in order;
* `parse_searchText`          the index is read back from its text;
* `searchRow?`                the type and the url that an object of the index gives;
* `Site.documented`           what a page documents, as it is read from its text.
-/

namespace Apidoc

open Html

/-! ## cutting urls -/

/-- the page that a url names, and the fragment if there is one -/
def Html.cutUrl (url : String) : String × Option String :=
  match url.toList.dropWhile (· != '#') with
  | [] => (url, none)
  | _ :: a => (String.ofList (url.toList.takeWhile (· != '#')), some (String.ofList a))

theorem ne_hash {p : String} (h : '#' ∉ p.toList) : ∀ c ∈ p.toList, (c != '#') = true := by
  intro c hc
  rw [bne_iff_ne]
  rintro rfl
  exact h hc

theorem cutUrl_page {p : String} (h : '#' ∉ p.toList) : cutUrl p = (p, none) := by
  have hdrop : (p.toList ++ []).dropWhile (· != '#') = [] :=
    List.dropWhile_append_of_pos (ne_hash h)
  rw [List.append_nil] at hdrop
  rw [cutUrl, hdrop]

theorem cutUrl_fragment {p : String} (h : '#' ∉ p.toList) (a : String) :
    cutUrl (p ++ "#" ++ a) = (p, some a) := by
  have hlist : (p ++ "#" ++ a).toList = p.toList ++ '#' :: a.toList := by
    simp [String.toList_append]
  rw [cutUrl, hlist, List.dropWhile_append_of_pos (ne_hash h),
    List.takeWhile_append_of_pos (ne_hash h), List.dropWhile_cons_of_neg (by decide),
    List.takeWhile_cons_of_neg (by decide)]
  simp only [List.append_nil, String.ofList_toList]

/-! ## entries and blocks -/

section

variable {s : SiteSettings} {m : ModuleDoc}

/-- An entry of the search index names the page of its module, or an anchor there. -/
theorem url_of_mem_moduleSearch {e : SearchEntry} (he : e ∈ moduleSearch s s.shows m) :
    e.url = pageUrl m.path ∨ ∃ a ∈ (s.pageBlocks m).map (·.2), e.url = pageUrl m.path ++
      "#" ++ a := by
  simp only [moduleSearch, classSearch, List.mem_append, List.mem_cons, List.mem_flatMap,
    List.mem_map, List.mem_filter] at he
  rcases he with (rfl | ⟨c, ⟨hc, hs⟩, rfl | ⟨f, ⟨hf, hsf⟩, rfl⟩⟩) | ⟨f, ⟨hf, hs⟩, rfl⟩
  · exact .inl rfl
  · exact .inr ⟨_, SiteSettings.mem_pageBlocks.mpr (.inl ⟨rfl, c, hc, hs, rfl⟩), rfl⟩
  · refine .inr ⟨methodAnchor c f, ?_, rfl⟩
    rw [methodAnchor_eq]
    have hlists : s.lists f = true := by rw [SiteSettings.lists, hsf, Bool.or_true]
    exact SiteSettings.mem_pageBlocks.mpr (.inr (.inl ⟨rfl, c, hc, hs, f, hf, hlists, rfl⟩))
  · exact .inr ⟨_, SiteSettings.mem_pageBlocks.mpr (.inr (.inr ⟨rfl, f, hf, hs, rfl⟩)), rfl⟩

/-- On a site that is not for editing, the entries of a module are the module and the components on
its page, in order. -/
theorem map_moduleSearch (hedit : s.editable = false) :
    (moduleSearch s s.shows m).map (fun e => (e.kind, e.url)) =
      (.module, pageUrl m.path) :: (s.pageBlocks m).map
        fun b => (b.1, pageUrl m.path ++ "#" ++ b.2) := by
  have hlists : s.lists = fun f => s.shows f.id := by
    funext f
    rw [SiteSettings.lists, hedit, Bool.false_or]
  have hclass (c : ClassDoc) : (classSearch s s.shows m c).map (fun e => (e.kind, e.url)) =
      (s.classBlocks c).map fun b => (b.1, pageUrl m.path ++ "#" ++ b.2) := by
    rw [classSearch, SiteSettings.classBlocks, hlists, List.map_cons, List.map_cons, List.map_map,
      List.map_map]
    rfl
  rw [moduleSearch, SiteSettings.pageBlocks, List.map_append, List.map_cons, List.map_map,
    List.map_append, List.map_map, List.map_flatMap, List.map_flatMap]
  simp only [hclass]
  rfl

end

/-! ## reading the index back -/

theorem description_of_mem {s : SiteSettings} {ms : List ModuleDoc} {e : SearchEntry}
    (he : e ∈ searchIndex s ms) : ∃ h, e.description = s.searchText h := by
  obtain ⟨m, _, he⟩ := List.mem_flatMap.mp he
  simp only [moduleSearch, classSearch, List.mem_append, List.mem_cons, List.mem_flatMap,
    List.mem_map] at he
  rcases he with (rfl | ⟨c, _, rfl | ⟨f, _, rfl⟩⟩) | ⟨f, _, rfl⟩
  · exact ⟨_, rfl⟩
  · exact ⟨_, rfl⟩
  · exact ⟨_, rfl⟩
  · exact ⟨_, rfl⟩

theorem plain_toData {e : SearchEntry} (h : Json.Plain e.description) : Json.Plain e.toData := by
  have hkeys : ["type", "name", "path", "description", "url"].Nodup := by decide
  refine .object ?_ hkeys
  simp only [List.forall_mem_cons]
  exact ⟨.str _, .str _, .str _, h, .str _, fun f hf => absurd hf List.not_mem_nil⟩

theorem parse_searchText {s : SiteSettings} (h : ∀ p ∈ s.descriptions, Json.Plain p.2)
    (ms : List ModuleDoc) :
    Json.parse (searchText (searchIndex s ms)) =
      .ok (.list ((searchIndex s ms).map SearchEntry.toData)) := by
  have hdescription (header : Header) : Json.Plain (s.searchText header) := by
    rw [SiteSettings.searchText, SiteSettings.description?, Ordered.get?]
    cases hfind : s.descriptions.find? (fun p => p.1 == header.id) with
    | none => exact .str _
    | some p => exact h p (List.mem_of_find?_eq_some hfind)
  have hplain : Json.Plain (.list ((searchIndex s ms).map SearchEntry.toData)) := by
    refine .list ?_
    rw [List.forall_mem_map]
    intro e he
    obtain ⟨header, hheader⟩ := description_of_mem he
    exact plain_toData (hheader ▸ hdescription header)
  exact (Json.parse_render hplain).2

def Data.text? (key : String) : Data → Option String
  | .map fields =>
    match Ordered.get? fields (.str key) with
    | some (.str s) => some s
    | _ => none
  | _ => none

/-- the type and the url that an object of the search index gives -/
def searchRow? (v : Data) : Option (String × String) :=
  do return (← v.text? "type", ← v.text? "url")

theorem searchRow?_toData (e : SearchEntry) : searchRow? e.toData = some (e.kind.text, e.url) := rfl

namespace Site

variable {site : Site} {out : Path} {d d' : Disk}

/-- the module of a page and the components that the page documents, each with the url that leads to
it -/
def documented (name text : String) : List (Kind × String) :=
  (.module, "modules/" ++ name) ::
    (blocks text).map fun b => (b.1, "modules/" ++ name ++ (b.2.map ("#" ++ ·)).getD "")

theorem documented_modulePage (s : SiteSettings) (m : ModuleDoc) :
    documented (pageFile m.path) (modulePage s m).render =
      (.module, pageUrl m.path) :: (s.pageBlocks m).map
        fun b => (b.1, pageUrl m.path ++ "#" ++ b.2) := by
  rw [documented, blocks_modulePage, List.map_map, pageUrl]
  refine congrArg _ (List.map_congr_left fun b _ => ?_)
  rw [String.append_assoc]
  rfl

/-- Whatever descriptions there are, as long as they can be read back, the text of the search index
is a list of objects.  Their urls lead to pages written with it and to anchors there.  On a site
that is not for editing their types and urls are, in order, those of the pages and of what each page
documents. -/
theorem search_matches_pages (hrun : (site.write out).run d = (.ok (), d'))
    (hnames : site.NamesApart) (hplain : ∀ p ∈ site.settings.descriptions, Json.Plain p.2) :
    ∃ text items rows, d'.read (out.below ["search.json"]) = .ok (.text text) ∧
      Json.parse text = .ok (.list items) ∧ items.map searchRow? = rows.map some ∧
      (∀ row ∈ rows, site.Leads out d' row.2) ∧
      (site.PlainPaths → ∀ row ∈ rows, ∃ name page, (name, page) ∈ site.pages ∧
        (cutUrl row.2).1 = "modules/" ++ name ∧ ∀ a ∈ (cutUrl row.2).2, a ∈ anchors page) ∧
      (site.settings.editable = false →
        rows = site.pages.flatMap fun p => (documented p.1 p.2).map fun x => (x.1.text, x.2)) := by
  have hmodule {e : SearchEntry} (he : e ∈ searchIndex site.settings site.modules) :
      ∃ m ∈ site.shownModules, e.url = pageUrl m.path ∨
        ∃ a ∈ anchors (modulePage site.settings m).render, e.url = pageUrl m.path ++ "#" ++ a := by
    rw [searchIndex_eq] at he
    obtain ⟨m, hm, he⟩ := List.mem_flatMap.mp he
    refine ⟨m, hm, (url_of_mem_moduleSearch he).imp id ?_⟩
    rintro ⟨a, ha, hurl⟩
    rw [anchors_modulePage]
    exact ⟨a, List.mem_append_right _ ha, hurl⟩
  have hrows : ((searchIndex site.settings site.modules).map SearchEntry.toData).map searchRow? =
      ((searchIndex site.settings site.modules).map fun e => (e.kind.text, e.url)).map some := by
    rw [List.map_map, List.map_map]
    exact List.map_congr_left fun e _ => searchRow?_toData e
  refine ⟨_, _, _, read_file hrun hnames site.search_mem_files, parse_searchText hplain _,
    hrows, ?_, ?_, ?_⟩
  · rw [List.forall_mem_map]
    exact fun e he => (leads_iff hrun hnames).mpr (hmodule he)
  · intro hpaths
    rw [List.forall_mem_map]
    intro e he
    obtain ⟨m, hm, hurl⟩ := hmodule he
    have hhash := not_mem_pageUrl (hpaths m (mem_shownModules.mp hm).1)
    refine ⟨_, _, page_mem hm, ?_⟩
    rcases hurl with hurl | ⟨a, ha, hurl⟩
    · rw [hurl, cutUrl_page hhash]
      exact ⟨rfl, fun a ha => absurd ha (Option.not_mem_none a)⟩
    · rw [hurl, cutUrl_fragment hhash]
      exact ⟨rfl, fun b hb => Option.mem_some.mp hb ▸ ha⟩
  · intro hedit
    have hsplit : ((searchIndex site.settings site.modules).map fun e => (e.kind.text, e.url)) =
        ((searchIndex site.settings site.modules).map fun e => (e.kind, e.url)).map fun x =>
          (x.1.text, x.2) := by
      rw [List.map_map]
      rfl
    rw [hsplit, pages_eq, List.flatMap_map, searchIndex_eq, List.map_flatMap, List.map_flatMap]
    simp only [map_moduleSearch hedit, documented_modulePage]
    rfl

theorem shapesSite_search :
    (made shapesSite).1 = .ok () ∧ shapesSite.NamesApart ∧
    (∀ p ∈ shapesSite.settings.descriptions, Json.Plain p.2) ∧
    ∃ text items rows, (made shapesSite).2.read (docs.below ["search.json"]) = .ok (.text text) ∧
      Json.parse text = .ok (.list items) ∧ items.map searchRow? = rows.map some ∧
      (∀ row ∈ rows, shapesSite.Leads docs (made shapesSite).2 row.2) ∧
      rows = [("module", "modules/pkg_shapes.html"),
        ("class", "modules/pkg_shapes.html#class-Circle"),
        ("function", "modules/pkg_shapes.html#function-area"),
          ("module", "modules/tools.html")] := by
  have hrun : (made shapesSite).1 = .ok () := by rfl
  have hnames : shapesSite.NamesApart := by
    unfold NamesApart
    decide
  have hplain : ∀ p ∈ shapesSite.settings.descriptions, Json.Plain p.2 :=
    fun p hp => absurd hp List.not_mem_nil
  have hpages : (shapesSite.pages.flatMap fun p => (documented p.1 p.2).map fun x =>
    (x.1.text, x.2)) =
      [("module", "modules/pkg_shapes.html"), ("class", "modules/pkg_shapes.html#class-Circle"),
        ("function", "modules/pkg_shapes.html#function-area"),
          ("module", "modules/tools.html")] := by
    rw [pages_eq, List.flatMap_map]
    simp only [documented_modulePage]
    decide
  obtain ⟨text, items, rows, hread, hparse, hrows, hleads, _, hentries⟩ :=
    search_matches_pages (made_eq hrun) hnames hplain
  exact ⟨hrun, hnames, hplain, text, items, rows, hread, hparse, hrows, hleads, hpages ▸
    hentries rfl⟩

end Site

end Apidoc
