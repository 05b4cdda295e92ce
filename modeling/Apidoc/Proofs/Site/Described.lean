import Apidoc.Proofs.Data.Json.Apart
import Apidoc.Proofs.Page.Described
import Apidoc.Proofs.Site.PageNames
import Apidoc.Proofs.Site.Rewriting
import Apidoc.Proofs.Site.Search

/-!
# Sites with and without descriptions

* `Matches.eq_of_searchText`   the descriptions in a search index are told from its text;
* `searchIndex_muted_iff`      a search index is that of the site without descriptions, if they
                               repeat the documentation;
* `Site.Unseen`                no description is found on a page or in the search index;
* `Site.write_muted_iff`       so it is if the site without descriptions makes the same disk.
-/

namespace Apidoc

open Json (Writable Prints)

/-! ## descriptions in a search index -/

namespace SearchEntry

def withDescription (e : SearchEntry) (v : Data) : SearchEntry := { e with description := v }

theorem exists_frame (e : SearchEntry) (level : Nat) : ∃ front back : List Char, ∀ v, Writable v →
    Prints (Json.write level (e.withDescription v).toData)
      (front ++ ((Json.write (level + 1) v).text.toList ++ back)) := by
  have hbefore : ∀ f ∈ [("type", Data.str e.kind.text), ("name", .str e.name),
    ("path", .str e.path)],
      Writable f.2 := by
    simp [Writable.str]
  have hafter : ∀ f ∈ [("url", Data.str e.url)], Writable f.2 := by simp [Writable.str]
  exact Json.exists_frame hbefore hafter "description" level

/-- The same entries but for their descriptions, which are texts on one side. -/
inductive Matches : List SearchEntry → List SearchEntry → Prop
  | nil : Matches [] []
  | cons (e : SearchEntry) {v : Data} (t : String) {es fs : List SearchEntry} (hv : Writable v)
      (rest : Matches es fs) :
      Matches (e.withDescription v :: es) (e.withDescription (.str t) :: fs)

theorem Matches.append {es fs es' fs' : List SearchEntry} (h : Matches es fs)
    (h' : Matches es' fs') : Matches (es ++ es') (fs ++ fs') := by
  induction h with
  | nil => exact h'
  | cons e t hv _ ih => exact .cons e t hv ih

theorem Matches.flatMap {α : Type} {xs : List α} {f f' : α → List SearchEntry}
    (h : ∀ x ∈ xs, Matches (f x) (f' x)) : Matches (xs.flatMap f) (xs.flatMap f') := by
  induction xs with
  | nil => exact .nil
  | cons x xs ih =>
    rw [List.forall_mem_cons] at h
    exact h.1.append (ih h.2)

theorem Matches.map {α : Type} {xs : List α} {f f' : α → SearchEntry}
    (h : ∀ x ∈ xs, Matches [f x] [f' x]) : Matches (xs.map f) (xs.map f') := by
  rw [List.map_eq_flatMap, List.map_eq_flatMap]
  exact .flatMap h

theorem Matches.eq_of_descriptions {es fs : List SearchEntry} (h : Matches es fs)
    (hdescriptions : es.map (·.description) = fs.map (·.description)) : es = fs := by
  induction h with
  | nil => rfl
  | cons e t hv _ ih =>
    obtain ⟨hv, hrest⟩ := List.cons.inj hdescriptions
    rw [ih hrest]
    exact congrArg (fun v => e.withDescription v :: _) hv

theorem Matches.writable {es fs : List SearchEntry} (h : Matches es fs) :
    (∀ e ∈ es, Writable e.description) ∧ ∀ e ∈ fs, Writable e.description := by
  induction h with
  | nil => exact ⟨nofun, nofun⟩
  | cons e t hv _ ih => exact ⟨List.forall_mem_cons.mpr ⟨hv, ih.1⟩, List.forall_mem_cons.mpr
      ⟨.str t, ih.2⟩⟩

/-- Where the same is written, there are the same entries. -/
theorem Matches.eq_of_items {es fs : List SearchEntry} (h : Matches es fs) {level : Nat}
    {first : Bool} (htext : (Json.writeItems level first (es.map toData)).text.toList =
      (Json.writeItems level first (fs.map toData)).text.toList) : es = fs := by
  induction h generalizing first with
  | nil => rfl
  | @cons e v t es fs hv _ ih =>
    obtain ⟨front, back, hframe⟩ := e.exists_frame level
    rw [List.map_cons, List.map_cons, Json.toList_writeItems (hframe v hv),
      Json.toList_writeItems (hframe _ (.str t))]
      at htext
    -- up to the description both are the same, and the description ends by itself
    simp only [List.append_assoc] at htext
    have htext := List.append_cancel_left (List.append_cancel_left htext)
    obtain ⟨rfl, hrest⟩ := Json.str_of_write hv htext
    rw [ih (List.append_cancel_left hrest)]

theorem writable_toData {e : SearchEntry} (h : Writable e.description) : Writable e.toData := by
  refine .object ?_
  simp only [List.forall_mem_cons]
  exact ⟨.str _, .str _, .str _, h, .str _, nofun⟩

/-- The descriptions in a search index are told from its text. -/
theorem Matches.eq_of_searchText {es fs : List SearchEntry} (h : Matches es fs)
    (htext : searchText es = searchText fs) : es = fs := by
  have hdata {es : List SearchEntry} (hes : ∀ e ∈ es, Writable e.description) : ∀ v ∈ es.map toData,
      Writable v := by
    rw [List.forall_mem_map]
    exact fun e he => writable_toData (hes e he)
  obtain ⟨hes, hfs⟩ := h.writable
  cases h with
  | nil => rfl
  | cons e t hv rest =>
    exact (Matches.cons e t hv rest).eq_of_items
      (Json.items_of_render (hdata hes) (hdata hfs) nofun nofun htext)

end SearchEntry

namespace SiteSettings

variable {s : SiteSettings} {m : ModuleDoc}

theorem repeats_iff {h : Header} : s.Repeats h ↔ s.searchText h = s.muted.searchText h := by
  rw [Repeats, searchText, searchText, description?_muted, Option.getD_none]
  cases s.description? h.id <;> simp

def searched (s : SiteSettings) (m : ModuleDoc) : List Header :=
  m.toHeader ::
    (m.classes.filter fun c => s.shows c.id).flatMap (fun c =>
      c.toHeader :: (c.methods.filter fun f => s.shows f.id).map (·.toHeader)) ++
    (m.functions.filter fun f => s.shows f.id).map (·.toHeader)

theorem descriptions_moduleSearch (s : SiteSettings) (m : ModuleDoc) :
    (moduleSearch s s.shows m).map (·.description) = (s.searched m).map s.searchText := by
  simp only [moduleSearch, searched, classSearch, List.map_append, List.map_cons, List.map_flatMap,
    List.map_map]
  rfl

open SearchEntry (Matches)

theorem matches_moduleSearch (h : ∀ header, Writable (s.searchText header)) (m : ModuleDoc) :
    Matches (moduleSearch s s.shows m) (moduleSearch s.muted s.muted.shows m) := by
  have hcons {e e' : SearchEntry} {es es' : List SearchEntry} (header : Header)
      (he : e'.withDescription (s.searchText header) = e)
      (he' : e'.description = s.muted.searchText header)
      (hrest : Matches es es') : Matches (e :: es) (e' :: es') := by
    have hmatches := Matches.cons e' (header.docs.getD "") (h header) hrest
    rwa [he, show Data.str (header.docs.getD "") = e'.description from he'.symm] at hmatches
  refine .append (hcons m.toHeader rfl rfl (.flatMap fun c _ => ?_))
    (.map fun f _ => hcons f.toHeader rfl rfl .nil)
  exact hcons c.toHeader rfl rfl (.map fun f _ => hcons f.toHeader rfl rfl .nil)

theorem matches_searchIndex (h : ∀ header, Writable (s.searchText header)) (ms : List ModuleDoc) :
    Matches (searchIndex s ms) (searchIndex s.muted ms) := by
  rw [searchIndex_eq, searchIndex_eq]
  exact .flatMap fun m _ => matches_moduleSearch h m

/-- A search index is that of the site without descriptions, if they repeat the documentation. -/
theorem searchIndex_muted_iff (h : ∀ header, Writable (s.searchText header)) (ms : List ModuleDoc) :
    Apidoc.searchText (searchIndex s ms) = Apidoc.searchText (searchIndex s.muted ms) ↔
      ∀ m ∈ ms.filter fun m => s.shows m.id, ∀ header ∈ s.searched m, s.Repeats header := by
  have hmatches := matches_searchIndex h ms
  have hdescriptions (s' : SiteSettings) : (searchIndex s' ms).map (·.description) =
      ((ms.filter fun m => s'.shows m.id).flatMap s'.searched).map s'.searchText := by
    rw [searchIndex_eq, List.map_flatMap, List.map_flatMap]
    simp only [descriptions_moduleSearch]
  have hsame : (searchIndex s ms).map (·.description) = (searchIndex s.muted ms).map
    (·.description) ↔
      ∀ m ∈ ms.filter fun m => s.shows m.id, ∀ header ∈ s.searched m, s.Repeats header := by
    rw [hdescriptions, hdescriptions, ← List.forall_mem_flatMap]
    simp only [repeats_iff]
    exact List.map_inj_left
  rw [← hsame]
  constructor
  · intro htext
    rw [hmatches.eq_of_searchText htext]
  · intro hequal
    rw [hmatches.eq_of_descriptions hequal]

end SiteSettings

namespace Site

variable {site : Site} {out : Path} {d d₁ d₂ : Disk}

def muted (site : Site) : Site := { site with settings := site.settings.muted }

@[simp] theorem settings_muted : site.muted.settings = site.settings.muted := rfl

@[simp] theorem shownModules_muted : site.muted.shownModules = site.shownModules := rfl

theorem fault?_muted : site.muted.fault? = none := rfl

theorem names_muted : site.muted.files.map (·.1) = site.files.map (·.1) := by
  simp only [files, List.map_append, List.map_map, shownModules_muted]
  rfl

/-- A module whose page is not written over. -/
def IsLast (site : Site) (m : ModuleDoc) : Prop :=
  ∃ before after, site.shownModules = before ++ m :: after ∧ ∀ n ∈ after, pageFile n.path ≠
    pageFile m.path

/-- No description is found on a page or in the search index. -/
structure Unseen (site : Site) : Prop where
  whole : site.fault? = none
  search : ∀ m ∈ site.shownModules, ∀ h ∈ site.settings.searched m, site.settings.Repeats h
  pages : ∀ m, site.IsLast m → ∀ f ∈ site.settings.blockDocs m, site.settings.isDescribed f = false

theorem repeatsHeaders_of_searched {s : SiteSettings} {m : ModuleDoc}
    (h : ∀ header ∈ s.searched m, s.Repeats header) : s.RepeatsHeaders m := by
  simp only [SiteSettings.searched, List.forall_mem_append, List.forall_mem_cons,
    List.forall_mem_flatMap] at h
  exact ⟨h.1.1, fun c hc hshown => (h.1.2 c (List.mem_filter.mpr ⟨hc, hshown⟩)).1⟩

theorem IsLast.mem {m : ModuleDoc} (h : site.IsLast m) : m ∈ site.shownModules := by
  obtain ⟨before, after, hms, -⟩ := h
  rw [hms]
  exact List.mem_append_right _ List.mem_cons_self

/-- No description is stored for anything on the site. -/
def isUndescribed (site : Site) : Bool :=
  site.fault?.isNone && site.shownModules.all fun m =>
    ((site.settings.searched m).all fun h => (site.settings.description? h.id).isNone) &&
      (site.settings.blockDocs m).all fun f => (site.settings.description? f.id).isNone

theorem unseen_of_isUndescribed {site : Site} (h : site.isUndescribed = true) : site.Unseen := by
  simp only [isUndescribed, Bool.and_eq_true, Option.isNone_iff_eq_none, List.all_eq_true] at h
  refine ⟨h.1, fun m hm header hheader v hv => ?_, fun m hm f hf => ?_⟩
  · rw [(h.2 m hm).1 header hheader] at hv
    cases hv
  · rw [SiteSettings.isDescribed, (h.2 m hm.mem).2 f hf]
    rfl

theorem read_search (h : (site.write out).run d = (.ok (), d₁)) :
    d₁.read (out.below ["search.json"]) =
    .ok (.text (searchText (searchIndex site.settings site.modules))) := by
  obtain ⟨e, -, -, hfiles⟩ := write_cases h
  exact read_of_writeFiles_last (fun _ => descends_files) nofun hfiles

theorem files_append (site : Site) :
    site.files = [(["style.css"], site.styleText), (["script.js"], pageScript),
    (["index.html"], site.indexText)] ++ (site.shownModules.map site.pageOf ++
      [(["search.json"], searchText (searchIndex site.settings site.modules))]) :=
        List.append_assoc ..

/-- Files in which nothing is found are those of the site without descriptions, in the end. -/
theorem Unseen.endsAlike (hdescriptions : ∀ header, Writable (site.settings.searchText header))
    (h : site.Unseen) : Disk.EndsAlike site.muted.files site.files := by
  have hsearch := (SiteSettings.searchIndex_muted_iff hdescriptions site.modules).mpr h.search
  have hpages : Disk.EndsAlike
      (site.shownModules.map site.muted.pageOf ++
        [(["search.json"], searchText (searchIndex site.settings.muted site.modules))])
      (site.shownModules.map site.pageOf ++
        [(["search.json"], searchText (searchIndex site.settings site.modules))]) := by
    rw [hsearch]
    refine .of_last (fun m _ => rfl) (fun before m after hms hlast => ?_) (.refl _)
    have hm : site.IsLast m :=
      ⟨before, after, hms, fun n hn heq => hlast n hn (congrArg (["modules", ·]) heq)⟩
    simp only [pageOf, settings_muted]
    rw [modulePage_muted (repeatsHeaders_of_searched (h.search m hm.mem)) (h.pages m hm)]
  have hstyle : site.muted.styleText = site.styleText := rfl
  have hindex : site.muted.indexText = site.indexText := rfl
  rw [files_append, files_append, hstyle, hindex]
  exact hpages.append_left _

theorem unseen_of_reads (hdescriptions : ∀ header, Writable (site.settings.searchText header))
    (hmuted : (site.muted.write out).run d = (.ok (), d₁))
    (hrun : (site.write out).run d = (.ok (), d₂))
    (hreads : ∀ f ∈ site.files, d₂.read (out.below f.1) = d₁.read (out.below f.1)) :
    site.Unseen := by
  have htext {name : List String} {t t' : String} (hname : name ∈ site.files.map (·.1))
      (ht : d₂.read (out.below name) = .ok (.text t))
      (ht' : d₁.read (out.below name) = .ok (.text t')) : t = t' := by
    obtain ⟨f, hf, rfl⟩ := List.mem_map.mp hname
    rw [hreads f hf, ht'] at ht
    cases ht
    rfl
  have hsearch : ∀ m ∈ site.shownModules, ∀ h ∈ site.settings.searched m,
      site.settings.Repeats h := by
    refine (SiteSettings.searchIndex_muted_iff hdescriptions site.modules).mp ?_
    refine htext ?_ (read_search hrun) (read_search hmuted)
    simp [files]
  obtain ⟨e, -, hfault, -⟩ := write_cases hrun
  refine ⟨hfault, hsearch, fun m hm => ?_⟩
  rw [← render_muted_iff (repeatsHeaders_of_searched (hsearch m hm.mem))]
  obtain ⟨before, after, hms, hlast⟩ := hm
  refine htext ?_ (read_last_page hrun hms hlast) (read_last_page hmuted hms hlast)
  rw [files_eq hms]
  simp [pageOf]

theorem write_muted_iff (hdescriptions : ∀ header, Writable (site.settings.searchText header))
    (hmuted : (site.muted.write out).run d = (.ok (), d₁)) :
    (site.write out).run d = (.ok (), d₁) ↔ site.Unseen :=
  ⟨fun hrun => unseen_of_reads hdescriptions hmuted hrun fun _ _ => rfl,
    fun h => write_of_alike (h.endsAlike hdescriptions) h.whole hmuted⟩

end Site

end Apidoc
