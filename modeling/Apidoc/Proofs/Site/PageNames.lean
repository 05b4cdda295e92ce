import Apidoc.Proofs.Repository.Survey
import Apidoc.Proofs.Site.Links
import Mathlib.Data.List.Forall2

/-!
# Which modules share a page

The name of a page is made from the path of its module by putting an underscore for each slash and
backslash, so what tells two paths apart may be lost.

* `Resembles`                 paths that differ only in which of these characters stands at a place;
* `pageFile_eq_iff`           these are the paths that give the same name;
* `Site.read_last_page`       of the modules that share a page the last one is found on it;
* `Site.survey_pages_iff`     the modules of a survey have a page each, if no two of them resemble
                              each other.
-/

namespace Apidoc

/-! ## names of pages -/

/-- the characters between the words of a path, and the one that stands for them in the name of a
page -/
def separators : List Char := ['/', '\\', '_']

/-- Two paths that are the same but for which of the separators stands at a place. -/
def Resembles (a b : String) : Prop :=
  List.Forall₂ (fun x y => x = y ∨ x ∈ separators ∧ y ∈ separators) a.toList b.toList

instance (a b : String) : Decidable (Resembles a b) :=
  inferInstanceAs (Decidable (List.Forall₂ _ a.toList b.toList))

theorem Resembles.refl (a : String) : Resembles a a := List.forall₂_same.mpr fun _ _ => .inl rfl

def pageChar (c : Char) : Char := if c == '/' || c == '\\' then '_' else c

theorem pageChar_eq_underscore {c : Char} : pageChar c = '_' ↔ c ∈ separators := by
  simp only [separators, pageChar, List.mem_cons, List.not_mem_nil, or_false, Bool.or_eq_true,
    beq_iff_eq]
  split
  · rename_i h
    exact iff_of_true rfl (h.imp_right .inl)
  · simp_all

theorem pageChar_of_not_mem {c : Char} (h : c ∉ separators) : pageChar c = c := by
  simp_all [separators, pageChar]

theorem pageChar_eq_iff {x y : Char} :
    pageChar x = pageChar y ↔ x = y ∨ x ∈ separators ∧ y ∈ separators := by
  constructor
  · intro h
    by_cases hx : x ∈ separators
    · rw [pageChar_eq_underscore.mpr hx, eq_comm, pageChar_eq_underscore] at h
      exact .inr ⟨hx, h⟩
    · have hy : y ∉ separators := by rwa [← pageChar_eq_underscore, ← h, pageChar_eq_underscore]
      rw [pageChar_of_not_mem hx, pageChar_of_not_mem hy] at h
      exact .inl h
  · rintro (rfl | ⟨hx, hy⟩)
    · rfl
    · rw [pageChar_eq_underscore.mpr hx, pageChar_eq_underscore.mpr hy]

theorem resembles_iff {a b : String} :
    Resembles a b ↔ a.toList.map pageChar = b.toList.map pageChar := by
  rw [← List.forall₂_eq_eq_eq, List.forall₂_map_left_iff, List.forall₂_map_right_iff]
  simp only [pageChar_eq_iff, Resembles]

theorem dropSuffix_append (cs : List Char) : dropSuffix (cs ++ ".py".toList) = cs := by
  have hend : Text.isSuffix ".py".toList (cs ++ ".py".toList) = true := by
    simp [Text.isSuffix, Text.dropWord?]
  rw [dropSuffix, if_pos hend]
  simp

/-- A path with the ending is the name of its page and the ending, up to separators. -/
theorem pageName_append {path : String} (h : ".py".toList <:+ path.toList) :
    (pageName path).toList ++ ".py".toList = path.toList.map pageChar := by
  obtain ⟨cs, hcs⟩ := h
  have hmap : path.toList.map pageChar = cs.map pageChar ++ ".py".toList := by
    rw [← hcs, List.map_append]
    rfl
  have hname : (pageName path).toList = dropSuffix (path.toList.map pageChar) := by
    rw [pageName, String.toList_ofList]
    rfl
  rw [hname, hmap, dropSuffix_append]

theorem pageFile_eq_iff {a b : String} (ha : ".py".toList <:+ a.toList)
    (hb : ".py".toList <:+ b.toList) : pageFile a = pageFile b ↔ Resembles a b := by
  rw [resembles_iff, ← pageName_append ha, ← pageName_append hb, List.append_cancel_right_eq,
    String.toList_inj, pageFile, pageFile, String.append_left_inj]

/-! ## pages that are written over -/

namespace Site

variable {site : Site} {out : Path} {d d' : Disk}

theorem shownModules_eq (h : site.settings.selections = []) : site.shownModules = site.modules :=
  List.filter_eq_self.mpr fun m _ => by rw [SiteSettings.shows, h]; rfl

def pageOf (site : Site) (m : ModuleDoc) : List String × String :=
  (["modules", pageFile m.path], (modulePage site.settings m).render)

theorem files_eq {before after : List ModuleDoc} {m : ModuleDoc}
    (hm : site.shownModules = before ++ m :: after) :
    site.files = ([(["style.css"], site.styleText), (["script.js"], pageScript),
      (["index.html"], site.indexText)] ++
      before.map site.pageOf) ++ site.pageOf m :: (after.map site.pageOf ++
      [(["search.json"], searchText (searchIndex site.settings site.modules))]) := by
  change _ ++ site.shownModules.map site.pageOf ++ _ = _
  simp only [hm, List.map_append, List.map_cons, List.append_assoc, List.cons_append]

theorem read_last_page (h : (site.write out).run d = (.ok (), d')) {before after : List ModuleDoc}
    {m : ModuleDoc} (hm : site.shownModules = before ++ m :: after)
    (hlast : ∀ n ∈ after, pageFile n.path ≠ pageFile m.path) :
    d'.read (out.below ["modules", pageFile m.path]) =
      .ok (.text (modulePage site.settings m).render) := by
  obtain ⟨e, -, -, h⟩ := write_cases h
  have hdescends (g : List String × String) (hg : g ∈ site.files) := descends_files hg
  rw [files_eq hm] at h hdescends
  have hlater : ∀ g ∈ after.map site.pageOf ++
      [(["search.json"], searchText (searchIndex site.settings site.modules))], g.1 ≠
        (site.pageOf m).1 := by
    rw [List.forall_mem_append, List.forall_mem_map, List.forall_mem_singleton]
    refine ⟨fun n hn he => hlast n hn (List.cons.inj (List.cons.inj he).2).1, fun he => ?_⟩
    cases (List.cons.inj he).2
  have hread := read_of_writeFiles_last hdescends hlater h
  dsimp only [pageOf] at hread
  exact hread

theorem exists_last {α : Type} {p : α → Prop} {xs : List α} (h : ∃ x ∈ xs, p x) :
    ∃ before y after, xs = before ++ y :: after ∧ p y ∧ ∀ z ∈ after, ¬ p z := by
  induction xs with
  | nil =>
    obtain ⟨x, hx, -⟩ := h
    cases hx
  | cons a xs ih =>
    by_cases hlater : ∃ x ∈ xs, p x
    · obtain ⟨before, y, after, rfl, hy, hlast⟩ := ih hlater
      exact ⟨a :: before, y, after, rfl, hy, hlast⟩
    · have hnone : ∀ x ∈ xs, ¬ p x := fun x hx hpx => hlater ⟨x, hx, hpx⟩
      obtain ⟨x, hx, hpx⟩ := h
      rcases List.mem_cons.mp hx with rfl | hx
      · exact ⟨[], x, xs, rfl, hpx, hnone⟩
      · exact absurd hpx (hnone x hx)

/-- On a tree, the modules of a survey have pages of different names, and after a run without
selections each page is that of its module, exactly if no two of the modules have paths that
resemble each other.  In any case the page of a module is that of the last module whose path
resembles its own. -/
theorem survey_pages_iff {e : Disk} {repo : Path} {settings : SurveySettings} (htree : e.IsTree)
    (hsurvey : (survey e repo settings).modules = .ok site.modules)
    (hall : site.settings.selections = []) (hrun : (site.write out).run d = (.ok (), d')) :
    ((site.NamesApart ∧ ∀ m ∈ site.modules,
        d'.read (out.below ["modules", pageFile m.path]) =
          .ok (.text (modulePage site.settings m).render)) ↔
      ∀ a ∈ site.modules, ∀ b ∈ site.modules, a.path ≠ b.path → ¬ Resembles a.path b.path) ∧
    ∀ m ∈ site.modules, ∃ before n after, site.modules = before ++ n :: after ∧
    Resembles m.path n.path ∧
      (∀ k ∈ after, ¬ Resembles m.path k.path) ∧
      d'.read (out.below ["modules", pageFile m.path]) =
        .ok (.text (modulePage site.settings n).render) := by
  have hnames {a b : ModuleDoc} (ha : a ∈ site.modules) (hb : b ∈ site.modules) :
      pageFile a.path = pageFile b.path ↔ Resembles a.path b.path :=
    pageFile_eq_iff (suffix_of_survey hsurvey ha) (suffix_of_survey hsurvey hb)
  refine ⟨⟨?_, ?_⟩, ?_⟩
  · rintro ⟨hapart, -⟩ a ha b hb hne hlike
    exact hne (congrArg (·.path) (List.inj_on_of_nodup_map hapart ha hb ((hnames ha hb).mpr hlike)))
  · intro hunlike
    have hapart : site.NamesApart := by
      have hmap : site.modules.map (fun m => pageFile m.path) =
          (site.modules.map (·.path)).map pageFile := by
        rw [List.map_map]
        rfl
      rw [NamesApart, hmap]
      refine (nodup_survey htree hsurvey).map_on ?_
      simp only [List.forall_mem_map]
      intro a ha b hb he
      by_contra hne
      exact hunlike a ha b hb hne ((hnames ha hb).mp he)
    refine ⟨hapart, fun m hm => read_page hrun hapart (page_mem ?_)⟩
    rwa [shownModules_eq hall]
  · intro m hm
    obtain ⟨before, n, after, hsplit, hlike, hlast⟩ :=
      exists_last (p := fun n : ModuleDoc => Resembles m.path n.path) ⟨m, hm, .refl m.path⟩
    have hn : n ∈ site.modules := by simp [hsplit]
    refine ⟨before, n, after, hsplit, hlike, hlast, ?_⟩
    rw [(hnames hm hn).mpr hlike]
    refine read_last_page hrun (by rw [shownModules_eq hall, hsplit]) fun k hk he => hlast k hk ?_
    have hk' : k ∈ site.modules := by simp [hsplit, hk]
    exact (hnames hm hk').mp (((hnames hm hn).mpr hlike).trans he.symm)

/-! ## sites of two modules -/

def plainSurvey : SurveySettings := ⟨false, false, []⟩

def pairDisk (a b : List String) : Disk :=
  ⟨"/work", [(["a"], .folder), (a, .file (.text "def f():\n    pass\n")),
    (b, .file (.text "def g():\n    pass\n"))]⟩

def pairModules (a b : List String) : List ModuleDoc :=
  (readContents (pairDisk a b) (.ofParts []) false [a, b]).modules.toOption.getD []

def pairSite (a b : List String) : Site := ofModules (pairModules a b) []

theorem survey_pairDisk {a b : List String}
    (hfiles : moduleFiles (pairDisk a b) (.ofParts []) plainSurvey.allPatterns = [a, b])
    (hread : (readContents (pairDisk a b) (.ofParts []) false [a, b]).modules.isOk)
    (hsorted : ((pairModules a b).map (·.path)).Pairwise (· ≤ ·)) :
    (survey (pairDisk a b) (.ofParts []) plainSurvey).modules = .ok (pairSite a b).modules := by
  obtain ⟨ms, hms⟩ := exists_of_isOk hread
  have hpair : pairModules a b = ms := by
    rw [pairModules, hms]
    rfl
  change (readContents _ _ false (moduleFiles _ _ plainSurvey.allPatterns)).modules.map _ =
    .ok (pairModules a b)
  rw [hfiles, hms, ← hpair]
  refine congrArg Except.ok (List.mergeSort_of_pairwise ?_)
  simpa using List.pairwise_map.mp hsorted

/-- a module in a directory, and one beside it whose name begins like the path of the first -/
def apartDisk : Disk := pairDisk ["a", "b.py"] ["a_c.py"]

def apartSite : Site := pairSite ["a", "b.py"] ["a_c.py"]

theorem apartSite_pages :
    apartDisk.IsTree ∧ (survey apartDisk (.ofParts []) plainSurvey).modules =
      .ok apartSite.modules ∧
    (made apartSite).1 = .ok () ∧ apartSite.NamesApart ∧
    ∀ m ∈ apartSite.modules, (made apartSite).2.read (docs.below ["modules", pageFile m.path]) =
      .ok (.text (modulePage apartSite.settings m).render) := by
  have htree : apartDisk.IsTree := ⟨by decide, by decide⟩
  have hfiles : moduleFiles apartDisk (.ofParts []) plainSurvey.allPatterns =
      [["a", "b.py"], ["a_c.py"]] := by
    rw [moduleFiles, List.mergeSort_of_pairwise (by decide +kernel)]
    decide +kernel
  have hsurvey : (survey apartDisk (.ofParts []) plainSurvey).modules = .ok apartSite.modules :=
    survey_pairDisk hfiles (by decide +kernel) (by decide +kernel)
  obtain ⟨_, hrun⟩ := exists_of_isOk (show (made apartSite).1.isOk by decide +kernel)
  refine ⟨htree, hsurvey, hrun, (survey_pages_iff htree hsurvey rfl (made_eq hrun)).1.mpr ?_⟩
  decide +kernel

/-- a module in a directory, and one beside it whose name is like the path of the first -/
def twinDisk : Disk := pairDisk ["a", "b.py"] ["a_b.py"]

def twinSite : Site := pairSite ["a", "b.py"] ["a_b.py"]

/-- The two modules share a page, and the first of them is not found on it. -/
theorem twinSite_page_lost :
    twinDisk.IsTree ∧ (survey twinDisk (.ofParts []) plainSurvey).modules = .ok twinSite.modules ∧
    (made twinSite).1 = .ok () ∧
    ∃ a ∈ twinSite.modules, ∃ b ∈ twinSite.modules, a.path ≠ b.path ∧ pageFile a.path =
      pageFile b.path ∧
      (made twinSite).2.read (docs.below ["modules", pageFile a.path]) ≠
        .ok (.text (modulePage twinSite.settings a).render) := by
  have hfiles : moduleFiles twinDisk (.ofParts []) plainSurvey.allPatterns =
      [["a", "b.py"], ["a_b.py"]] := by
    rw [moduleFiles, List.mergeSort_of_pairwise (by decide +kernel)]
    decide +kernel
  have hsurvey : (survey twinDisk (.ofParts []) plainSurvey).modules = .ok twinSite.modules :=
    survey_pairDisk hfiles (by decide +kernel) (by decide +kernel)
  obtain ⟨_, hrun⟩ := exists_of_isOk (show (made twinSite).1.isOk by decide +kernel)
  have hpaths : twinSite.modules.map (·.path) = ["a/b.py", "a_b.py"] := by decide +kernel
  obtain ⟨a, b, hmodules⟩ :=
    List.length_eq_two.mp ((List.length_map _).symm.trans (congrArg List.length hpaths))
  obtain ⟨ha, hb⟩ : a.path = "a/b.py" ∧ b.path = "a_b.py" := by simpa [hmodules] using hpaths
  have htexts : (modulePage twinSite.settings b).render ≠
      (modulePage twinSite.settings a).render := by
    -- the titles of the pages are among their first characters
    have h : (twinSite.modules.map fun m => (modulePage twinSite.settings m).chars.take
        300).Nodup := by
      decide +kernel
    rw [hmodules] at h
    intro he
    have hchars : (modulePage twinSite.settings b).chars =
        (modulePage twinSite.settings a).chars := by
      rw [← Markup.toList_render, ← Markup.toList_render, he]
    exact (List.nodup_cons.mp h).1 (List.mem_singleton.mpr (congrArg (List.take 300) hchars.symm))
  have hname : pageFile a.path = pageFile b.path := by
    rw [ha, hb]
    decide
  have hshown : twinSite.shownModules = [a] ++ b :: [] := (shownModules_eq rfl).trans hmodules
  have hread := read_last_page (made_eq hrun) hshown (List.forall_mem_nil _)
  refine ⟨⟨by decide, by decide⟩, hsurvey, hrun,
    a, by simp [hmodules], b, by simp [hmodules], ?_, hname, ?_⟩
  · rw [ha, hb]
    decide
  · rw [hname, hread]
    exact fun he => htexts (Content.text.inj (Except.ok.inj he))

end Site

end Apidoc
