import Apidoc.Proofs.Page.Shape
import Apidoc.Proofs.Site.Links

/-!
# Sites of one shape

Two sites that differ in nothing but the texts they show have the same marks on their pages, so no
text that is documented, chosen or described opens or closes a tag or a value:

* `Site.SameShape`              the sites are equal up to their texts, which are empty at the same
                                places;
* `Site.page_marks_of_shape`    the marks on the pages that are written, paired by module.
-/

namespace Apidoc

/-- Two files are texts with the same marks. -/
def Disk.SameMarks (d : Disk) (p : Path) (d' : Disk) (p' : Path) : Prop :=
  ∃ t t', d.read p = .ok (.text t) ∧ d'.read p' = .ok (.text t') ∧ marksOf t = marksOf t'

namespace Site

def veiled (site : Site) : Site :=
  ⟨site.settings.veiled, site.style.map veil, veil site.stamp, site.modules.map .veiled,
    site.entries.map .veiled⟩

/-- The sites are equal up to their texts, which are empty at the same places. -/
def SameShape (site site' : Site) : Prop := site.veiled = site'.veiled

variable {site site' : Site} {out out' : Path} {d d' e e' : Disk}

theorem marksOf_indexText (site : Site) :
    marksOf site.indexText = marksOf site.veiled.indexText := by
  rw [indexText, indexText, Markup.marksOf_render, Markup.marksOf_render]
  exact (marks_indexPage _ _ _ _ _ _ _).symm

theorem SameShape.marksOf_indexText (h : site.SameShape site') :
    marksOf site.indexText = marksOf site'.indexText := by
  rw [site.marksOf_indexText, site'.marksOf_indexText, h]

theorem SameShape.settings (h : site.SameShape site') :
    site.settings.veiled = site'.settings.veiled :=
  congrArg Site.settings h

/-- Sites of one shape have as many modules, and modules at the same place have one shape. -/
theorem SameShape.modules (h : site.SameShape site') :
    List.Forall₂ (fun m m' => m.veiled = m'.veiled) site.modules site'.modules := by
  have hmodules : site.modules.map ModuleDoc.veiled = site'.modules.map ModuleDoc.veiled :=
    congrArg Site.modules h
  rw [← List.forall₂_eq_eq_eq, List.forall₂_map_left_iff, List.forall₂_map_right_iff] at hmodules
  exact hmodules

theorem SameShape.shows (h : site.SameShape site') (id : String) :
    site.settings.shows id = site'.settings.shows id := by
  rw [← site.settings.shows_veiled, h.settings, site'.settings.shows_veiled]

theorem SameShape.marksOf_page (h : site.SameShape site') {m m' : ModuleDoc}
    (hm : m.veiled = m'.veiled) :
    marksOf (modulePage site.settings m).render =
      marksOf (modulePage site'.settings m').render := by
  rw [Markup.marksOf_render, Markup.marksOf_render, ← marks_modulePage site.settings m,
    ← marks_modulePage site'.settings m', h.settings, hm]

theorem read_shown_page (hrun : (site.write out).run d = (.ok (), e)) (hnames : site.NamesApart)
    {m : ModuleDoc} (hm : m ∈ site.modules) (hshown : site.settings.shows m.id) :
    e.read (out.below ["modules", pageFile m.path]) =
      .ok (.text (modulePage site.settings m).render) :=
  read_page hrun hnames (page_mem (List.mem_filter.mpr ⟨hm, hshown⟩))

/-- Of two sites of one shape the index pages that are written have the same marks, and so have the
pages of each module, which both sites show or neither does. -/
theorem page_marks_of_shape (hshape : site.SameShape site') (hnames : site.NamesApart)
    (hnames' : site'.NamesApart) (hrun : (site.write out).run d = (.ok (), e))
    (hrun' : (site'.write out').run d' = (.ok (), e')) :
    e.SameMarks (out.below ["index.html"]) e' (out'.below ["index.html"]) ∧
    List.Forall₂ (fun m m' => m.id = m'.id ∧ site.settings.shows m.id = site'.settings.shows m'.id ∧
        (site.settings.shows m.id → e.SameMarks (out.below ["modules", pageFile m.path])
          e' (out'.below ["modules", pageFile m'.path])))
      site.modules site'.modules := by
  refine ⟨⟨_, _, read_file hrun hnames site.index_mem_files,
    read_file hrun' hnames' site'.index_mem_files,
    hshape.marksOf_indexText⟩, ?_⟩
  rw [List.forall₂_iff_get]
  obtain ⟨hlength, hshapes⟩ := List.forall₂_iff_get.mp hshape.modules
  refine ⟨hlength, fun i hi hi' => ?_⟩
  have hm := hshapes i hi hi'
  have hid : (site.modules.get ⟨i, hi⟩).id = (site'.modules.get ⟨i, hi'⟩).id := congrArg (·.id) hm
  have hshows : site.settings.shows (site.modules.get ⟨i, hi⟩).id =
      site'.settings.shows (site'.modules.get ⟨i, hi'⟩).id := hid ▸ hshape.shows _
  exact ⟨hid, hshows, fun hshown => ⟨_, _, read_shown_page hrun hnames (List.get_mem ..) hshown,
    read_shown_page hrun' hnames' (List.get_mem ..) (hshows ▸ hshown), hshape.marksOf_page hm⟩⟩

def noteFunction (id note : String) : FunctionDoc :=
  ⟨⟨id, note, "notes.py", 1, some note, some note, none⟩, [⟨note, some note, some note, none⟩],
    some note, false,
    [note]⟩

def noteModule (note : String) : ModuleDoc :=
  { bareModule "m1" note "notes.py"
      [{ bareClass "c1" note "notes.py" [note] with
          docs := some note, methods := [⟨noteFunction "f1" note, false, true, false, some note⟩]
          classVariables := [⟨bareHeader "v1" note "notes.py", some note, some note, true⟩] }]
      [noteFunction "f2" note] [bareConstant "k1" "LIMIT" "notes.py"] with docs := some note }

def noteSite (note : String) : Site where
  settings :=
    ⟨note, true, true, [(.str "m1", ⟨.str "m1", .bool true, .str note, .str note⟩),
      (.str "c1", .default (.str "c1") true),
    (.str "f1", .default (.str "f1") false), (.str "f2", .default (.str "f2") true)],
      [("c1", .str note), ("f2", .str note)], false⟩
  style := some note
  stamp := note
  modules := [noteModule note]
  entries := contents .full [noteModule note]

/-- A text that closes the tag and the value it stands in leaves the marks of the pages as they are.
-/
theorem noteSite_marks :
    (noteSite "x").SameShape (noteSite "\"'></pre><script>") ∧
    (made (noteSite "x")).1 = .ok () ∧ (made (noteSite "\"'></pre><script>")).1 = .ok () ∧
    ∀ name ∈ [["index.html"], ["modules", "notes.html"]],
      (made (noteSite "x")).2.SameMarks (docs.below name) (made (noteSite "\"'></pre><script>")).2
        (docs.below name) := by
  have hnames (note : String) : (noteSite note).NamesApart := List.nodup_singleton _
  have hmade : (made (noteSite "x")).1 = .ok () := by rfl
  have hmade' : (made (noteSite "\"'></pre><script>")).1 = .ok () := by rfl
  have hshape : (noteSite "x").SameShape (noteSite "\"'></pre><script>") := by rfl
  obtain ⟨hindex, hpages⟩ :=
    page_marks_of_shape hshape (hnames _) (hnames _) (made_eq hmade) (made_eq hmade')
  refine ⟨hshape, hmade, hmade', ?_⟩
  rw [List.forall_mem_cons, List.forall_mem_singleton]
  exact ⟨hindex, (List.forall₂_cons.mp hpages).1.2.2 rfl⟩

end Site

end Apidoc
