import Apidoc.Proofs.Site.PageNames
import Apidoc.Proofs.Site.Rewriting

/-!
# What an earlier site leaves behind

A site is written over what is in its directory, and nothing is taken away first.

* `Disk.below?`                  the files in the directory of a site;
* `Site.below?_of_written`       what a site writes is there, whatever was there before;
* `Site.below?_of_left`          what it does not write stays;
* `Site.IsDocumentation`         the files that belong to the documentation;
* `Site.documentation_eq_iff`    two runs make the same documentation exactly if the same pages were
                                 left over.
-/

namespace Apidoc

namespace Disk

variable {d : Disk}

/-- the file that names lead to from a directory; outside the disk there is none -/
def below? (d : Disk) (out : Path) (name : List String) : Option Content :=
  out.inside?.bind fun g => d.file? (g ++ name)

theorem below?_eq {out : Path} {g : List String} (h : out.inside? = some g) (d : Disk)
    (name : List String) : d.below? out name = d.file? (g ++ name) := by
  rw [below?, h, Option.bind_some]

theorem below?_congr {d' : Disk} {out : Path} {name : List String}
    (h : ∀ g, out.inside? = some g → d'.file? (g ++ name) = d.file? (g ++ name)) :
    d'.below? out name = d.below? out name := by
  cases hin : out.inside? with
  | none => rw [below?, below?, hin, Option.bind_none, Option.bind_none]
  | some g => rw [below?_eq hin, below?_eq hin, h g hin]

theorem below?_of_read {out : Path} {name : List String} {c : Content} (hname : Descends name)
    (hne : name ≠ []) (h : d.read (out.below name) = .ok c) : d.below? out name = some c := by
  obtain ⟨q, hq, hc⟩ := read_cases h
  have hroot : out.anchor ≠ .root := (rooted_of_locate hq :)
  obtain ⟨folder, hfolder, rfl⟩ := locate_below hq hname hne
  rw [below?_eq (inside?_of_enter hroot hfolder), file?_eq_some]
  exact hc

theorem below?_eq_none {out : Path} {g name : List String} (hin : out.inside? = some g)
    (h : g ++ name ∉ d.nodes.map (·.1)) : d.below? out name = none := by
  rw [Option.eq_none_iff_forall_ne_some]
  intro c hc
  rw [below?_eq hin, file?_eq_some, node?] at hc
  split at hc
  · cases hc
  · obtain ⟨n, hn, -⟩ := Option.map_eq_some_iff.mp hc
    have hplace := List.find?_some hn
    exact h (List.mem_map.mpr ⟨n, List.mem_of_find?_eq_some hn, eq_of_beq hplace⟩)

end Disk

namespace Site

variable {site : Site} {out : Path} {d d' e e' : Disk}

/-! ## what is written and what is left -/

theorem below?_of_written {name : List String} (hname : name ∈ site.fileNames) :
    ∃ text, (name, text) ∈ site.files ∧
      ∀ {d e : Disk}, (site.write out).run d = (.ok (), e) → e.below? out name =
        some (.text text) := by
  obtain ⟨before, f, after, hfiles, rfl, hlast⟩ :=
    exists_last (p := fun f : List String × String => f.1 = name) (List.mem_map.mp hname)
  have hf : f ∈ site.files := by simp [hfiles]
  obtain ⟨hdescends, hne⟩ := descends_files hf
  refine ⟨f.2, hf, fun {d e} hrun => Disk.below?_of_read hdescends hne ?_⟩
  obtain ⟨e', -, -, hwritten⟩ := write_cases hrun
  have hall (g : List String × String) (hg : g ∈ site.files) := descends_files hg
  rw [hfiles] at hwritten hall
  exact read_of_writeFiles_last hall hlast hwritten

theorem below?_of_left (h : (site.write out).run d = (.ok (), e)) {name : List String}
    (hname : name ∉ site.fileNames) : e.below? out name = d.below? out name := by
  refine Disk.below?_congr fun g hg => (gains_files h).file?_eq ?_
  rintro c (hfolder | ⟨g', hg', other, hother, hplace⟩)
  · cases hfolder
  · cases hg.symm.trans hg'
    exact hname (List.append_cancel_left hplace ▸ hother)

/-! ## documentation -/

/-- The files at the top of a site, and whatever has the ending of a page below the directory of the
modules. -/
def IsDocumentation (name : List String) : Prop :=
  name ∈ [["index.html"], ["search.json"], ["style.css"], ["script.js"]] ∨
    ∃ rest, name = "modules" :: rest ∧ ".html".toList <:+ (rest.getLastD "").toList

/-- Two runs make the same documentation exactly if they find the same files that belong to it and
are not written.  Whatever is written is the same, and what is not written is left as it was, also
the page of a module that an earlier site had. -/
theorem documentation_eq_iff (h : (site.write out).run d = (.ok (), e))
    (h' : (site.write out).run d' = (.ok (), e')) :
    ((∀ name, IsDocumentation name → e.below? out name = e'.below? out name) ↔
      ∀ name, IsDocumentation name → name ∉ site.fileNames → d.below? out name =
        d'.below? out name) ∧
    (∀ name ∈ site.fileNames, ∃ text, (name, text) ∈ site.files ∧ e.below? out name =
      some (.text text) ∧
      e'.below? out name = some (.text text)) ∧
    ∀ name, name ∉ site.fileNames → e.below? out name = d.below? out name := by
  have hwritten (name : List String) (hname : name ∈ site.fileNames) : ∃ text,
    (name, text) ∈ site.files ∧
      e.below? out name = some (.text text) ∧ e'.below? out name = some (.text text) := by
    obtain ⟨text, hf, hthere⟩ := below?_of_written hname
    exact ⟨text, hf, hthere h, hthere h'⟩
  refine ⟨⟨fun hsame name hdoc hleft => ?_, fun hsame name hdoc => ?_⟩, hwritten,
    fun name => below?_of_left h⟩
  · rw [← below?_of_left h hleft, ← below?_of_left h' hleft]
    exact hsame name hdoc
  · by_cases hname : name ∈ site.fileNames
    · obtain ⟨text, -, hthere, hthere'⟩ := hwritten name hname
      rw [hthere, hthere']
    · rw [below?_of_left h hname, below?_of_left h' hname]
      exact hsame name hdoc hname

/-- two modules, of which the second may be excluded -/
def netAndOld (old : Bool) : Site :=
  ofModules [bareModule "m1" "net" "net.py" [] [] [], bareModule "m2" "old" "old.py" [] [] []]
    [(.str "m1", .default (.str "m1") true), (.str "m2", .default (.str "m2") old)]

/-- a directory with an index that is out of date, and a text that is not documentation -/
def readmeDisk : Disk :=
  ⟨"/work", [(["docs"], .folder), (["docs", "index.html"], .file (.text "<p>old</p>")),
    (["docs", "README.md"], .file (.text "# Docs"))]⟩

/-- what comes of writing a site where an earlier one is -/
def madeOver (site : Site) (d : Disk) : Except Fault Unit × Disk := (site.write docs).run d

theorem madeOver_eq (h : (madeOver site d).1 = .ok ()) :
    (site.write docs).run d = (.ok (), (madeOver site d).2) :=
  Prod.ext h rfl

theorem netAndOld_over_readme :
    (made (netAndOld true)).1 = .ok () ∧ (madeOver (netAndOld true) readmeDisk).1 = .ok () ∧
    ∀ name, IsDocumentation name →
      (made (netAndOld true)).2.below? docs name =
        (madeOver (netAndOld true) readmeDisk).2.below? docs name := by
  have hmade : (made (netAndOld true)).1 = .ok () := rfl
  have hover : (madeOver (netAndOld true) readmeDisk).1 = .ok () := rfl
  refine ⟨hmade, hover, (documentation_eq_iff (made_eq hmade) (madeOver_eq hover)).1.mpr fun name
    hdoc hname => ?_⟩
  have hempty : ¬ IsDocumentation [] := by
    rintro (hmem | ⟨_, hmodules, _⟩)
    · exact absurd hmem (by decide)
    · cases hmodules
  have hreadme : ¬ IsDocumentation ["README.md"] := by
    rintro (hmem | ⟨_, hmodules, _⟩)
    · exact absurd hmem (by decide)
    · exact absurd (List.cons.inj hmodules).1 (by decide)
  have hindex : ["index.html"] ∈ (netAndOld true).fileNames := by decide
  rw [Disk.below?_eq_none (g := ["docs"]) rfl (show "docs" :: name ∉ [] from nofun),
    Disk.below?_eq_none (g := ["docs"]) rfl]
  show "docs" :: name ∉ [["docs"], ["docs", "index.html"], ["docs", "README.md"]]
  rintro (_ | ⟨_, _ | ⟨_, _ | ⟨_, ⟨⟩⟩⟩⟩)
  · exact hempty hdoc
  · exact hname hindex
  · exact hreadme hdoc

/-- The page of an excluded module is still there where an earlier site had one, and not in a new
directory. -/
theorem netAndOld_page_stays :
    (made (netAndOld true)).1 = .ok () ∧ (made (netAndOld false)).1 = .ok () ∧
    (madeOver (netAndOld false) (made (netAndOld true)).2).1 = .ok () ∧
    IsDocumentation ["modules", "old.html"] ∧
    (made (netAndOld false)).2.below? docs ["modules", "old.html"] = none ∧
    ((madeOver (netAndOld false) (made (netAndOld true)).2).2.below? docs
      ["modules", "old.html"]).isSome := by
  have hmade : (made (netAndOld true)).1 = .ok () := rfl
  have hother : (made (netAndOld false)).1 = .ok () := rfl
  have hover : (madeOver (netAndOld false) (made (netAndOld true)).2).1 = .ok () := rfl
  have hleft : ["modules", "old.html"] ∉ (netAndOld false).fileNames := by decide
  have hwritten : ["modules", "old.html"] ∈ (netAndOld true).fileNames := by decide
  obtain ⟨text, -, hthere⟩ := below?_of_written hwritten
  refine ⟨hmade, hother, hover, .inr ⟨["old.html"], rfl, by decide⟩, ?_, ?_⟩
  · rw [below?_of_left (made_eq hother) hleft]
    rfl
  · rw [below?_of_left (madeOver_eq hover) hleft, hthere (made_eq hmade)]
    rfl

end Site

end Apidoc
