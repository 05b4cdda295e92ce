import Apidoc.Command.Run
import Apidoc.Proofs.Command.Program
import Apidoc.Proofs.Contents.Entries
import Apidoc.Proofs.Selection.Restarting
import Apidoc.Proofs.Site.Rewriting
import Mathlib.Data.List.Infix

/-!
# Generating documentation again

A run reads files that it writes itself: the selections, and the file of ignored paths.  What it
writes besides has names under which nothing is read.  So a second run finds the same modules, reads
the choices that the first one saved, and puts the same texts in the same places.

* `IsRead`                     the names under which something is read;
* `Generate.selectionsFor_again`, `Generate.writeSite_again`, `Generate.document_again`,
  `Generate.run_again`         each part of a run, done again;
* `readWish_mono`              a line that asks for a command still does when there are more files;
* `regeneration_keeps_files`   the same command again exits with 0 and leaves the disk as it is.
-/

namespace Apidoc

/-! ## names -/

/-- The name is one of a module, or of a file that a store reads. -/
def IsRead (name : String) : Prop := IsModuleName name ∨ name ∈ ".gitignore" :: Store.fileNames

instance (name : String) : Decidable (IsRead name) := inferInstanceAs (Decidable (_ ∨ _))

def Unread (q : List String) (_ : Node) : Prop := ¬ IsRead (q.getLastD "")

theorem not_isRead_pageFile (path : String) : ¬ IsRead (pageFile path) := by
  have hend : ".html".toList <:+ (pageFile path).toList := by
    rw [pageFile, String.toList_append]
    exact List.suffix_append _ _
  have hnames : ∀ name ∈ ".gitignore" :: Store.fileNames, ¬ ".html".toList <:+ name.toList := by
    decide
  rintro (hmodule | hname)
  · have hpy := Glob.isMatch_py.mp hmodule
    have hboth : ".py".toList <:+ ".html".toList :=
      List.suffix_of_suffix_length_le hpy hend (by decide)
    exact absurd hboth (by decide)
  · exact hnames _ hname hend

theorem Site.unread_of_files {site : Site} {f : List String × String} (hf : f ∈ site.files) :
    ¬ IsRead (f.1.getLastD "") := by
  simp only [files, List.mem_append, List.mem_cons, List.mem_map, List.not_mem_nil, or_false] at hf
  rcases hf with ((rfl | rfl | rfl) | ⟨m, _, rfl⟩) | rfl
  · show ¬ IsRead "style.css"
    decide
  · show ¬ IsRead "script.js"
    decide
  · show ¬ IsRead "index.html"
    decide
  · exact not_isRead_pageFile m.path
  · show ¬ IsRead "search.json"
    decide

theorem Site.Puts.unread {site : Site} {q : List String} {n : Node}
    (h : site.Puts (.ofText "docs") q n) : Unread q n := by
  have hparts : (Path.ofText "docs").parts = ["docs"] := by decide
  have hfolders : ∀ q ∈ (["docs"] ++ ["modules"]).inits, ¬ IsRead (q.getLastD "") := by decide
  rcases h with ⟨_, hq⟩ | ⟨f, hf, rfl⟩
  · rw [hparts] at hq
    exact hfolders q ((List.mem_inits q _).mpr hq)
  · rw [Unread, getLastD_append (descends_files hf).2]
    exact unread_of_files hf

namespace Store

variable {s : Store} {d e : Disk}

theorem not_unread_ignoreFile (n : Node) : ¬ Unread [".gitignore"] n := by
  unfold Unread
  decide

theorem not_unread_file {name : String} (hname : name ∈ fileNames) (g : List String) (n : Node) :
    ¬ Unread (g ++ [name]) n := by
  rw [Unread, List.getLastD_concat, not_not]
  exact .inr (List.mem_cons_of_mem _ hname)

theorem Starts.unsurveyed {repo : Path} {now : String} {q : List String} {n : Node}
    (h : (⟨repo.child storeFolder, now⟩ : Store).Starts q n) : Unsurveyed repo q n := by
  rcases h with ⟨rfl, hq⟩ | rfl | rfl
  · rcases List.prefix_concat_iff.mp hq with rfl | hq
    · refine .inl ?_
      rw [List.getLastD_concat]
      decide
    · exact .inr ⟨rfl, hq⟩
  · exact .inl (by decide)
  · refine .inl ?_
    rw [List.getLastD_concat]
    decide

/-- A start that succeeds can be done again, though the disk has gained what nobody reads. -/
theorem start_again {entries : List Entry} {sel : Selections}
    (hfolder : Disk.Descends s.folder.parts) (hids : ∀ e ∈ Entry.flatten entries, IsId e.id)
    (hold : s.HoldsChoices d) (h : (s.start entries true).run d = (.ok sel, e)) :
    d.Gains s.Starts e ∧ s.folder.anchor ≠ .root ∧ ∃ g, e.enter [] s.folder.parts = .ok g ∧
      ∀ e', e.Gains Unread e' → s.load.run e' = (.ok sel, e') ∧ (s.start entries true).run e' =
        (.ok sel, e') := by
  have hgains := s.gains_start hfolder entries true d
  rw [h] at hgains
  obtain ⟨m, g, rfl, hstarted, hm⟩ := started_of_start hids hold h
  refine ⟨hgains, hstarted.rooted, g, hstarted.entered, fun e' he' => ?_⟩
  have hagain := hstarted.of_gains he' not_unread_ignoreFile (not_unread_file selections_mem g)
  exact ⟨hagain.load, hagain.start hm⟩

end Store

/-! ## the parts of a run -/

namespace Generate

open Program

variable {g : GenerateSettings} {repo : Path} {store : Store} {entries : List Entry}
  {s : Surroundings} {w w' : World}

theorem selectionsFor_again {use : Bool} {sel : Selections}
    (hfolder : Disk.Descends store.folder.parts) (hids : ∀ e ∈ Entry.flatten entries, IsId e.id)
    (hold : store.HoldsChoices w.disk)
    (h : ((selectionsFor store use entries).run s).run w = (.ok sel, w')) :
    w.disk.Gains store.Starts w'.disk ∧ store.folder.anchor ≠ .root ∧
      ∃ f, w'.disk.enter [] store.folder.parts = .ok f ∧
        ∀ d, w'.disk.Gains Unread d → (selectionsFor store use entries).Rests s d sel := by
  cases use with
  | false =>
    obtain ⟨hgains, hroot, f, hf, hagain⟩ := Store.start_again hfolder hids hold (act_cases h)
    exact ⟨hgains, hroot, f, hf, fun d hd => rests_act (hagain d hd).2⟩
  | true =>
    obtain ⟨old, w₁, hrun, h⟩ := run_bind h
    have hload := act_cases hrun
    have hw₁ : w₁.disk = w.disk := (Store.looks_load store).run_eq hload
    split at h
    · obtain ⟨_, w₂, hrun, h⟩ := run_bind h
      obtain ⟨hw₂, hprint⟩ := emit_cases hrun
      have hstart := act_cases h
      rw [hw₂, hw₁] at hstart
      obtain ⟨hgains, hroot, f, hf, hagain⟩ := Store.start_again hfolder hids hold hstart
      refine ⟨hgains, hroot, f, hf, fun d hd => ?_⟩
      -- now the selections are loaded, unless there are none for the entries
      obtain ⟨hload, hstart⟩ := hagain d hd
      refine (rests_act hload).bind ?_
      split
      · exact (hprint d).bind (rests_act hstart)
      · exact rests_pure sel
    · rename_i hne
      cases h
      have hnonempty : sel ≠ [] := fun e => hne (by rw [e]; rfl)
      obtain ⟨hroot, f, hf⟩ := Store.entered_of_load hload hnonempty
      rw [hw₁] at hload ⊢
      refine ⟨.refl _, hroot, f, hf, fun d hd => ?_⟩
      have halike := Store.alike_load hroot hf (hd.keepsFolders.enter hf)
        (hd.same (Store.not_unread_file Store.selections_mem f))
      refine (rests_act (halike.run_eq hload)).bind ?_
      rw [if_neg hne]
      exact rests_pure sel

theorem descriptionsFor_again {ms : List ModuleDoc} {v : Data} {f : List String}
    (hg : g.describes = false) (hroot : store.folder.anchor ≠ .root)
    (hf : w.disk.enter [] store.folder.parts = .ok f)
    (h : ((descriptionsFor g store ms).run s).run w = (.ok v, w')) :
    w'.disk = w.disk ∧ ∀ d, w.disk.Gains Unread d → (descriptionsFor g store ms).Rests s d v := by
  have heq : descriptionsFor g store ms = act store.loadDescriptions := by
    rw [descriptionsFor, hg]
    rfl
  rw [heq] at h ⊢
  have hload := act_cases h
  refine ⟨(Store.looks_loadDescriptions store).run_eq hload, fun d hd => rests_act ?_⟩
  exact (Store.alike_loadDescriptions hroot hf (hd.keepsFolders.enter hf)
    (hd.same (Store.not_unread_file Store.descriptions_mem f))).run_eq hload

theorem writeSite_again {site : Site} (hg : g.output = "docs")
    (h : ((writeSite g site).run s).run w = (.ok (), w')) :
    w.disk.Gains Unread w'.disk ∧ (writeSite g site).Rests s w'.disk () := by
  have hdocs : Disk.Descends (Path.ofText "docs").parts := by
    show ".." ∉ _
    decide
  obtain ⟨_, w₁, hrun, h⟩ := run_bind h
  obtain ⟨hw₁, htask⟩ := emit_cases hrun
  obtain ⟨_, w₂, hrun, h⟩ := run_bind h
  have hwrite := act_cases hrun
  obtain ⟨_, w₃, hrun, h⟩ := run_bind h
  obtain ⟨hw₃, hupdate⟩ := emit_cases hrun
  obtain ⟨out, w₄, hrun, h⟩ := run_bind h
  obtain ⟨hw₄, hresolve⟩ := resolve_cases hrun
  obtain ⟨_, w₅, hrun, h⟩ := run_bind h
  obtain ⟨hw₅, hdone⟩ := emit_cases hrun
  obtain ⟨_, w₆, hrun, h⟩ := run_bind h
  obtain ⟨hw₆, hplace⟩ := emit_cases hrun
  obtain ⟨hw', hopen⟩ := emit_cases h
  have hlast : w'.disk = w₂.disk := by rw [hw', hw₆, hw₅, hw₄, hw₃]
  -- the last two lines name the working directory, and that is the same
  rw [hw₃] at hresolve
  subst hresolve
  rw [hlast]
  refine ⟨?_, (htask _).bind ((rests_act (Site.write_again hwrite)).bind ((hupdate _).bind
    ((rests_resolve _ _).bind ((hdone _).bind ((hplace _).bind (hopen _))))))⟩
  rw [hg, hw₁] at hwrite
  exact (Site.gains_write hdocs hwrite).mono fun _ _ => Site.Puts.unread

/-! ## the parts of a run -/

theorem analyze_cases {ms : List ModuleDoc} (h : ((analyze g repo).run s).run w = (.ok ms, w')) :
    w'.disk = w.disk ∧ (survey w.disk repo ⟨g.includePrivate, false, []⟩).modules = .ok ms ∧
      ∀ d, (survey d repo ⟨g.includePrivate, false, []⟩).modules = .ok ms →
      (analyze g repo).Rests s d ms := by
  obtain ⟨_, w₁, hrun, h⟩ := run_bind h
  obtain ⟨hw₁, hpanel⟩ := emit_cases hrun
  obtain ⟨_, w₂, hrun, h⟩ := run_bind h
  obtain ⟨hw₂, htask⟩ := emit_cases hrun
  obtain ⟨found, w₃, hrun, h⟩ := run_bind h
  obtain ⟨hw₃, hfound⟩ := modulesOf_cases hrun
  obtain ⟨_, w₄, hrun, h⟩ := run_bind h
  obtain ⟨hw₄, hupdate⟩ := emit_cases hrun
  cases h
  rw [hw₂, hw₁] at hfound
  refine ⟨by rw [hw₄, hw₃, hw₂, hw₁], hfound, fun d hd => ?_⟩
  exact (hpanel _).bind
    ((htask _).bind ((rests_modulesOf hd).bind ((hupdate _).bind (rests_pure _))))

theorem rests_storeOf (s : Surroundings) (repo : Path) (d : Disk) :
    (storeOf repo).Rests s d ⟨repo.child storeFolder, s.now⟩ := fun w hw => ⟨w, rfl, hw⟩

theorem prepare_cases {ms : List ModuleDoc} {sel : Selections}
    (h : ((prepare g repo ms).run s).run w = (.ok sel, w')) :
    ∃ w₁ : World, w₁.disk = w.disk ∧
      ((selectionsFor ⟨repo.child storeFolder, s.now⟩ g.useSelections
        (contents .full ms)).run s).run w₁ = (.ok sel, w') ∧
      ∀ d, (selectionsFor ⟨repo.child storeFolder, s.now⟩ g.useSelections
        (contents .full ms)).Rests s d sel → (prepare g repo ms).Rests s d sel := by
  obtain ⟨_, w₁, hrun, h⟩ := run_bind h
  obtain ⟨hw₁, htable⟩ := emit_cases hrun
  obtain ⟨store, w₂, hstore, h⟩ := run_bind h
  cases hstore
  exact ⟨w₁, hw₁, h, fun d hd => (htable d).bind ((rests_storeOf s repo d).bind hd)⟩

theorem finish_cases {ms : List ModuleDoc} {sel : Selections}
    (h : ((finish g repo ms sel).run s).run w = (.ok (), w')) :
    ∃ v w₁, ((descriptionsFor g ⟨repo.child storeFolder, s.now⟩ ms).run s).run w = (.ok v, w₁) ∧
      ((writeSite g (siteOf g s.stamp ms sel v)).run s).run w₁ = (.ok (), w') := by
  obtain ⟨store, w₁, hstore, h⟩ := run_bind h
  cases hstore
  obtain ⟨v, w₂, hv, h⟩ := run_bind h
  obtain ⟨_, w₃, hread, h⟩ := run_bind h
  cases hread
  exact ⟨v, w₂, hv, h⟩

/-- What came to the disk since the selections were made is the site, and the store reads none of
it. -/
theorem document_again {ms : List ModuleDoc} (hout : g.output = "docs") (hg : g.describes = false)
    (hrepo : Disk.Descends repo.parts) (hids : ∀ e ∈ Entry.flatten (contents .full ms), IsId e.id)
    (hold : (⟨repo.child storeFolder, s.now⟩ : Store).HoldsChoices w.disk)
    (h : ((prepare g repo ms >>= finish g repo ms).run s).run w = (.ok (), w')) :
    w.disk.Gains (Unsurveyed repo) w'.disk ∧
    (prepare g repo ms >>= finish g repo ms).Rests s w'.disk () := by
  have hfolder : Disk.Descends (repo.child storeFolder).parts := by
    simpa [Disk.Descends, Path.child, storeFolder] using hrepo
  obtain ⟨sel, w₁, hprepare, hfinish⟩ := run_bind h
  obtain ⟨w₀, hw₀, hsel, hprepare⟩ := prepare_cases hprepare
  obtain ⟨v, w₂, hv, hsite⟩ := finish_cases hfinish
  rw [← hw₀] at hold ⊢
  obtain ⟨hstarts, hroot, f, hf, hsel⟩ := selectionsFor_again hfolder hids hold hsel
  obtain ⟨hw₂, hv⟩ := descriptionsFor_again hg hroot hf hv
  obtain ⟨hunread, hsite⟩ := writeSite_again hout hsite
  rw [hw₂] at hunread
  refine ⟨(hstarts.mono fun _ _ => Store.Starts.unsurveyed).trans (hunread.mono fun q n hq =>
    .inl ?_), ?_⟩
  · exact fun hmodule => hq (.inl hmodule)
  · exact (hprepare _ (hsel _ hunread)).bind
      ((rests_storeOf s repo _).bind ((hv _ hunread).bind (rests_read.bind hsite)))

theorem run_again (hout : g.output = "docs") (hg : g.describes = false)
    (hrepo : Disk.Descends repo.parts)
    (hold : (⟨repo.child storeFolder, s.now⟩ : Store).HoldsChoices w.disk)
    (h : ((run g repo).run s).run w = (.ok (), w')) :
    w.disk.Gains (Unsurveyed repo) w'.disk ∧ (run g repo).Rests s w'.disk () := by
  obtain ⟨ms, w₁, hanalyze, h⟩ := run_bind h
  obtain ⟨hw₁, hms, hanalyze⟩ := analyze_cases hanalyze
  have hlast : w.disk.Gains (Unsurveyed repo) w'.disk ∧
      (if ms.isEmpty then print "[yellow]No Python modules found in the repository.[/yellow]"
        else prepare g repo ms >>= finish g repo ms).Rests s w'.disk () := by
    by_cases hempty : ms.isEmpty
    · rw [if_pos hempty] at h ⊢
      obtain ⟨hw', hprint⟩ := emit_cases h
      rw [hw', hw₁]
      exact ⟨.refl _, hprint _⟩
    · rw [if_neg hempty] at h ⊢
      rw [← hw₁] at hold ⊢
      exact document_again hout hg hrepo (isId_of_survey hms _) hold h
  have hms' : (survey w'.disk repo ⟨g.includePrivate, false, []⟩).modules = .ok ms := by
    rw [hlast.1.survey_eq hms, hms]
  exact ⟨hlast.1, (hanalyze _ hms').bind hlast.2⟩

/-! ## ends of a run -/

theorem stays_selectionsFor (store : Store) (use : Bool) (entries : List Entry) :
    (selectionsFor store use entries).Stays s := by
  cases use with
  | false => exact stays_act _
  | true =>
    refine (stays_act _).bind fun old => ?_
    split
    · exact (stays_emit _).bind fun _ => stays_act _
    · exact stays_pure _

theorem stays_storeOf (repo : Path) : (storeOf repo).Stays s :=
  stays_read.bind fun _ => stays_pure _

theorem stays_writeSite (site : Site) : (writeSite g site).Stays s :=
  (stays_emit _).bind fun _ => (stays_act _).bind fun _ => (stays_emit _).bind fun _ =>
    (stays_resolve _).bind
    fun _ => (stays_emit _).bind fun _ => (stays_emit _).bind fun _ => stays_emit _

theorem stays_run_of (h : ∀ store ms, (descriptionsFor g store ms).Stays s) (repo : Path) :
    (run g repo).Stays s := by
  have hanalyze : (analyze g repo).Stays s :=
    (stays_emit _).bind fun _ => (stays_emit _).bind fun _ => (stays_modulesOf _ _).bind fun ms =>
      (stays_emit _).bind fun _ => stays_pure ms
  refine hanalyze.bind fun ms => ?_
  split
  · exact stays_emit _
  · have hprepare : (prepare g repo ms).Stays s :=
      (stays_emit _).bind fun _ => (stays_storeOf repo).bind fun _ => stays_selectionsFor _ _ _
    exact hprepare.bind fun sel => (stays_storeOf repo).bind fun store => (h store ms).bind fun v =>
      stays_read.bind fun _ => stays_writeSite _

theorem stays_run (hg : g.describes = false) (repo : Path) : (run g repo).Stays s := by
  refine stays_run_of (fun store ms => ?_) repo
  rw [descriptionsFor, hg]
  exact stays_act _

end Generate

/-! ## the command line -/

section
variable {P : List String → Node → Prop} {d e : Disk}

theorem existsAsWritten_mono (h : d.Gains P e) {text : String}
    (ht : existsAsWritten d text = true) : existsAsWritten e text = true := by
  have hlookup {n : Node} (hn : d.lookup (Path.ofText text) = some n) :
      (e.lookup (Path.ofText text)).isSome ∧ (n = .folder → e.isFolder (Path.ofText text)) := by
    unfold Disk.isFolder Disk.lookup at *
    split at hn
    · rename_i q hq
      rw [h.keepsFolders.locate hq]
      refine ⟨h.isSome_node? (by rw [hn]; rfl), ?_⟩
      rintro rfl
      exact beq_iff_eq.mpr (h.keepsFolders q hn)
    · cases hn
  have hasked (b : Bool)
    (hb : (if b then d.isFolder (.ofText text) else (d.lookup (.ofText text)).isSome) = true) :
      (if b then e.isFolder (.ofText text) else (e.lookup (.ofText text)).isSome) = true := by
    cases b with
    | true => exact (hlookup (beq_iff_eq.mp hb)).2 rfl
    | false =>
      obtain ⟨n, hn⟩ := Option.isSome_iff_exists.mp hb
      exact (hlookup hn).1
  rw [existsAsWritten, Bool.and_eq_true] at ht ⊢
  exact ⟨ht.1, hasked _ ht.2⟩

theorem checkArguments_mono (h : d.Gains P e) {specs : List ArgumentSpec}
    {given values : List String} (hd : checkArguments d specs given = .ok values) :
    checkArguments e specs given = .ok values := by
  induction specs generalizing given values with
  | nil =>
    cases given with
    | nil => exact hd
    | cons a as => cases hd
  | cons a as ih =>
    rw [checkArguments] at hd ⊢
    split at hd
    · cases hd
    · rename_i v _
      split at hd
      · cases hd
      · rename_i hthere
        have hthere' : ¬ (a.mustExist && !existsAsWritten e v) = true := by
          rw [Bool.and_eq_true, Bool.not_eq_true'] at hthere ⊢
          rintro ⟨hmust, hmissing⟩
          refine hthere ⟨hmust, Bool.eq_false_iff.mpr fun hv => ?_⟩
          rw [existsAsWritten_mono h hv] at hmissing
          cases hmissing
        obtain ⟨rest, hrest, hvalues⟩ := ok_of_map hd
        rw [if_neg hthere', ih hrest]
        exact congrArg Except.ok hvalues

theorem CommandSpec.read_mono (h : d.Gains P e) {spec : CommandSpec} {args : List String}
    {wish : Wish} (hd : spec.read d args = .ok wish) : spec.read e args = .ok wish := by
  obtain ⟨line, hline, hd⟩ := bind_eq_ok.mp hd
  refine bind_eq_ok.mpr ⟨line, hline, ?_⟩
  by_cases hhelp : line.has helpOption.long
  · rw [if_pos hhelp] at hd ⊢
    exact hd
  · rw [if_neg hhelp] at hd ⊢
    obtain ⟨_, hchoices, hd⟩ := bind_eq_ok.mp hd
    obtain ⟨values, hvalues, hd⟩ := bind_eq_ok.mp hd
    exact bind_eq_ok.mpr ⟨(), hchoices, bind_eq_ok.mpr ⟨values, checkArguments_mono h hvalues, hd⟩⟩

/-- A line that asks for something asks for the same when there are more files. -/
theorem readWish_mono (h : d.Gains P e) {args : List String} {wish : Wish}
    (hd : readWish d args = .ok wish) : readWish e args = .ok wish := by
  unfold readWish at hd ⊢
  by_cases hargs : args.isEmpty
  · rw [if_pos hargs] at hd ⊢
    exact hd
  · rw [if_neg hargs] at hd ⊢
    split at hd
    · exact hd
    · split at hd
      · exact hd
      · exact hd
      · split at hd
        · rw [CommandSpec.read_mono h (ok_of_mapError hd)]
          rfl
        · exact hd

end

theorem perform_command {s : Surroundings} {args : List String} {w : World} {c : Command}
    (h : readWish w.disk args = .ok (.command c)) :
    ((perform args).run s).run w = (c.run.run s).run w := by
  rw [perform, Program.run_bind_ok (x := read) (a := s) rfl,
    Program.run_bind_ok (x := read) (a := s) rfl, Program.run_bind_ok (x := get) (a := w) rfl, h]

theorem run_of_runLine {s : Surroundings} {args : List String} {w w₁ : World} {c : Command}
    (hwish : readWish w.disk args = .ok (.command c)) (hstays : c.run.Stays s)
    (hrun : runLine s args w = (.ok 0, w₁)) : (c.run.run s).run w = (.ok (), w₁) := by
  rw [runLine, perform_command hwish] at hrun
  split at hrun
  · rename_i hok
    cases hrun
    exact hok
  · rename_i hexit
    exact absurd hexit (hstays _ _ _)
  · cases hrun

theorem Path.descends_climb? {done parts q : List String} (h : climb? done parts = some q)
    (hdone : Disk.Descends done) : Disk.Descends q := by
  induction parts generalizing done with
  | nil =>
    cases h
    exact hdone
  | cons p ps ih =>
    rw [climb?] at h
    split at h
    · split at h
      · cases h
      · exact ih h fun hmem => hdone (List.dropLast_subset done hmem)
    · rename_i hp
      refine ih h ?_
      simp [Disk.Descends, Ne.symm hp, show ".." ∉ done from hdone]

theorem Path.descends_collapse (parts : List String) : Disk.Descends (collapse parts) := by
  have hfold (done : List String) (hdone : ".." ∉ done) :
      ".." ∉ parts.foldl (fun done p => if p = ".." then done.dropLast else done ++ [p]) done := by
    induction parts generalizing done with
    | nil => exact hdone
    | cons p ps ih =>
      refine ih _ ?_
      dsimp only
      split
      · exact fun h => hdone (List.dropLast_subset done h)
      · rename_i hp
        simp [hdone, Ne.symm hp]
  exact hfold [] List.not_mem_nil

theorem Path.descends_resolve (home : String) (p : Path) :
    Disk.Descends (p.resolve home).parts := by
  unfold resolve
  split
  · rename_i parts hin
    rw [inside?] at hin
    split at hin
    · cases hin
    · exact descends_climb? hin List.not_mem_nil
  · exact descends_collapse _

def Store.named (s : Surroundings) (d : Disk) (repo : String) : Store :=
  ⟨((Path.ofText repo).resolve d.home).child storeFolder, s.now⟩

/-- Documentation that was generated without a service is generated again with exit code 0, and
every file stays as it is. -/
theorem regeneration_keeps_files {s : Surroundings} {args : List String} {w w₁ : World}
    {repo : String} {g : GenerateSettings}
    (hwish : readWish w.disk args = .ok (.command (.generate repo g))) (hout : g.output = "docs")
    (hdescribes : g.describes = false) (hstore : (Store.named s w.disk repo).HoldsChoices w.disk)
    (hrun : runLine s args w = (.ok 0, w₁)) (w₂ : World) (hw₂ : w₂.disk = w₁.disk) :
    ∃ w₃ : World, runLine s args w₂ = (.ok 0, w₃) ∧ w₃.disk = w₁.disk := by
  have hrepo : Disk.Descends ((Path.ofText repo).resolve w.disk.home).parts :=
    Path.descends_resolve _ _
  have hcommand : (Command.generate repo g).run.Stays s :=
    (Program.stays_resolve repo).bind fun p => Generate.stays_run hdescribes p
  have hdone := run_of_runLine hwish hcommand hrun
  obtain ⟨p, w', hresolve, hgenerate⟩ := Program.run_bind hdone
  obtain ⟨rfl, rfl⟩ := Program.resolve_cases hresolve
  obtain ⟨hgains, hrests⟩ := Generate.run_again hout hdescribes hrepo hstore hgenerate
  have hagain : (Command.generate repo g).run.Rests s w₁.disk () := by
    refine (Program.rests_resolve repo _).bind ?_
    rw [hgains.home_eq]
    exact hrests
  obtain ⟨w₃, hrun₃, hw₃⟩ := hagain w₂ hw₂
  refine ⟨w₃, ?_, hw₃⟩
  rw [runLine, perform_command (hw₂ ▸ readWish_mono hgains hwish), hrun₃]

/-! ## a repository beside a file of ignored paths -/

def keyless : Surroundings :=
  ⟨"docuagent", .recorded, "2024-05-01T12:00:00", "2024-05-01 12:00", none, fun _ _ => none⟩

def libDisk : Disk :=
  ⟨"/work", [([".gitignore"], .file (.text "*.log")), (["lib"], .folder),
    (["lib", "api.py"], .file apiContent)]⟩

def libLine : List String :=
  ["generate", "lib", "--no-ai", "--use-selections", "--editable", "--title", "Lib"]

def libSettings : GenerateSettings := ⟨"docs", "Lib", false, true, false, true, true⟩

/-- The first run adds to the file of ignored paths and finds no selections; the second one finds
both done. -/
theorem libDisk_regenerates :
    readWish libDisk libLine = .ok (.command (.generate "lib" libSettings)) ∧
    (Store.named keyless libDisk "lib").HoldsChoices libDisk ∧
    ∃ w₁ w₂ : World, runLine keyless libLine { disk := libDisk } = (.ok 0, w₁) ∧
      (w₁.disk.node? ["docs", "modules", "api.html"]).isSome ∧
      runLine keyless libLine { disk := w₁.disk } = (.ok 0, w₂) ∧ w₂.disk = w₁.disk := by
  have hwish : readWish libDisk libLine = .ok (.command (.generate "lib" libSettings)) := rfl
  have hstore : (Store.named keyless libDisk "lib").HoldsChoices libDisk := by
    have husable : (Store.named keyless libDisk "lib").Usable libDisk := by
      refine ⟨_, ["lib", ".docuagent"], by decide, rfl, rfl, ?_, by decide⟩
      intro n hn
      exact ⟨_, (Option.some.inj hn).symm⟩
    exact Store.holdsChoices_of_holds (.of_none husable rfl) _
  have hdone : (runLine keyless libLine { disk := libDisk }).1.toOption = some 0 ∧
      ((runLine keyless libLine { disk := libDisk }).2.disk.node?
        ["docs", "modules", "api.html"]).isSome := by
    decide +kernel
  obtain ⟨hcode, hpage⟩ := hdone
  cases hrun : runLine keyless libLine { disk := libDisk } with
  | mk r w₁ =>
    rw [hrun] at hcode hpage
    cases r with
    | error f => cases hcode
    | ok code =>
      cases hcode
      obtain ⟨w₂, hagain, hsame⟩ :=
        regeneration_keeps_files (s := keyless) (w := { disk := libDisk })
        hwish rfl rfl hstore hrun { disk := w₁.disk } rfl
      exact ⟨hwish, hstore, w₁, w₂, rfl, hpage, hagain, hsame⟩

end Apidoc
