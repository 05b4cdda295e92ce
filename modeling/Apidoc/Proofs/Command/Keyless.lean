import Apidoc.Proofs.Command.Session
import Apidoc.Proofs.Site.Described

/-!
# Generating without a key

Without a key for the service no descriptions are made, and those in the store are not looked at.
Documentation that is generated without the service has them.

* `Generate.planned`           the site with the descriptions in the store;
* `Generate.run_cases`         what a run that succeeds has written;
* `Generate.agree_run`         runs with and without the service end alike, if their sites can be
                               written alike;
* `keyless_generation_iff`     without a key they make the same disk, if no stored description is
                               found on it.
-/

namespace Apidoc

namespace Generate

open Program

variable {g : GenerateSettings} {repo : Path} {store : Store} {entries : List Entry}
  {ms : List ModuleDoc} {s : Surroundings} {w w₁ : World} {d : Disk} {E : Disk → Disk → Prop}

/-! ## selections -/

def chosen (store : Store) (use : Bool) (entries : List Entry) : Action Selections := do
  if use then
    let old ← store.load
    if old.isEmpty then store.start entries true else return old
  else store.start entries true

theorem selectionsFor_cases {use : Bool} {sel : Selections}
    (h : ((selectionsFor store use entries).run s).run w = (.ok sel, w₁)) :
    (chosen store use entries).run w.disk = (.ok sel, w₁.disk) := by
  cases use with
  | false => exact act_cases h
  | true =>
    obtain ⟨old, w₂, hload, h⟩ := run_bind h
    rw [chosen, if_pos rfl, Run.bind_ok (act_cases hload)]
    split at h
    · obtain ⟨_, w₃, hprint, h⟩ := run_bind h
      rw [if_pos ‹_›, ← (emit_cases hprint).1]
      exact act_cases h
    · rw [if_neg ‹_›]
      cases h
      rfl

theorem chosen_of_prepare {sel : Selections}
    (h : ((prepare g repo ms).run s).run w = (.ok sel, w₁)) :
    (chosen ⟨repo.child storeFolder, s.now⟩ g.useSelections (contents .full ms)).run w.disk =
      (.ok sel, w₁.disk) := by
  obtain ⟨w₂, hw₂, hsel, -⟩ := prepare_cases h
  exact hw₂ ▸ selectionsFor_cases hsel

theorem agree_selectionsFor (store : Store) (use : Bool) (entries : List Entry)
    (s : Surroundings) (d : Disk) :
    (selectionsFor store use entries).Agree (selectionsFor store use entries) s d d Eq := by
  cases use with
  | false => exact agree_act rfl rfl rfl
  | true =>
    refine Agree.bind (agree_act rfl rfl rfl) (fun _ _ => id) fun old w w' _ _ e he => ?_
    subst he
    split
    · exact .emit rfl (agree_act rfl rfl rfl)
    · exact fun w w' hw hw' => ⟨.ok old, w, w', rfl, rfl, hw.trans hw'.symm⟩

theorem agree_prepare (g : GenerateSettings) (repo : Path) (ms : List ModuleDoc)
    (s : Surroundings) (d : Disk) : (prepare g repo ms).Agree (prepare g repo ms) s d d Eq :=
  .emit rfl (.after (rests_storeOf s repo d) (rests_storeOf s repo d)
    (agree_selectionsFor _ _ _ s d))

/-! ## descriptions -/

theorem rests_tellSkipped (s : Surroundings) (d : Disk) :
    (tellSkipped .noServiceKey).Rests s d () :=
  (rests_emit_text (by decide +kernel) s d).bind (rests_emit_text (by decide +kernel) s d)

theorem rests_makeDescriptions (hkey : s.serviceKey = none) (store : Store) (includeSource : Bool)
    (ms : List ModuleDoc) (d : Disk) : (makeDescriptions store includeSource ms).Rests s d [] := by
  have hconnect : Agent.connect s.service defaultModel none s.serviceKey =
      .error .noServiceKey := by
    rw [hkey]
    rfl
  refine (rests_emit_text rfl s d).bind (rests_read.bind ?_)
  rw [hconnect]
  exact (rests_tellSkipped s d).bind (rests_pure [])

theorem rests_descriptionsFor (hg : g.describes = true) (hkey : s.serviceKey = none) (store : Store)
    (ms : List ModuleDoc) (d : Disk) : (descriptionsFor g store ms).Rests s d (.map []) := by
  rw [descriptionsFor, if_pos hg]
  exact (rests_makeDescriptions hkey store g.includeSource ms d).bind (rests_pure _)

def described (g : GenerateSettings) (store : Store) : Action Data :=
  if g.describes then return .map [] else store.loadDescriptions

theorem does_descriptionsFor (hkey : s.serviceKey = none) (g : GenerateSettings) (store : Store)
    (ms : List ModuleDoc) (d : Disk) :
    (descriptionsFor g store ms).Does s d (described g store) := by
  cases hg : g.describes with
  | true =>
    rw [described, hg, if_pos rfl]
    exact .of_rests (rests_descriptionsFor hg hkey store ms d)
  | false =>
    rw [described, descriptionsFor, hg, if_neg Bool.false_ne_true, if_neg Bool.false_ne_true]
    exact does_act _

theorem stays_descriptionsFor (hkey : s.serviceKey = none) (g : GenerateSettings) (store : Store)
    (ms : List ModuleDoc) : (descriptionsFor g store ms).Stays s :=
  .of_does (does_descriptionsFor hkey g store ms)

theorem looks_described (g : GenerateSettings) (store : Store) : (described g store).Looks := by
  rw [described]
  split
  · exact Action.looks_pure _
  · exact Store.looks_loadDescriptions store

/-! ## sites -/

def planned (g : GenerateSettings) (stamp : String) (store : Store) (ms : List ModuleDoc) :
    Action Site := do
  let selections ← chosen store g.useSelections (contents .full ms)
  let descriptions ← store.loadDescriptions
  return siteOf g stamp ms selections descriptions

theorem planned_cases {stamp : String} {site : Site} {e : Disk}
    (h : (planned g stamp store ms).run d = (.ok site, e)) :
    ∃ sel v, (chosen store g.useSelections (contents .full ms)).run d = (.ok sel, e) ∧
      store.loadDescriptions.run e = (.ok v, e) ∧ site = siteOf g stamp ms sel v := by
  obtain ⟨sel, e₁, hsel, hrest⟩ := Run.ok_of_bind h
  obtain ⟨v, e₂, hv, hsite⟩ := Run.ok_of_bind hrest
  cases (Store.looks_loadDescriptions store).run_eq hv
  cases hsite
  exact ⟨sel, v, hsel, hv, rfl⟩

theorem run_planned {stamp : String} {sel : Selections} {v : Data} {e : Disk}
    (hsel : (chosen store g.useSelections (contents .full ms)).run d = (.ok sel, e))
    (hv : store.loadDescriptions.run e = (.ok v, e)) :
    (planned g stamp store ms).run d = (.ok (siteOf g stamp ms sel v), e) := by
  rw [planned, Run.bind_ok hsel, Run.bind_ok hv]
  rfl

def plan? (g : GenerateSettings) (s : Surroundings) (repo : Path) (d : Disk) : Option Site :=
  (survey d repo ⟨g.includePrivate, false, []⟩).modules.toOption.bind fun ms =>
    ((planned g s.stamp ⟨repo.child storeFolder, s.now⟩ ms).run d).1.toOption

theorem plan?_cases {p : Site → Bool} (h : (plan? g s repo d).any p = true) :
    ∃ ms site e, (survey d repo ⟨g.includePrivate, false, []⟩).modules = .ok ms ∧
      (planned g s.stamp ⟨repo.child storeFolder, s.now⟩ ms).run d = (.ok site, e) ∧
      p site = true := by
  unfold plan? at h
  cases hms : (survey d repo ⟨g.includePrivate, false, []⟩).modules with
  | error f =>
    rw [hms] at h
    cases h
  | ok ms =>
    rw [hms] at h
    cases hplan : (planned g s.stamp ⟨repo.child storeFolder, s.now⟩ ms).run d with
    | mk r e =>
      change ((planned g s.stamp ⟨repo.child storeFolder, s.now⟩ ms).run d).1.toOption.any p =
        true at h
      rw [hplan] at h
      cases r with
      | error f => cases h
      | ok site => exact ⟨ms, site, e, rfl, hplan, h⟩

theorem writable_searchText {v : Data} (hv : Json.Writable v) (sel : Selections) (header : Header) :
    Json.Writable ((settingsFor g sel v).searchText header) := by
  rw [SiteSettings.searchText]
  cases hget : (settingsFor g sel v).description? header.id with
  | none => exact .str _
  | some t =>
    obtain ⟨p, hp, rfl⟩ := Option.map_eq_some_iff.mp hget
    have hmem := List.mem_of_find?_eq_some hp
    cases v with
    | map ds =>
      obtain ⟨q, hq, hqp⟩ := List.mem_filterMap.mp hmem
      split at hqp
      · cases hqp
        exact (hv.pairs q hq).2
      · cases hqp
    | _ => cases hmem

/-! ## runs -/

theorem agree_writeSite {site other : Site} {r : Except Fault Unit} {e e' : Disk}
    (hsite : (site.write (.ofText g.output)).run d = (r, e))
    (hother : (other.write (.ofText g.output)).run d = (r, e')) (hE : E d d) (hends : E e e')
    (hhome : ∀ e e', E e e' → e.home = e'.home) :
    (writeSite g site).Agree (writeSite g other) s d d E := by
  refine .emit hE (Agree.bind (agree_act hsite hother hends)
    (fun _ _ => id) fun _ w w' _ _ e he => ?_)
  have hout : (Path.ofText g.output).resolve e.home =
      (Path.ofText g.output).resolve w'.disk.home := by
    rw [hhome _ _ he]
  refine .emit he (.after (rests_resolve _ _) (rests_resolve _ _) ?_)
  rw [hout]
  exact .emit he (.emit he (agree_emit _ he))

theorem agree_analyze (g : GenerateSettings) (repo : Path) (s : Surroundings) (d : Disk) :
    (analyze g repo).Agree (analyze g repo) s d d Eq := by
  refine .emit rfl (.emit rfl (Agree.bind (agree_modulesOf _ _ d)
    (fun _ _ => id) fun ms w w' _ _ e he => ?_))
  subst he
  exact .emit rfl fun w w' hw hw' => ⟨.ok ms, w, w', rfl, rfl, hw.trans hw'.symm⟩

theorem run_cases (hkey : s.serviceKey = none) (h : ((run g repo).run s).run w = (.ok (), w₁)) :
    ∃ ms, (survey w.disk repo ⟨g.includePrivate, false, []⟩).modules = .ok ms ∧
      (ms = [] ∧ w₁.disk = w.disk ∨ ms ≠ [] ∧ ∃ sel v e,
        (chosen ⟨repo.child storeFolder, s.now⟩ g.useSelections (contents .full ms)).run w.disk =
          (.ok sel, e) ∧
        (described g ⟨repo.child storeFolder, s.now⟩).run e = (.ok v, e) ∧
        ((siteOf g s.stamp ms sel v).write (.ofText g.output)).run e = (.ok (), w₁.disk)) := by
  obtain ⟨ms, w₂, hanalyze, h⟩ := run_bind h
  obtain ⟨hw₂, hms, -⟩ := analyze_cases hanalyze
  refine ⟨ms, hms, ?_⟩
  split at h
  · rename_i hempty
    exact .inl ⟨List.isEmpty_iff.mp hempty, (emit_cases h).1.trans hw₂⟩
  · rename_i hempty
    obtain ⟨sel, w₃, hprepare, hfinish⟩ := run_bind h
    obtain ⟨v, w₄, hv, hwrite⟩ := finish_cases hfinish
    have hchosen := chosen_of_prepare hprepare
    have hv := (does_descriptionsFor hkey g _ ms _).cases hv
    have hwrite := (does_writeSite _).cases hwrite
    rw [hw₂] at hchosen
    have hw₄ := (looks_described g _).run_eq hv
    rw [hw₄] at hv hwrite
    exact .inr ⟨by simpa using hempty, sel, v, w₃.disk, hchosen, hv, hwrite⟩

theorem written_of_run (hkey : s.serviceKey = none) (h : ((run g repo).run s).run w = (.ok (), w₁))
    {sel : Selections} {e : Disk}
    (hms : (survey w.disk repo ⟨g.includePrivate, false, []⟩).modules = .ok ms) (hne : ms ≠ [])
    (hsel : (chosen ⟨repo.child storeFolder, s.now⟩ g.useSelections (contents .full ms)).run
      w.disk = (.ok sel, e)) :
    ∃ v, (described g ⟨repo.child storeFolder, s.now⟩).run e = (.ok v, e) ∧
      ((siteOf g s.stamp ms sel v).write (.ofText g.output)).run e = (.ok (), w₁.disk) := by
  obtain ⟨ms', hms', hrun⟩ := run_cases hkey h
  cases hms.symm.trans hms'
  obtain ⟨-, sel', v, e', hsel', hv, hwrite⟩ := hrun.resolve_left fun hnil => hne hnil.1
  cases hsel.symm.trans hsel'
  exact ⟨v, hv, hwrite⟩

/-- Without a key that is the site without descriptions, whichever are stored. -/
theorem muted_of_run (hkey : s.serviceKey = none)
    (h : ((run { g with describes := true } repo).run s).run w = (.ok (), w₁))
    {sel : Selections} {e : Disk}
    (hms : (survey w.disk repo ⟨g.includePrivate, false, []⟩).modules = .ok ms) (hne : ms ≠ [])
    (hsel : (chosen ⟨repo.child storeFolder, s.now⟩ g.useSelections (contents .full ms)).run
      w.disk = (.ok sel, e)) (v : Data) : ((siteOf g s.stamp ms sel v).muted.write
        (.ofText g.output)).run e = (.ok (), w₁.disk) := by
  obtain ⟨v₀, hv₀, hwrite⟩ := written_of_run hkey h hms hne hsel
  cases hv₀
  exact hwrite

/-- Runs with and without the service end alike, if their sites can be written alike. -/
theorem agree_run (hkey : s.serviceKey = none) (hE : ∀ e, E e e)
    (hhome : ∀ e e', E e e' → e.home = e'.home)
    (hsites : ∀ ms sel e, (survey d repo ⟨g.includePrivate, false, []⟩).modules = .ok ms → ms ≠ [] →
      (chosen ⟨repo.child storeFolder, s.now⟩ g.useSelections (contents .full ms)).run d =
        (.ok sel, e) →
      ∃ v r e₁ e₂, (⟨repo.child storeFolder, s.now⟩ : Store).loadDescriptions.run e = (.ok v, e) ∧
        ((siteOf g s.stamp ms sel v).muted.write (.ofText g.output)).run e = (r, e₁) ∧
        ((siteOf g s.stamp ms sel v).write (.ofText g.output)).run e = (r, e₂) ∧ E e₁ e₂) :
    (run { g with describes := true } repo).Agree (run { g with describes := false } repo)
      s d d E := by
  have hsame : ∀ e e', e = e' → E e e' := by
    rintro e _ rfl
    exact hE e
  refine Agree.bind (agree_analyze g repo s d) hsame fun ms w w' hanalyze hw e he => ?_
  subst he
  obtain ⟨hw', hms, -⟩ := analyze_cases hanalyze
  rw [hw] at hw' hms
  rw [hw']
  split
  · exact agree_emit _ (hE d)
  · rename_i hempty
    refine Agree.bind (agree_prepare g repo ms s d) hsame fun sel w w' hprepare hw e he => ?_
    subst he
    have hchosen := chosen_of_prepare hprepare
    rw [hw] at hchosen
    obtain ⟨v, r, e₁, e₂, hv, hmuted, hsite, hends⟩ :=
      hsites ms sel w'.disk hms (by simpa using hempty) hchosen
    refine .after (rests_storeOf s repo _) (rests_storeOf s repo _) ?_
    refine .after (rests_descriptionsFor rfl hkey _ ms w'.disk) (rests_act hv)
      (.after rests_read rests_read ?_)
    exact agree_writeSite hmuted hsite (hE _) hends hhome

/-- No stored description is found on the site, if there is one: it can be made with them, and then
they do not show. -/
def Hides (g : GenerateSettings) (s : Surroundings) (repo : Path) (d : Disk) : Prop :=
  ∃ ms, (survey d repo ⟨g.includePrivate, false, []⟩).modules = .ok ms ∧
    (ms = [] ∨ ∃ site e, (planned g s.stamp ⟨repo.child storeFolder, s.now⟩ ms).run d =
      (.ok site, e) ∧ site.Unseen)

variable {w₂ : World}

/-- The files of both runs tell whether a description is found. -/
theorem hides_of_reads (hkey : s.serviceKey = none)
    (h : ((run { g with describes := true } repo).run s).run w = (.ok (), w₁))
    (h' : ((run { g with describes := false } repo).run s).run w = (.ok (), w₂))
    (hreads : ∀ parts, w₂.disk.read ((Path.ofText g.output).below parts) =
      w₁.disk.read ((Path.ofText g.output).below parts)) : Hides g s repo w.disk := by
  obtain ⟨ms, hms, hkeyless⟩ := run_cases hkey h
  refine ⟨ms, hms, hkeyless.imp And.left ?_⟩
  rintro ⟨hne, sel, -, e, hsel, -, -⟩
  obtain ⟨v, hv, hsite⟩ := written_of_run hkey h' hms hne hsel
  have hwritable := Store.writable_of_loadDescriptions hv
  exact ⟨_, e, run_planned hsel hv, Site.unseen_of_reads (writable_searchText hwritable sel)
    (muted_of_run hkey h hms hne hsel v) hsite fun f _ => hreads f.1⟩

theorem run_of_hides (hkey : s.serviceKey = none)
    (h : ((run { g with describes := true } repo).run s).run w = (.ok (), w₁))
    (hhides : Hides g s repo w.disk) :
    ∃ w₂ : World, ((run { g with describes := false } repo).run s).run w = (.ok (), w₂) ∧
    w₂.disk = w₁.disk := by
  have hagree : (run { g with describes := true } repo).Agree
    (run { g with describes := false } repo) s w.disk w.disk
      Eq := by
    refine agree_run hkey (fun _ => rfl) (fun _ _ => congrArg _) fun ms sel e hms hne hsel => ?_
    obtain ⟨ms', hms', hhides⟩ := hhides
    cases hms.symm.trans hms'
    obtain ⟨site, e', hplanned, hunseen⟩ := hhides.resolve_left hne
    obtain ⟨sel', v, hsel', hv, rfl⟩ := planned_cases hplanned
    cases hsel.symm.trans hsel'
    have hmuted := muted_of_run hkey h hms hne hsel v
    have hwritable := Store.writable_of_loadDescriptions hv
    have hsite : ((siteOf g s.stamp ms sel v).write (.ofText g.output)).run e = (.ok (), w₁.disk) :=
      (Site.write_muted_iff (writable_searchText hwritable sel) hmuted).mpr hunseen
    exact ⟨v, .ok (), w₁.disk, w₁.disk, hv, hmuted, hsite, rfl⟩
  obtain ⟨r, w₁', w₂, hrun, hrun', hdisk⟩ := hagree w w rfl rfl
  cases hrun.symm.trans h
  exact ⟨w₂, hrun', hdisk.symm⟩

theorem run_keyless (hkey : s.serviceKey = none)
    (h : ((run { g with describes := false } repo).run s).run w = (.ok (), w₂)) :
    ∃ w₁ : World, ((run { g with describes := true } repo).run s).run w = (.ok (), w₁) := by
  have hagree : (run { g with describes := true } repo).Agree
    (run { g with describes := false } repo) s w.disk w.disk
      (fun e e' => e.home = e'.home) := by
    refine agree_run hkey (fun _ => rfl) (fun _ _ => id) fun ms sel e hms hne hsel => ?_
    obtain ⟨v, hv, hsite⟩ := written_of_run hkey h hms hne hsel
    obtain ⟨e₁, hmuted⟩ := Site.write_of_names Site.names_muted Site.fault?_muted hsite
    refine ⟨v, .ok (), e₁, w₂.disk, hv, hmuted, hsite, ?_⟩
    rw [Site.home_write hmuted, Site.home_write hsite]
  obtain ⟨r, w₁, w₂', hrun, hrun', -⟩ := hagree w w rfl rfl
  cases hrun'.symm.trans h
  exact ⟨w₁, hrun⟩

/-- No descriptions are stored when the selections for the site are there. -/
def Undescribed (g : GenerateSettings) (s : Surroundings) (repo : Path) (d : Disk) : Prop :=
  ∀ ms sel e, (survey d repo ⟨g.includePrivate, false, []⟩).modules = .ok ms →
    (chosen ⟨repo.child storeFolder, s.now⟩ g.useSelections (contents .full ms)).run d =
      (.ok sel, e) →
    (⟨repo.child storeFolder, s.now⟩ : Store).loadDescriptions.run e = (.ok (.map []), e)

theorem agree_run_of_undescribed (hkey : s.serviceKey = none) (h : Undescribed g s repo d) :
    (run { g with describes := true } repo).Agree (run { g with describes := false } repo)
      s d d Eq := by
  refine agree_run hkey (fun _ => rfl) (fun _ _ => congrArg _) fun ms sel e hms _ hsel => ?_
  exact ⟨.map [], _, _, _, h ms sel e hms hsel, rfl, rfl, rfl⟩

end Generate

/-! ## the command line -/

theorem runLine_generate {s : Surroundings} {args : List String} {w : World} {repo : String}
    {g : GenerateSettings} (hkey : s.serviceKey = none)
    (hwish : readWish w.disk args = .ok (.command (.generate repo g))) (w₁ : World) :
    runLine s args w = (.ok 0, w₁) ↔
      ((Generate.run g ((Path.ofText repo).resolve w.disk.home)).run s).run w = (.ok (), w₁) := by
  have hcommand : ((Command.generate repo g).run.run s).run w =
      ((Generate.run g ((Path.ofText repo).resolve w.disk.home)).run s).run w :=
    Program.run_bind_ok (x := Program.resolve repo) rfl _
  constructor
  · intro hrun
    rw [← hcommand]
    refine run_of_runLine hwish ((Program.stays_resolve repo).bind fun p => ?_) hrun
    exact Generate.stays_run_of (Generate.stays_descriptionsFor hkey g) p
  · intro hrun
    rw [runLine, perform_command hwish, hcommand, hrun]

theorem runLine_of_agree {s : Surroundings} {args args' : List String} {w : World} {c c' : Command}
    {E : Disk → Disk → Prop} (hwish : readWish w.disk args = .ok (.command c))
    (hwish' : readWish w.disk args' = .ok (.command c'))
    (h : c.run.Agree c'.run s w.disk w.disk E) :
    ∃ r w₁ w₂, runLine s args w = (r, w₁) ∧ runLine s args' w = (r, w₂) ∧ E w₁.disk w₂.disk := by
  obtain ⟨r, w₁, w₂, hrun, hrun', hE⟩ := h w w rfl rfl
  rw [runLine, runLine, perform_command hwish, perform_command hwish', hrun, hrun']
  rcases r with (_ | _) | _
  · exact ⟨_, w₁, w₂, rfl, rfl, hE⟩
  · exact ⟨_, w₁, w₂, rfl, rfl, hE⟩
  · exact ⟨_, w₁, w₂, rfl, rfl, hE⟩

theorem exists_world {x : Except Fault Nat × World} (h : x.1.toOption = some 0) :
    ∃ w, x = (.ok 0, w) := by
  obtain ⟨r, w⟩ := x
  cases r with
  | ok code =>
    cases h
    exact ⟨w, rfl⟩
  | error f => cases h

def storedDisk (id text : String) : Disk :=
  { libDisk with nodes := libDisk.nodes ++ [(["lib", ".docuagent"], .folder),
      (["lib", ".docuagent", "descriptions.json"],
        .file (.text ("\x7b\"descriptions\": \x7b\"" ++ id ++ "\": \"" ++ text ++ "\"\x7d\x7d")))] }

theorem survey_storedDisk (id text : String) :
    (survey (storedDisk id text) ((Path.ofText "lib").resolve "/work") ⟨false, false, []⟩).modules =
      .ok libModules := by
  have hgains : libDisk.Gains (Unsurveyed ((Path.ofText "lib").resolve "/work"))
      (storedDisk id text) := by
    refine .step (q := ["lib", ".docuagent"]) (n := .folder) (.inl (by decide)) nofun
      (fun _ => rfl) ?_
    exact .step (q := ["lib", ".docuagent", "descriptions.json"]) (n := .file _)
      (.inl (by decide)) nofun nofun (.refl _)
  rw [hgains.survey_eq survey_lib, survey_lib]

/-- Without a key, documentation is generated wherever it can be generated without the service.  It
is the same, in all files, if no stored description is found on the site; the files in the output
directory tell.  Where none is stored, both runs end alike, even if they fail. -/
theorem keyless_generation_iff {s : Surroundings} {args args' : List String} {w : World}
    {repo : String} {g : GenerateSettings} (hkey : s.serviceKey = none)
    (hline : readWish w.disk args = .ok (.command (.generate repo { g with describes := true })))
    (hline' : readWish w.disk args' =
      .ok (.command (.generate repo { g with describes := false }))) :
    (∀ w₂, runLine s args' w = (.ok 0, w₂) → ∃ w₁, runLine s args w = (.ok 0, w₁)) ∧
    (∀ w₁, runLine s args w = (.ok 0, w₁) →
      ((∃ w₂, runLine s args' w = (.ok 0, w₂) ∧ w₂.disk = w₁.disk) ↔
        Generate.Hides g s ((Path.ofText repo).resolve w.disk.home) w.disk) ∧
      ∀ w₂, runLine s args' w = (.ok 0, w₂) → (w₂.disk = w₁.disk ↔ ∀ parts,
        w₂.disk.read ((Path.ofText g.output).below parts) =
          w₁.disk.read ((Path.ofText g.output).below parts))) ∧
    (Generate.Undescribed g s ((Path.ofText repo).resolve w.disk.home) w.disk →
      ∃ r w₁ w₂, runLine s args w = (r, w₁) ∧ runLine s args' w = (r, w₂) ∧ w₁.disk = w₂.disk) := by
  have hrun (w₁ : World) := runLine_generate hkey hline w₁
  have hrun' (w₂ : World) := runLine_generate hkey hline' w₂
  refine ⟨fun w₂ h' => ?_, fun w₁ h => ⟨⟨?_, fun hhides => ?_⟩,
    fun w₂ h' => ⟨fun hdisk parts => by rw [hdisk], ?_⟩⟩,
    fun hnone => ?_⟩
  · simp only [hrun, hrun'] at h' ⊢
    exact Generate.run_keyless hkey h'
  · rintro ⟨w₂, h', hdisk⟩
    rw [hrun] at h
    rw [hrun'] at h'
    exact Generate.hides_of_reads hkey h h' fun parts => by rw [hdisk]
  · simp only [hrun, hrun'] at h ⊢
    exact Generate.run_of_hides hkey h hhides
  · intro hreads
    rw [hrun] at h
    rw [hrun'] at h'
    obtain ⟨w₃, h₃, hw₃⟩ := Generate.run_of_hides hkey h (Generate.hides_of_reads hkey h h' hreads)
    cases h'.symm.trans h₃
    exact hw₃
  · refine runLine_of_agree hline hline'
      (.after (Program.rests_resolve repo _) (Program.rests_resolve repo _) ?_)
    exact Generate.agree_run_of_undescribed hkey hnone

/-- A description that belongs to nothing on the site changes nothing. -/
theorem foreign_description_hidden :
    ∃ w₁ w₂, runLine keyless ["generate", "lib"] { disk := storedDisk "000000000000" "Gone." } =
      (.ok 0, w₁) ∧
      runLine keyless ["generate", "lib", "--no-ai"] { disk := storedDisk "000000000000" "Gone." } =
        (.ok 0, w₂) ∧
      w₂.disk = w₁.disk := by
  have hline : readWish (storedDisk "000000000000" "Gone.") ["generate", "lib"] =
      .ok (.command (.generate "lib" { libPages with describes := true })) := rfl
  have hline' : readWish (storedDisk "000000000000" "Gone.") ["generate", "lib", "--no-ai"] =
      .ok (.command (.generate "lib" { libPages with describes := false })) := rfl
  have hrun : (runLine keyless ["generate", "lib", "--no-ai"]
      { disk := storedDisk "000000000000" "Gone." }).1.toOption = some 0 := by decide +kernel
  have hplan : (Generate.plan? libPages keyless ((Path.ofText "lib").resolve "/work")
      (storedDisk "000000000000" "Gone.")).any Site.isUndescribed = true := by
    rw [Generate.plan?,
      show (survey _ _ ⟨libPages.includePrivate, false, []⟩).modules = _ from survey_storedDisk _ _]
    decide +kernel
  obtain ⟨ms, site, e, hms, hsite, hnone⟩ := Generate.plan?_cases hplan
  obtain ⟨hends, hsame, -⟩ := keyless_generation_iff (s := keyless)
    (w := { disk := storedDisk "000000000000" "Gone." }) rfl hline hline'
  obtain ⟨w₂, h'⟩ := exists_world hrun
  obtain ⟨w₁, h⟩ := hends w₂ h'
  have hhides :=
    (hsame w₁ h).1.mpr ⟨ms, hms, .inr ⟨site, e, hsite, Site.unseen_of_isUndescribed hnone⟩⟩
  exact ⟨w₁, hhides.choose, h, hhides.choose_spec⟩

/-- The description of a function is lost without a key. -/
theorem stored_description_lost :
    ∃ w₁ w₂, runLine keyless ["generate", "lib"]
    { disk := storedDisk "638410ba6544" "Does nothing." } = (.ok 0, w₁) ∧
      runLine keyless ["generate", "lib", "--no-ai"]
      { disk := storedDisk "638410ba6544" "Does nothing." } =
        (.ok 0, w₂) ∧
      ∃ parts, w₂.disk.read ((Path.ofText "docs").below parts) ≠
        w₁.disk.read ((Path.ofText "docs").below parts) := by
  have hline : readWish (storedDisk "638410ba6544" "Does nothing.") ["generate", "lib"] =
      .ok (.command (.generate "lib" { libPages with describes := true })) := rfl
  have hline' : readWish (storedDisk "638410ba6544" "Does nothing.")
    ["generate", "lib", "--no-ai"] =
      .ok (.command (.generate "lib" { libPages with describes := false })) := rfl
  have hrun : (runLine keyless ["generate", "lib", "--no-ai"]
      { disk := storedDisk "638410ba6544" "Does nothing." }).1.toOption = some 0 := by
        decide +kernel
  have hplan : (Generate.plan? libPages keyless ((Path.ofText "lib").resolve "/work")
      (storedDisk "638410ba6544" "Does nothing.")).any (fun site => site.shownModules.any fun m =>
        (site.settings.searched m).any fun h =>
          ((site.settings.description? h.id).getD .null).isTrue && h.docs.isNone) = true := by
    rw [Generate.plan?,
      show (survey _ _ ⟨libPages.includePrivate, false, []⟩).modules = _ from survey_storedDisk _ _]
    decide +kernel
  obtain ⟨w₂, h'⟩ := exists_world hrun
  have hdone' :=
    (runLine_generate (s := keyless) (w := { disk := storedDisk "638410ba6544" "Does nothing." })
      rfl hline' w₂).mp h'
  obtain ⟨w₁, hdone⟩ := Generate.run_keyless (s := keyless) (g := libPages) rfl hdone'
  have h :=
    (runLine_generate (s := keyless) (w := { disk := storedDisk "638410ba6544" "Does nothing." })
      rfl hline w₁).mpr hdone
  refine ⟨w₁, w₂, h, h', ?_⟩
  by_contra! hsame
  obtain ⟨ms, hms, hhides⟩ :=
    Generate.hides_of_reads (s := keyless) (g := libPages) rfl hdone hdone' hsame
  obtain ⟨ms', site, e, hms', hsite, hseen⟩ := Generate.plan?_cases hplan
  cases hms.symm.trans hms'
  simp only [List.any_eq_true, Bool.and_eq_true, Option.isNone_iff_eq_none] at hseen
  obtain ⟨m, hm, header, hheader, htrue, hdocs⟩ := hseen
  rcases hhides with rfl | ⟨site', e', hsite', hunseen⟩
  · obtain ⟨sel, v, -, -, rfl⟩ := Generate.planned_cases hsite
    cases hm
  · cases hsite.symm.trans hsite'
    cases hv : site.settings.description? header.id with
    | none =>
      rw [hv] at htrue
      cases htrue
    | some v =>
      rw [hv, hunseen.search m hm header hheader v hv, hdocs] at htrue
      cases htrue

end Apidoc
