import Apidoc.Proofs.Command.Keyless
import Apidoc.Proofs.Describe.Exchange
import Apidoc.Proofs.Selection.Descriptions
import Apidoc.Proofs.Site.Leftovers

/-!
# Generating with the service

The modules are read and the selections brought up to date before the service is asked.
Descriptions are kept once all of them are there, and pages are written last.  So a run that ends
while descriptions are made has changed no page and no description.

* `Generate.describing?`             how the making of descriptions ends, if a run comes to it;
* `Generate.describeModules_cases`   one request for each component, over all modules;
* `Generate.gains_of_fails`          what the making of descriptions has changed if it fails;
* `aborted_or_described`             nothing is changed by a run that ends there, and one that
                                     succeeds keeps each description.
-/

namespace Apidoc

open Ordered (keyed)

/-! ## descriptions of modules -/

namespace Agent

variable {a : Agent} {log log' : List Request} {cs : List Component}

def parts (ms : List ModuleDoc) (withSource : Bool) : List (Component × Context) :=
  ms.flatMap (moduleParts · withSource)

def requests (a : Agent) (ms : List ModuleDoc) (withSource : Bool) : List Request :=
  (parts ms withSource).map a.requestFor

def noted (cs : List Component) (texts : List String) : List (String × String) :=
  List.zipWith (fun c text => (c.id, Text.trimString text)) cs texts

/-- descriptions as the service gives them -/
def told (m : List (String × String)) : Descriptions := keyed (m.map fun p => (p.1, Data.str p.2))

theorem described_eq (cs : List Component) (texts : List String) :
    described cs texts = told (noted cs texts) := by
  rw [described, told, noted, keyed, List.map_map, List.map_zipWith]
  rfl

theorem overlay_told (m n : List (String × String)) :
    Ordered.overlay (told m) (told n) = told (Ordered.overlay m n) := by
  rw [told, told, Ordered.overlay_keyed, Ordered.overlay_map]
  rfl

theorem ofList_told (m : List (String × String)) :
    Ordered.ofList (told m) = told (Ordered.ofList m) :=
  overlay_told [] m

theorem writable_told (m : List (String × String)) : Json.Writable (.map (told m)) := by
  refine .of_pairs fun p hp => ?_
  obtain ⟨f, hf, rfl⟩ := List.mem_map.mp hp
  obtain ⟨q, -, rfl⟩ := List.mem_map.mp hf
  exact ⟨rfl, .str q.2⟩

theorem describeModule_cases {m : ModuleDoc} {withSource : Bool} {new : Descriptions}
    (h : (a.describeModule m withSource).run log = (.ok new, log')) :
    ∃ texts : List String, a.replies log ((moduleParts m withSource).map a.requestFor) =
      texts.map some ∧
      log' = log ++ (moduleParts m withSource).map a.requestFor ∧
      new = told (Ordered.ofList (noted ((moduleParts m withSource).map (·.1)) texts)) := by
  obtain ⟨ds, log₁, heach, hdone⟩ := Run.ok_of_bind h
  obtain ⟨texts, htexts⟩ := exists_texts heach
  cases (run_describeEach htexts).symm.trans heach
  cases hdone
  exact ⟨texts, htexts, rfl, by rw [described_eq, ofList_told]⟩

end Agent

namespace Generate

open Program

variable {g : GenerateSettings} {repo : Path} {store : Store} {ms : List ModuleDoc} {a : Agent}
  {s : Surroundings} {w w₁ : World}

theorem leavesRequests_emit (e : Event) : (emit e).Leaves s World.requests :=
  leaves_emit (fun _ _ => rfl) e

theorem leaves_describeModules {γ : Type} {f : World → γ}
    (hshown : ∀ w x, f { w with shown := x } = f w)
    (hasked : ∀ w log, f { w with requests := log } = f w) (withSource : Bool)
    (done : Descriptions) : (describeModules a withSource ms done).Leaves s f := by
  induction ms generalizing done with
  | nil => exact leaves_pure done
  | cons m ms ih =>
    exact (leaves_emit hshown _).bind fun _ => (leaves_talk hasked _).bind fun new =>
      (leaves_emit hshown _).bind fun _ => ih _

theorem stays_describeModules (withSource : Bool) (done : Descriptions) :
    (describeModules a withSource ms done).Stays s := by
  induction ms generalizing done with
  | nil => exact stays_pure done
  | cons m ms ih =>
    exact (stays_emit _).bind fun _ => (stays_talk _).bind fun new => (stays_emit _).bind fun _ =>
      ih _

/-- The replies go on from module to module, and so do the descriptions. -/
theorem describeModules_cases {withSource : Bool} (done : List (String × String))
    {made : Descriptions} (h : ((describeModules a withSource ms (Agent.told done)).run s).run w =
      (.ok made, w₁)) :
    ∃ texts : List String, a.replies w.requests (a.requests ms withSource) = texts.map some ∧
      w₁.requests = w.requests ++ a.requests ms withSource ∧
      made = Agent.told
        (Ordered.overlay done (Agent.noted ((Agent.parts ms withSource).map (·.1)) texts)) := by
  induction ms generalizing done w with
  | nil =>
    cases h
    exact ⟨[], rfl, (List.append_nil _).symm, rfl⟩
  | cons m ms ih =>
    obtain ⟨_, w₂, hupdate, h⟩ := run_bind h
    obtain ⟨new, w₃, htalk, h⟩ := run_bind h
    obtain ⟨_, w₄, hadvance, h⟩ := run_bind h
    obtain ⟨first, hfirst, hlog, rfl⟩ := Agent.describeModule_cases (talk_cases htalk)
    rw [Agent.overlay_told, Ordered.overlay_ofList] at h
    obtain ⟨rest, hrest, hdone, rfl⟩ := ih _ h
    rw [(leavesRequests_emit _).of_run hadvance, hlog,
      (leavesRequests_emit _).of_run hupdate] at hrest hdone
    rw [(leavesRequests_emit _).of_run hupdate] at hfirst
    have hlength : ((Agent.moduleParts m withSource).map (·.1)).length = first.length := by
      rw [Agent.length_texts hfirst, List.length_map, List.length_map]
    have hrequests : a.requests (m :: ms) withSource =
        (Agent.moduleParts m withSource).map a.requestFor ++ a.requests ms withSource :=
          List.map_append
    have hnoted : Agent.noted ((Agent.parts (m :: ms) withSource).map (·.1)) (first ++ rest) =
        Agent.noted ((Agent.moduleParts m withSource).map (·.1)) first ++
          Agent.noted ((Agent.parts ms withSource).map (·.1)) rest := by
      rw [Agent.parts, List.flatMap_cons, List.map_append]
      exact List.zipWith_append hlength
    refine ⟨first ++ rest, ?_, ?_, ?_⟩
    · rw [hrequests, Agent.replies_append, hfirst, hrest, List.map_append]
    · rw [hdone, hrequests, List.append_assoc]
    · rw [hnoted, Ordered.overlay, Ordered.overlay, Ordered.overlay, List.foldl_append]

/-! ## keeping descriptions -/

theorem run_makeDescriptions (ha : Agent.connect s.service defaultModel none s.serviceKey = .ok a)
    (withSource : Bool) (w : World) : ((makeDescriptions store withSource ms).run s).run w =
      ((emit (.task "Generating AI descriptions..." (some ms.length)) >>= fun _ =>
        describeModules a withSource ms [] >>= keep store).run s).run w := by
  refine run_bind_congr fun _ w₁ _ => ?_
  rw [run_bind_ok (x := read) (a := s) rfl, ha]

theorem leaves_tellSkipped {γ : Type} {p : World → γ} (hp : ∀ w x, p { w with shown := x } = p w)
    (f : Fault) :
    (tellSkipped f).Leaves s p := (leaves_emit hp _).bind fun _ => leaves_emit hp _

theorem stays_keep (store : Store) (made : Descriptions) : (keep store made).Stays s := by
  refine (stays_attempt _).bind fun r => ?_
  split
  · exact stays_pure made
  · split
    · exact ((stays_emit _).bind fun _ => stays_emit _).bind fun _ => stays_pure made
    · exact stays_fail _

theorem leaves_keep (store : Store) (made : Descriptions) :
    (keep store made).Leaves s World.requests := by
  refine Leaves.bind (fun _ => rfl) fun r => ?_
  split
  · exact leaves_pure made
  · split
    · exact (leaves_tellSkipped (fun _ _ => rfl) _).bind fun _ => leaves_pure made
    · exact leaves_fail _

/-- Saving that fails ends the run, or is forgiven; besides, nothing more is changed. -/
theorem keep_cases {made : Descriptions} {r : Except Halt Descriptions}
    (h : ((keep store made).run s).run w = (r, w₁)) :
    r = .ok made ∧ (store.saveDescriptions (.map made)).run w.disk = (.ok (), w₁.disk) ∨
      ∃ f, (store.saveDescriptions (.map made)).run w.disk = (.error f, w₁.disk) ∧
        (isForgiven f = false → r = .error (.fault f)) ∧ ∀ v, r = .ok v → v = made := by
  rw [keep, run_bind_ok (run_attempt _ s w)] at h
  cases hsave : (store.saveDescriptions (.map made)).run w.disk with
  | mk saved d =>
    rw [hsave] at h
    cases saved with
    | ok _ =>
      cases h
      exact .inl ⟨rfl, rfl⟩
    | error f =>
      cases hf : isForgiven f with
      | false =>
        simp only [hf] at h
        cases h
        exact .inr ⟨f, rfl, fun _ => rfl, nofun⟩
      | true =>
        simp only [hf] at h
        have hleft : (tellSkipped f >>= fun _ => pure made).Leaves s World.disk :=
          (leaves_tellSkipped (fun _ _ => rfl) f).bind fun _ => leaves_pure made
        refine .inr ⟨f, ?_, fun hnot => Bool.noConfusion (hf.symm.trans hnot), ?_⟩
        · rw [hleft.of_run h]
        · rintro v rfl
          obtain ⟨_, w₂, _, h⟩ := run_bind h
          cases h
          rfl

theorem gains_of_fails (ha : Agent.connect s.service defaultModel none s.serviceKey = .ok a)
    {withSource : Bool} {c : Halt} (h : ((makeDescriptions store withSource ms).run s).run w =
      (.error c, w₁)) :
    w.disk.Gains Store.Prepares w₁.disk := by
  rw [run_makeDescriptions ha] at h
  have hdescribe : (describeModules a withSource ms []).Leaves s World.disk :=
    leaves_describeModules (fun _ _ => rfl) (fun _ _ => rfl) withSource []
  rcases run_bind_error h with h | ⟨_, w₂, htask, h⟩
  · rw [(leaves_emit (fun _ _ => rfl) _).of_run (f := World.disk) h]
    exact .refl _
  rw [← (emit_cases htask).1]
  rcases run_bind_error h with h | ⟨made, w₃, hmade, h⟩
  · rw [hdescribe.of_run h]
    exact .refl _
  obtain ⟨texts, -, -, rfl⟩ := describeModules_cases [] hmade
  rw [← hdescribe.of_run hmade]
  rcases keep_cases h with ⟨hok, -⟩ | ⟨f, hsave, -, -⟩
  · cases hok
  · exact store.fails_saveDescriptions (Agent.writable_told _) _ f _ hsave

end Generate

/-! ## faults that are forgiven -/

/-- The node is no file without text. -/
def Node.Legible (n : Node) : Prop := ∀ bytes, n ≠ .file (.binary bytes)

namespace Action

variable {α : Type} {d d' : Disk} {c : Fault}

theorem run_ask_error {f : Disk → Except DiskFault α} (h : (ask f).run d = (.error c, d')) :
    ∃ b, c = .disk b := by
  rw [ask, Run.bind_ok (run_get d)] at h
  split at h
  · cases h
  · cases h
    exact ⟨_, rfl⟩

theorem run_change_error {f : Disk → Except DiskFault Disk}
    (h : (change f).run d = (.error c, d')) : ∃ b, c = .disk b := by
  rcases run_change_cases f d with ⟨b, -, hrun⟩ | ⟨e, -, hrun⟩
  · cases hrun.symm.trans h
    exact ⟨b, rfl⟩
  · cases hrun.symm.trans h

/-- A text that cannot be read is not there, or it is none. -/
theorem readText_error {p : Path} (h : (readText p).run d = (.error c, d')) :
    (∃ b, c = .disk b) ∨ ∃ bytes, d.read p = .ok (.binary bytes) := by
  rcases Run.error_of_bind h with h | ⟨content, e, hask, h⟩
  · exact .inl (run_ask_error h)
  · cases content with
    | text t => cases h
    | binary bytes => exact .inr ⟨bytes, run_ask hask⟩

end Action

namespace Store

variable {store : Store} {d d' : Disk}

/-- Only for a file of ignored paths that is no text, saving is forgiven. -/
theorem binary_of_forgiven {v : Data} {f : Fault}
    (h : (store.saveDescriptions v).run d = (.error f, d')) (hf : Generate.isForgiven f = true) :
    ∃ bytes, d.node? [".gitignore"] = some (.file (.binary bytes)) := by
  have hdisk : ¬ ∃ b, f = .disk b := by
    rintro ⟨b, rfl⟩
    cases hf
  rcases Run.error_of_bind h with h | ⟨_, e, -, h⟩
  · rcases Run.error_of_bind h with h | ⟨_, e, hmake, h⟩
    · exact absurd (Action.run_change_error h) hdisk
    have hgains : d.Gains (fun _ n => n.Legible) e :=
      .of_makeFrom (Action.run_change hmake) fun _ _ _ _ _ _ => nofun
    rw [Run.bind_ok (Action.run_exists_ok (locate_ignoreFile e))] at h
    split at h
    · rcases Run.error_of_bind h with h | ⟨text, _, _, h⟩
      · obtain hno | ⟨bytes, hread⟩ := Action.readText_error h
        · exact absurd hno hdisk
        · obtain ⟨q, hq, hnode⟩ := Disk.read_cases hread
          cases (locate_ignoreFile e).symm.trans hq
          exact ⟨bytes, hgains.before (fun hlegible => hlegible bytes rfl) hnode⟩
      · split at h
        · exact absurd (Action.run_change_error h) hdisk
        · cases h
    · cases h
  · rcases Run.error_of_bind h with h | ⟨_, e, -, h⟩
    · exact absurd (Action.run_change_error h) hdisk
    · split at h
      · cases h
        cases hf
      · cases h

theorem legible_start (store : Store) (entries : List Entry) (included : Bool) :
    (store.start entries included).Gains fun _ n => n.Legible := by
  have hsave (selections : Selections) : (store.save selections .null).Gains fun _ n => n.Legible :=
    (store.gains_prepare (fun _ _ _ _ _ => nofun) fun _ => nofun).bind fun _ =>
      Action.gains_change fun d e h => .of_write h fun _ _ => nofun
  exact (looks_load store).gains.bind fun _ => (hsave _).bind fun _ => (Action.looks_pure _).gains

theorem below?_of_saveDescriptions {m : DescriptionTable}
    (h : (store.saveDescriptions m.toData).run d = (.ok (), d')) :
    ∃ text, d'.below? store.folder ["descriptions.json"] = some (.text text) ∧
      Json.parse text = .ok (m.document store.now) := by
  obtain ⟨-, hparse⟩ := Json.parse_render (m.plain_document store.now)
  obtain ⟨_, e, -, h⟩ := Run.ok_of_bind h
  obtain ⟨_, e', hwrite, h⟩ := Run.ok_of_bind h
  obtain ⟨q, hq, -, rfl⟩ := Disk.write_cases (Action.run_change hwrite)
  have hd' : d' = e.put q (.file (.text (Json.render (m.document store.now)).text)) := by
    split at h
    · cases h
    · cases h
      rfl
  have hroot : store.folder.anchor ≠ .root := (Disk.rooted_of_locate hq :)
  obtain ⟨f, hf, rfl⟩ :=
    Disk.locate_below hq (descends_file descriptions_mem) (List.cons_ne_nil _ _)
  refine ⟨_, ?_, hparse⟩
  rw [Disk.below?_eq (Disk.inside?_of_enter hroot hf), Disk.file?_eq_some, hd']
  exact Disk.node?_put_self e (by simp) _

end Store

/-! ## runs -/

namespace Generate

open Program

variable {g : GenerateSettings} {repo : Path} {store : Store} {ms : List ModuleDoc} {a : Agent}
  {s : Surroundings} {w w₁ : World}

/-- what a run does before descriptions are made, if there are modules -/
def opening (g : GenerateSettings) (repo : Path) : Program (List ModuleDoc × Selections) := do
  let ms ← analyze g repo
  return (ms, ← prepare g repo ms)

/-- how the making of descriptions ends, if a run comes to it -/
def describing? (g : GenerateSettings) (repo : Path) (s : Surroundings) (w : World) :
    Option (Except Halt Data × World) :=
  match ((opening g repo).run s).run w with
  | (.ok p, w₀) => some (((descriptionsFor g ⟨repo.child storeFolder, s.now⟩ p.1).run s).run w₀)
  | (.error _, _) => none

theorem describing?_cases {x : Except Halt Data × World} (h : describing? g repo s w = some x) :
    ∃ p w₀, ((opening g repo).run s).run w = (.ok p, w₀) ∧
      ((descriptionsFor g ⟨repo.child storeFolder, s.now⟩ p.1).run s).run w₀ = x := by
  unfold describing? at h
  split at h
  · rename_i p w₀ hopening
    exact ⟨p, w₀, hopening, Option.some.inj h⟩
  · cases h

theorem run_of_modules (hms : (survey w.disk repo ⟨g.includePrivate, false, []⟩).modules = .ok ms)
    (hne : ms ≠ []) :
    ((run g repo).run s).run w =
      ((opening g repo >>= fun p => finish g repo p.1 p.2).run s).run w := by
  simp only [opening, bind_assoc, pure_bind]
  refine run_bind_congr fun found w₁ hanalyze => ?_
  obtain ⟨-, hfound, -⟩ := analyze_cases hanalyze
  cases hms.symm.trans hfound
  rw [if_neg (by simpa using hne)]

theorem leaves_writeSite (site : Site) : (writeSite g site).Leaves s World.requests :=
  (leavesRequests_emit _).bind fun _ => (leaves_act (fun _ _ => rfl) _).bind fun _ =>
    (leavesRequests_emit _).bind
    fun _ => (leaves_resolve _).bind fun _ => (leavesRequests_emit _).bind fun _ =>
      (leavesRequests_emit _).bind
      fun _ => leavesRequests_emit _

/-- Pages have other names than the files of a store. -/
theorem below?_of_writeSite {site : Site} (h : ((writeSite g site).run s).run w = (.ok (), w₁))
    (folder : Path) {name : String} (hname : name ∈ Store.fileNames) :
    w₁.disk.below? folder [name] = w.disk.below? folder [name] := by
  refine Disk.below?_congr fun g _ => (Site.gains_files ((does_writeSite site).cases h)).file?_eq ?_
  rintro c (hfile | ⟨_, -, other, hother, hplace⟩)
  · cases hfile
  · obtain ⟨f, hf, rfl⟩ := List.mem_map.mp hother
    have hlast := congrArg (List.getLastD · "") hplace
    rw [getLastD_append (Site.descends_files hf).2, List.getLastD_concat] at hlast
    exact Site.unread_of_files hf (hlast ▸ .inr (List.mem_cons_of_mem _ hname))

theorem leaves_analyze (g : GenerateSettings) (repo : Path) :
    (analyze g repo).Leaves s World.requests :=
  (leavesRequests_emit _).bind fun _ => (leavesRequests_emit _).bind fun _ =>
    (leaves_modulesOf (fun _ _ => rfl) _ _).bind fun ms => (leavesRequests_emit _).bind fun _ =>
      leaves_pure ms

theorem leaves_prepare (g : GenerateSettings) (repo : Path) (ms : List ModuleDoc) :
    (prepare g repo ms).Leaves s World.requests := by
  have hact {α : Type} (x : Action α) : (act x).Leaves s World.requests :=
    leaves_act (fun _ _ => rfl) x
  refine (leavesRequests_emit _).bind fun _ => Leaves.bind (fun _ => rfl) fun store => ?_
  unfold selectionsFor
  split
  · refine (hact _).bind fun old => ?_
    split
    · exact (leavesRequests_emit _).bind fun _ => hact _
    · exact leaves_pure old
  · exact hact _

theorem opening_cases {p : List ModuleDoc × Selections}
    (h : ((opening g repo).run s).run w = (.ok p, w₁)) :
    (survey w.disk repo ⟨g.includePrivate, false, []⟩).modules = .ok p.1 ∧
      (chosen ⟨repo.child storeFolder, s.now⟩ g.useSelections (contents .full p.1)).run w.disk =
        (.ok p.2, w₁.disk) ∧ w₁.requests = w.requests := by
  obtain ⟨ms, w₂, hanalyze, h⟩ := run_bind h
  obtain ⟨sel, w₃, hprepare, h⟩ := run_bind h
  cases h
  obtain ⟨hw₂, hms, -⟩ := analyze_cases hanalyze
  refine ⟨hms, hw₂ ▸ chosen_of_prepare hprepare, ?_⟩
  rw [(leaves_prepare g repo ms).of_run hprepare, (leaves_analyze g repo).of_run hanalyze]

theorem gains_chosen {P : List String → Node → Prop} {entries : List Entry}
    (h : (store.start entries true).Gains P) (use : Bool) : (chosen store use entries).Gains P := by
  unfold chosen
  split
  · refine store.looks_load.gains.bind fun old => ?_
    split
    · exact h
    · exact (Action.looks_pure old).gains
  · exact h

theorem stays_makeDescriptions (ha : Agent.connect s.service defaultModel none s.serviceKey = .ok a)
    (hg : g.describes = true) (store : Store) (ms : List ModuleDoc) :
    (descriptionsFor g store ms).Stays s := by
  have hmake : (makeDescriptions store g.includeSource ms).Stays s := by
    intro w code w' h
    rw [run_makeDescriptions ha] at h
    exact ((stays_emit _).bind fun _ => (stays_describeModules _ _).bind fun made =>
      stays_keep store made) w code w' h
  rw [descriptionsFor, if_pos hg]
  exact hmake.bind fun made => stays_pure _

theorem file?_of_aborted (ha : Agent.connect s.service defaultModel none s.serviceKey = .ok a)
    (hg : g.describes = true) (hrepo : Disk.Descends repo.parts) {c : Halt}
    (h : describing? g repo s w = some (.error c, w₁)) {q : List String}
    (hignored : q ≠ [".gitignore"])
    (hselections : q ≠ (repo.child storeFolder).parts ++ ["selections.yaml"]) :
    w₁.disk.file? q = w.disk.file? q := by
  obtain ⟨p, w₀, hopening, hfails⟩ := describing?_cases h
  obtain ⟨-, hchosen, -⟩ := opening_cases hopening
  have hfolder : Disk.Descends (repo.child storeFolder).parts := by
    simpa [Disk.Descends, Path.child, storeFolder] using hrepo
  have hstarts := gains_chosen (Store.gains_start (s := ⟨repo.child storeFolder, s.now⟩) hfolder
    (contents .full p.1) true) g.useSelections w.disk
  rw [hchosen] at hstarts
  rw [descriptionsFor, if_pos hg] at hfails
  have hprepares : w₀.disk.Gains Store.Prepares w₁.disk := by
    rcases run_bind_error hfails with h | ⟨made, w₂, -, h⟩
    · exact gains_of_fails ha h
    · cases h
  rw [hprepares.file?_eq, hstarts.file?_eq]
  · rintro content (⟨hfile, -⟩ | hplace | hplace)
    · cases hfile
    · exact hignored hplace
    · exact hselections hplace
  · rintro content (hfile | hplace)
    · cases hfile
    · exact hignored hplace

/-- One request was made for each part of the modules, and what was replied is in the file of the
store. -/
def Kept (a : Agent) (ms : List ModuleDoc) (withSource : Bool) (store : Store) (w w₁ : World) :
    Prop :=
  ∃ texts text, a.replies w.requests (a.requests ms withSource) = texts.map some ∧
    w₁.requests = w.requests ++ a.requests ms withSource ∧
    w₁.disk.below? store.folder ["descriptions.json"] = some (.text text) ∧
    Json.parse text = .ok (.object [("version", .str "1.0"), ("updated_at", .str store.now),
      ("descriptions", .map (Ordered.ofList (Agent.described
        ((Agent.parts ms withSource).map (·.1)) texts)))])

theorem makeDescriptions_cases (ha : Agent.connect s.service defaultModel none s.serviceKey = .ok a)
    (hlegible : ∀ bytes, w.disk.node? [".gitignore"] ≠ some (.file (.binary bytes)))
    {withSource : Bool} {made : Descriptions}
    (h : ((makeDescriptions store withSource ms).run s).run w = (.ok made, w₁)) :
    Kept a ms withSource store w w₁ := by
  rw [run_makeDescriptions ha] at h
  obtain ⟨_, w₂, htask, h⟩ := run_bind h
  obtain ⟨made', w₃, hdescribe, hkeep⟩ := run_bind h
  obtain ⟨texts, hreplies, hasked, rfl⟩ := describeModules_cases [] hdescribe
  have hw₂ : w₂.requests = w.requests := (leavesRequests_emit _).of_run htask
  have hw₃ : w₃.disk = w.disk :=
    ((leaves_describeModules (fun _ _ => rfl) (fun _ _ => rfl) _ _).of_run hdescribe).trans
      (emit_cases htask).1
  rw [hw₂] at hreplies hasked
  rcases keep_cases hkeep with ⟨-, hsave⟩ | ⟨f, hsave, hfails, -⟩
  · let m : DescriptionTable :=
      ⟨Ordered.ofList (Agent.noted ((Agent.parts ms withSource).map (·.1)) texts),
      Ordered.nodup_ofList _⟩
    obtain ⟨text, htext, hparse⟩ := Store.below?_of_saveDescriptions (m := m) hsave
    refine ⟨texts, text, hreplies, ?_, htext, ?_⟩
    · rw [(leaves_keep store _).of_run hkeep, hasked]
    · rw [Agent.described_eq, Agent.ofList_told]
      exact hparse
  · cases hf : isForgiven f with
    | false => cases hfails hf
    | true =>
      obtain ⟨bytes, hbinary⟩ := Store.binary_of_forgiven hsave hf
      rw [hw₃] at hbinary
      exact absurd hbinary (hlegible bytes)

theorem described_of_run (ha : Agent.connect s.service defaultModel none s.serviceKey = .ok a)
    (hg : g.describes = true)
    (hms : (survey w.disk repo ⟨g.includePrivate, false, []⟩).modules = .ok ms) (hne : ms ≠ [])
    (hlegible : ∀ bytes, w.disk.node? [".gitignore"] ≠ some (.file (.binary bytes)))
    (h : ((run g repo).run s).run w = (.ok (), w₁)) :
    Kept a ms g.includeSource ⟨repo.child storeFolder, s.now⟩ w w₁ := by
  rw [run_of_modules hms hne] at h
  obtain ⟨p, w₀, hopening, h⟩ := run_bind h
  obtain ⟨hfound, hchosen, hrequests⟩ := opening_cases hopening
  cases hms.symm.trans hfound
  obtain ⟨v, w₃, hdescriptions, hwrite⟩ := finish_cases h
  rw [descriptionsFor, if_pos hg] at hdescriptions
  obtain ⟨made, w₅, hmake, hdone⟩ := run_bind hdescriptions
  cases hdone
  have hgains :=
    gains_chosen (Store.legible_start ⟨repo.child storeFolder, s.now⟩ (contents .full p.1) true)
    g.useSelections w.disk
  rw [hchosen] at hgains
  obtain ⟨texts, text, hreplies, hasked, htext, hparse⟩ := makeDescriptions_cases ha
    (fun bytes hbinary => hlegible bytes (hgains.before (fun h => h bytes rfl) hbinary)) hmake
  rw [hrequests] at hreplies hasked
  refine ⟨texts, text, hreplies, ?_, ?_, hparse⟩
  · rw [(leaves_writeSite _).of_run hwrite, hasked]
  · rw [below?_of_writeSite hwrite _ Store.descriptions_mem, htext]

end Generate

/-! ## the command line -/

/-- A run that ends with a fault while descriptions are made has changed neither the stored
descriptions nor any page, whatever was there before; below the directory of pages only the
selections can have changed, if the store is there.  Pages are in the working directory or below it:
a directory elsewhere can hold the working directory, and then the file of ignored paths can be
among the pages.  A run that succeeds has asked once for each component of each module, in order,
and has stored the replies without the space around them, unless the file of ignored paths is no
text. -/
theorem aborted_or_described {s : Surroundings} {args : List String} {w : World} {repo key : String}
    {g : GenerateSettings} {ms : List ModuleDoc} (hkey : s.serviceKey = some key) (hset : key ≠ "")
    (hwish : readWish w.disk args = .ok (.command (.generate repo g))) (hg : g.describes = true)
    (hms : (survey w.disk ((Path.ofText repo).resolve w.disk.home)
      ⟨g.includePrivate, false, []⟩).modules = .ok ms)
    (hne : ms ≠ []) :
    let store := Store.named s w.disk repo
    let out := Path.ofText g.output
    let agent : Agent := ⟨key, defaultModel, s.service⟩
    (∀ f w₁, Generate.describing? g ((Path.ofText repo).resolve w.disk.home) s w =
      some (.error (.fault f), w₁) →
      runLine s args w = (.error f, w₁) ∧
      w₁.disk.below? store.folder ["descriptions.json"] = w.disk.below? store.folder
        ["descriptions.json"] ∧
      ∀ place, out.inside? = some place →
        (∀ name ∈ ["index.html", "search.json", "style.css", "script.js"],
          w₁.disk.file? (place ++ [name]) = w.disk.file? (place ++ [name])) ∧
        ∀ rest, place ++ "modules" :: rest ≠ store.folder.parts ++ ["selections.yaml"] →
          w₁.disk.file? (place ++ "modules" :: rest) = w.disk.file? (place ++ "modules" :: rest)) ∧
    ∀ w₁, runLine s args w = (.ok 0, w₁) →
      (∀ bytes, w.disk.node? [".gitignore"] ≠ some (.file (.binary bytes))) →
      ∃ texts text, agent.replies w.requests (agent.requests ms g.includeSource) = texts.map some ∧
        w₁.requests = w.requests ++ agent.requests ms g.includeSource ∧
        w₁.disk.below? store.folder ["descriptions.json"] = some (.text text) ∧
        Json.parse text = .ok (.object [("version", .str "1.0"), ("updated_at", .str s.now),
          ("descriptions", .map (Ordered.ofList (Agent.described
            ((Agent.parts ms g.includeSource).map (·.1)) texts)))]) := by
  intro store out agent
  have ha : Agent.connect s.service defaultModel none s.serviceKey = .ok agent := by
    have htold : Prompt.told (some key) = some key := Option.filter_some_pos (bne_iff_ne.mpr hset)
    rw [Agent.connect, hkey, htold]
    rfl
  have hcommand : ((Command.generate repo g).run.run s).run w =
      ((Generate.run g ((Path.ofText repo).resolve w.disk.home)).run s).run w :=
    Program.run_bind_ok (x := Program.resolve repo) rfl _
  refine ⟨fun f w₁ haborted => ?_, fun w₁ hrun hlegible => ?_⟩
  · have hfile {q : List String} :=
      Generate.file?_of_aborted (q := q) ha hg (Path.descends_resolve _ _) haborted
    have hname (folder : List String) {name : String}
        (hname : name ∈ ["descriptions.json", "index.html", "search.json", "style.css",
          "script.js"]) :
        w₁.disk.file? (folder ++ [name]) = w.disk.file? (folder ++ [name]) := by
      have hnames : ∀ name ∈ ["descriptions.json", "index.html", "search.json", "style.css",
        "script.js"],
          name ≠ ".gitignore" ∧ name ≠ "selections.yaml" := by decide
      refine hfile (fun hplace => (hnames name hname).1 ?_) fun hplace => (hnames name hname).2 ?_
      · simpa using congrArg (List.getLastD · "") hplace
      · simpa using congrArg (List.getLastD · "") hplace
    refine ⟨?_, Disk.below?_congr fun folder _ => hname folder List.mem_cons_self, fun place _ =>
      ⟨fun name hpage => hname place (List.mem_cons_of_mem _ hpage),
        fun rest => hfile fun hplace => ?_⟩⟩
    · obtain ⟨p, w₀, hopening, hfails⟩ := Generate.describing?_cases haborted
      have hfinish :
        ((Generate.finish g ((Path.ofText repo).resolve w.disk.home) p.1 p.2).run s).run w₀ =
          (.error (.fault f), w₁) :=
        (Program.run_bind_ok (x := storeOf _) rfl _).trans (Program.run_bind_halt hfails _)
      rw [runLine, perform_command hwish, hcommand, Generate.run_of_modules hms hne,
        Program.run_bind_ok hopening, hfinish]
    · rw [List.append_eq_singleton_iff] at hplace
      simp at hplace
  · have hdone := run_of_runLine hwish ((Program.stays_resolve repo).bind fun p =>
      Generate.stays_run_of (Generate.stays_makeDescriptions ha hg) p) hrun
    rw [hcommand] at hdone
    exact Generate.described_of_run ha hg hms hne hlegible hdone

def answering (reply : Reply) : Surroundings :=
  { keyless with serviceKey := some "key", service := fun _ _ => reply }

/-- the repository with a description of its function -/
def toldDisk : Disk := storedDisk "638410ba6544" "Does nothing."

/-- A service without content leaves the stored description; one with content gives a new one. -/
theorem toldDisk_aborted_or_described :
    (∃ f w₁, runLine (answering none) ["generate", "lib"] { disk := toldDisk } = (.error f, w₁) ∧
      w₁.disk.below? (Store.named keyless toldDisk "lib").folder ["descriptions.json"] =
        toldDisk.below? (Store.named keyless toldDisk "lib").folder ["descriptions.json"]) ∧
    ∃ ms w₁ texts text, ms ≠ [] ∧ runLine (answering " Text. ") ["generate", "lib"]
    { disk := toldDisk } = (.ok 0, w₁) ∧
      w₁.requests.length = texts.length ∧
      w₁.disk.below? (Store.named keyless toldDisk "lib").folder ["descriptions.json"] =
        some (.text text) ∧
      Json.parse text = .ok (.object [("version", .str "1.0"), ("updated_at", .str keyless.now),
        ("descriptions", .map (Ordered.ofList (Agent.described
          ((Agent.parts ms true).map (·.1)) texts)))]) := by
  have hline : readWish toldDisk ["generate", "lib"] =
      .ok (.command (.generate "lib" { libPages with describes := true })) := rfl
  have haborts : (Generate.describing? { libPages with describes := true }
    ((Path.ofText "lib").resolve "/work")
      (answering none) { disk := toldDisk }).map (fun r => r.1.toOption.isSome) = some false := by
        decide +kernel
  have hruns : (runLine (answering " Text. ") ["generate", "lib"] { disk := toldDisk }).1.toOption =
      some 0 := by
    decide +kernel
  obtain ⟨ms, hms, hne⟩ : ∃ ms,
      (survey toldDisk ((Path.ofText "lib").resolve "/work") ⟨false, false, []⟩).modules =
        .ok ms ∧ ms ≠ [] :=
    ⟨libModules, survey_storedDisk _ _, nofun⟩
  have hboth (reply : Reply) :=
    aborted_or_described (s := answering reply) (w := { disk := toldDisk }) rfl
    (by decide) hline rfl hms hne
  refine ⟨?_, ?_⟩
  · obtain ⟨⟨r, w₁⟩, hdescribing, hfails⟩ := Option.map_eq_some_iff.mp haborts
    obtain (f | code) | v := r
    · obtain ⟨hrun, hkept, -⟩ := (hboth none).1 f w₁ hdescribing
      exact ⟨f, w₁, hrun, hkept⟩
    · obtain ⟨p, w₀, -, hexit⟩ := Generate.describing?_cases hdescribing
      exact absurd hexit (Generate.stays_makeDescriptions rfl rfl _ _ _ _ _)
    · cases hfails
  · obtain ⟨w₁, hrun⟩ := exists_world hruns
    obtain ⟨texts, text, hreplies, hasked, htext, hparse⟩ := (hboth " Text. ").2 w₁ hrun nofun
    refine ⟨ms, w₁, texts, text, hne, hrun, ?_, htext, hparse⟩
    rw [hasked, Agent.length_texts hreplies]
    rfl

/-- a repository in a directory with the name of that for pages -/
def nestedDisk : Disk :=
  ⟨"/work", [(["modules"], .folder), (["modules", "lib"], .folder),
    (["modules", "lib", "api.py"], .file apiContent)]⟩

/-- selections from an earlier run, and a file of ignored paths that is no text -/
def illegibleDisk : Disk :=
  ⟨"/work", [([".gitignore"], .file (.binary [0xff])), (["lib"], .folder), (["lib", "api.py"],
    .file apiContent), (["lib", ".docuagent"], .folder),
    (["lib", ".docuagent", "selections.yaml"], .file (.text "selections:\n  a: \x7b\x7d\n"))]⟩

/-- The selections come to be below the directory of pages though the run ends while descriptions
are made, and descriptions are lost in a run that succeeds. -/
theorem selections_among_pages :
    (Generate.describing? { libPages with output := ".", describes := true }
      ((Path.ofText "modules/lib").resolve "/work") (answering none) { disk := nestedDisk }).map
        (fun r => r.1.toOption.isSome) = some false ∧
    (runLine (answering none) ["generate", "modules/lib", "-o", "."]
      { disk := nestedDisk }).1.toOption = none ∧
    nestedDisk.below? (.ofText ".") ["modules", "lib", ".docuagent", "selections.yaml"] = none ∧
    ((runLine (answering none) ["generate", "modules/lib", "-o", "."]
      { disk := nestedDisk }).2.disk.below?
      (.ofText ".") ["modules", "lib", ".docuagent", "selections.yaml"]).isSome ∧
    (runLine (answering "Text.") ["generate", "lib", "--use-selections"]
      { disk := illegibleDisk }).1.toOption =
      some 0 ∧
    (runLine (answering "Text.") ["generate", "lib", "--use-selections"]
      { disk := illegibleDisk }).2.disk.below?
      (.ofText "lib/.docuagent") ["descriptions.json"] = none := by
  decide +kernel

end Apidoc
