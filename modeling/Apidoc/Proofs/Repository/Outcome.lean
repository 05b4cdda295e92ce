import Apidoc.Proofs.Repository.Folders
import Apidoc.Proofs.Repository.Survey

/-!
# What becomes of a survey

A path that is looked at can spoil a whole survey: a directory whose name ends like that of a
module, or a file with an expression that cannot be printed.  Nothing else can.

* `Surveyed`               the paths that are looked at;
* `pathFault?`, `pathModule?`   what one path does to a survey, and the module it gives;
* `modules_readContents`   the first fault ends a survey; without one all modules are found;
* `Disk.Sound`             a disk as a system keeps it, on which all that is there can be reached;
* `survey_returns_iff`     when a survey gives a result, and what it is.
-/

namespace Apidoc

/-! ## what is looked at -/

/-- There is something at a path below `repo` that has the ending and is not excluded. -/
structure Surveyed (d : Disk) (repo : Path) (patterns parts : List String) : Prop where
  onDisk : repo.anchor ≠ .root
  there : (d.node? (repo.parts ++ parts)).isSome
  below : parts ≠ []
  named : ".py".toList <:+ (parts.getLastD "").toList
  kept : isExcluded patterns parts = false

variable {d : Disk} {repo : Path} {patterns parts : List String}

theorem isSome_node?_iff {q : List String} (hq : q ≠ []) :
    (d.node? q).isSome ↔ ∃ n ∈ d.nodes, n.1 = q := by
  rw [Disk.node?, if_neg (by simpa using hq), Option.isSome_map, List.find?_isSome]
  simp only [beq_iff_eq]

theorem mem_moduleFiles_iff :
    parts ∈ moduleFiles d repo patterns ↔ Surveyed d repo patterns parts := by
  rw [moduleFiles, List.mem_mergeSort, List.mem_filterMap]
  constructor
  · rintro ⟨n, hn, h⟩
    obtain ⟨hparts, hne, hpy⟩ := surveyed_cases h
    obtain ⟨hroot, hn⟩ : repo.anchor ≠ .root ∧ n ∈ d.nodes := by
      split at hn
      · cases hn
      · exact ⟨‹_›, hn⟩
    refine ⟨hroot, ?_, hne, Glob.isMatch_py.mp hpy, ?_⟩
    · rw [isSome_node?_iff (List.append_ne_nil_of_right_ne_nil _ hne)]
      exact ⟨n, hn, hparts⟩
    · dsimp only at h
      split at h
      · rename_i hif
        cases h
        rw [Bool.and_eq_true, Bool.not_eq_true'] at hif
        exact hif.2
      · cases h
  · intro h
    obtain ⟨n, hn, hparts⟩ :=
      (isSome_node?_iff (List.append_ne_nil_of_right_ne_nil _ h.below)).mp h.there
    refine ⟨n, by rwa [if_neg h.onDisk], ?_⟩
    dsimp only
    rw [hparts, List.drop_left, List.take_left, Glob.isMatch_py.mpr h.named, h.kept]
    simp [h.below]

/-! ## one path after the other -/

/-- how a path ends a survey, if it does -/
def pathFault? (d : Disk) (repo : Path) (includePrivate : Bool) (parts : List String) :
    Option SurveyFault :=
  match d.read (repo.below parts) with
  | .error f => some (.disk f)
  | .ok c =>
    match readContent includePrivate parts c with
    | .error (.unprintable f) => some (.unprintable f)
    | _ => none

/-- the module that a path gives, if it gives one that defines something -/
def pathModule? (d : Disk) (repo : Path) (includePrivate : Bool) (parts : List String) :
    Option ModuleDoc :=
  match d.read (repo.below parts) with
  | .error _ => none
  | .ok c =>
    match readContent includePrivate parts c with
    | .ok m => if m.isEmpty then none else some m
    | .error _ => none

/-- The first fault ends the reading of files; without one all modules are found, in order. -/
theorem modules_readContents (d : Disk) (repo : Path) (includePrivate : Bool)
    (files : List (List String)) :
    (readContents d repo includePrivate files).modules =
      match files.findSome? (pathFault? d repo includePrivate) with
      | some f => .error f
      | none => .ok (files.filterMap (pathModule? d repo includePrivate)) := by
  induction files with
  | nil => rfl
  | cons parts rest ih =>
    rw [readContents, List.findSome?_cons, List.filterMap_cons, pathFault?, pathModule?]
    cases d.read (repo.below parts) with
    | error f => rfl
    | ok c =>
      dsimp only
      cases readContent includePrivate parts c with
      | error f =>
        cases f with
        | unprintable f => rfl
        | malformed => exact ih
      | ok m =>
        dsimp only
        split
        · exact ih
        · dsimp only
          rw [ih]
          cases rest.findSome? (pathFault? d repo includePrivate) with
          | none => rfl
          | some f => rfl

/-- A survey gives a result exactly if no path ends it, and then the modules of all paths. -/
theorem modules_survey (d : Disk) (repo : Path) (settings : SurveySettings) :
    (∀ ms, (survey d repo settings).modules = .ok ms ↔
      (∀ parts, Surveyed d repo settings.allPatterns parts →
        pathFault? d repo settings.includePrivate parts = none) ∧
        ms = ((moduleFiles d repo settings.allPatterns).filterMap
          (pathModule? d repo settings.includePrivate)).mergeSort
          fun a b => a.path ≤ b.path) ∧
    ∀ f, (survey d repo settings).modules = .error f →
      ∃ parts, Surveyed d repo settings.allPatterns parts ∧
      pathFault? d repo settings.includePrivate parts = some f := by
  have hsurvey : (survey d repo settings).modules = _ :=
    congrArg (Except.map _) (modules_readContents ..)
  rw [hsurvey]
  simp only [← mem_moduleFiles_iff, ← List.findSome?_eq_none_iff]
  cases h : (moduleFiles d repo settings.allPatterns).findSome?
    (pathFault? d repo settings.includePrivate) with
  | none => exact ⟨fun ms => ⟨fun e => ⟨rfl, (Except.ok.inj e).symm⟩, fun e => e.2 ▸ rfl⟩, nofun⟩
  | some f =>
    refine ⟨fun ms => ⟨nofun, fun e => nomatch e.1⟩, fun g hg => ?_⟩
    cases hg
    exact List.exists_of_findSome?_eq_some h

/-! ## disks on which all can be reached -/

/-- A disk as a system keeps it: everything stands in a directory, and names are short and lead
down. -/
structure Disk.Sound (d : Disk) : Prop where
  grounded : d.Grounded
  names : ∀ n ∈ d.nodes, ∀ p ∈ n.1, p ≠ ".." ∧ Disk.isLong p = false

namespace Disk.Sound

variable (hd : d.Sound) {anchor : Anchor} (ha : anchor ≠ .root)
include hd ha

theorem locate_eq {q : List String} (hq : (d.node? q).isSome) : d.locate ⟨anchor, q⟩ = .ok q := by
  obtain ⟨n, hn⟩ := Option.isSome_iff_exists.mp hq
  rcases q.eq_nil_or_concat with rfl | ⟨start, last, rfl⟩
  · unfold locate
    split
    · exact absurd ‹_› ha
    · rfl
  · rw [List.concat_eq_append] at hn ⊢
    obtain ⟨m, hm, hname⟩ := exists_node hn (by simp)
    have hnames := hd.names m hm
    rw [hname, List.forall_mem_append, List.forall_mem_singleton] at hnames
    have hdescends : Descends start := fun hup => (hnames.1 ".." hup).1 rfl
    have henter : d.enter [] start = .ok start := by
      refine enter_of_folders hdescends (fun p hp => (hnames.1 p hp).2) ?_
      rintro r - ⟨t, rfl⟩
      rw [List.append_assoc] at hn
      exact hd.grounded.folder (by simp) hn
    rw [locate_concat d ha start hnames.2.1, henter]
    show (if isLong last then _ else _) = _
    rw [hnames.2.2]
    rfl

theorem read_file {q : List String} {c : Content} (hc : d.node? q = some (.file c)) :
    d.read ⟨anchor, q⟩ = .ok c :=
  read_eq (hd.locate_eq ha (by rw [hc]; rfl)) hc

theorem read_folder {q : List String} (hq : d.node? q = some .folder) :
    d.read ⟨anchor, q⟩ = .error ⟨.isFolder, (⟨anchor, q⟩ : Path).text⟩ := by
  simp only [read, hd.locate_eq ha (by rw [hq]; rfl : (d.node? q).isSome), hq]

end Disk.Sound

section

variable (hd : d.Sound) (ha : repo.anchor ≠ .root) {includePrivate : Bool}
include hd ha

theorem pathFault?_folder (h : d.node? (repo.parts ++ parts) = some .folder) :
    pathFault? d repo includePrivate parts = some (.disk ⟨.isFolder, (repo.below parts).text⟩) := by
  rw [pathFault?, hd.read_folder ha h]

theorem pathFault?_file {c : Content} (h : d.node? (repo.parts ++ parts) = some (.file c))
    {f : SurveyFault} :
    pathFault? d repo includePrivate parts = some f ↔
      ∃ g, readContent includePrivate parts c = .error (.unprintable g) ∧ f = .unprintable g := by
  rw [pathFault?, hd.read_file ha h]
  dsimp only
  split
  · rename_i g hg
    rw [hg]
    exact ⟨fun e => ⟨g, rfl, (Option.some.inj e).symm⟩, fun ⟨_, hg', e⟩ => by cases hg'; rw [e]⟩
  · rename_i hne
    exact ⟨nofun, fun ⟨g, hg, _⟩ => absurd hg (hne g)⟩

theorem pathModule?_iff (hs : Surveyed d repo patterns parts) {m : ModuleDoc} :
    pathModule? d repo includePrivate parts = some m ↔
      ∃ c, d.node? (repo.parts ++ parts) = some (.file c) ∧
      readContent includePrivate parts c = .ok m ∧
        m.isEmpty = false := by
  obtain ⟨n, hn⟩ := Option.isSome_iff_exists.mp hs.there
  rw [hn, pathModule?]
  cases n with
  | folder =>
    rw [hd.read_folder ha hn]
    exact ⟨nofun, fun ⟨_, hc, _⟩ => nomatch hc⟩
  | file c =>
    rw [hd.read_file ha hn]
    dsimp only
    cases hm : readContent includePrivate parts c with
    | error f =>
      refine ⟨nofun, ?_⟩
      rintro ⟨c', hc, hm', _⟩
      cases hc
      rw [hm] at hm'
      cases hm'
    | ok m' =>
      dsimp only
      constructor
      · intro h
        split at h
        · cases h
        · cases h
          exact ⟨c, rfl, hm, Bool.eq_false_iff.mpr ‹_›⟩
      · rintro ⟨c', hc, hm', hne⟩
        cases hc
        rw [hm] at hm'
        cases hm'
        rw [hne]
        rfl

end

/-- A survey gives a result exactly if every path that is looked at is that of a file whose
expressions can be printed.  Then it finds the module of each of these files that defines something,
and no others, whatever is in the other files.  Otherwise its fault is that of a directory or of an
expression. -/
theorem survey_returns_iff (hd : d.Sound) (ha : repo.anchor ≠ .root) (settings : SurveySettings) :
    ((∃ ms, (survey d repo settings).modules = .ok ms) ↔
      ∀ parts, Surveyed d repo settings.allPatterns parts →
        ∃ c, d.node? (repo.parts ++ parts) = some (.file c) ∧
          ∀ f, readContent settings.includePrivate parts c ≠ .error (.unprintable f)) ∧
    (∀ ms, (survey d repo settings).modules = .ok ms → ∀ m, m ∈ ms ↔
      ∃ parts c, Surveyed d repo settings.allPatterns parts ∧ d.node? (repo.parts ++ parts) =
        some (.file c) ∧
        readContent settings.includePrivate parts c = .ok m ∧ m.isEmpty = false) ∧
    ∀ f, (survey d repo settings).modules = .error f →
      ∃ parts, Surveyed d repo settings.allPatterns parts ∧
        (d.node? (repo.parts ++ parts) = some .folder ∧
          f = .disk ⟨.isFolder, (repo.below parts).text⟩ ∨
          ∃ c g, d.node? (repo.parts ++ parts) = some (.file c) ∧
            readContent settings.includePrivate parts c = .error (.unprintable g) ∧
            f = .unprintable g) := by
  obtain ⟨hok, herror⟩ := modules_survey d repo settings
  refine ⟨?_, fun ms hms m => ?_, fun f hf => ?_⟩
  · have hreturns : (∃ ms, (survey d repo settings).modules = .ok ms) ↔ ∀ parts,
        Surveyed d repo settings.allPatterns parts →
        pathFault? d repo settings.includePrivate parts = none :=
      ⟨fun ⟨ms, h⟩ => ((hok ms).mp h).1, fun h => ⟨_, (hok _).mpr ⟨h, rfl⟩⟩⟩
    rw [hreturns]
    refine forall₂_congr fun parts hs => ?_
    obtain ⟨n, hn⟩ := Option.isSome_iff_exists.mp hs.there
    rw [hn]
    cases n with
    | folder =>
      rw [pathFault?_folder hd ha hn]
      exact ⟨nofun, fun ⟨_, hc, _⟩ => nomatch hc⟩
    | file c =>
      rw [Option.eq_none_iff_forall_ne_some]
      constructor
      · exact fun h => ⟨c, rfl, fun f hf => h _ ((pathFault?_file hd ha hn).mpr ⟨f, hf, rfl⟩)⟩
      · rintro ⟨c', hc, h⟩ f hf
        cases hc
        obtain ⟨g, hg, _⟩ := (pathFault?_file hd ha hn).mp hf
        exact h g hg
  · rw [((hok ms).mp hms).2, List.mem_mergeSort, List.mem_filterMap]
    constructor
    · rintro ⟨parts, hparts, hm⟩
      have hs := mem_moduleFiles_iff.mp hparts
      obtain ⟨c, hc⟩ := (pathModule?_iff hd ha hs).mp hm
      exact ⟨parts, c, hs, hc⟩
    · rintro ⟨parts, c, hs, hc⟩
      exact ⟨parts, mem_moduleFiles_iff.mpr hs, (pathModule?_iff hd ha hs).mpr ⟨c, hc⟩⟩
  · obtain ⟨parts, hs, hfault⟩ := herror f hf
    obtain ⟨n, hn⟩ := Option.isSome_iff_exists.mp hs.there
    refine ⟨parts, hs, ?_⟩
    cases n with
    | folder =>
      rw [pathFault?_folder hd ha hn] at hfault
      exact .inl ⟨hn, (Option.some.inj hfault).symm⟩
    | file c =>
      obtain ⟨g, hg, rfl⟩ := (pathFault?_file hd ha hn).mp hfault
      exact .inr ⟨c, g, hn, hg, rfl⟩

/-! ## a module and what is beside it -/

def apiContent : Content := .text "def f():\n    pass\n"

def besideDisk (n : Node) : Disk :=
  ⟨"/work", [(["repo"], .folder), (["repo", "api.py"], .file apiContent), (["repo", "old.py"], n)]⟩

def publicSurvey : SurveySettings := ⟨false, false, []⟩

theorem besideDisk_sound (n : Node) : (besideDisk n).Sound := by
  constructor
  · simp [Disk.Grounded, besideDisk, Disk.node?]
  · have hnames : ∀ q ∈ [["repo"], ["repo", "api.py"], ["repo", "old.py"]], ∀ p ∈ q,
        p ≠ ".." ∧ Disk.isLong p = false := by decide
    simpa [besideDisk] using hnames

theorem besideDisk_surveyed (n : Node) {name : String} (h : name ∈ ["api.py", "old.py"]) :
    Surveyed (besideDisk n) (.ofParts ["repo"]) publicSurvey.allPatterns [name] := by
  have hkept : ∀ name ∈ ["api.py", "old.py"], isExcluded publicSurvey.allPatterns [name] =
    false := by decide +kernel
  have hnamed : ∀ name ∈ ["api.py", "old.py"], ".py".toList <:+ name.toList := by decide
  refine ⟨by decide, ?_, List.cons_ne_nil _ _, hnamed name h, hkept name h⟩
  rw [isSome_node?_iff (by simp)]
  simp only [List.mem_cons, List.not_mem_nil, or_false] at h
  rcases h with rfl | rfl
  · exact ⟨_, .tail _ (.head _), rfl⟩
  · exact ⟨_, .tail _ (.tail _ (.head _)), rfl⟩

theorem api_reads : ∃ m, readContent false ["api.py"] apiContent = .ok m ∧ m.isEmpty = false := by
  have h : (readContent false ["api.py"] apiContent).map ModuleDoc.isEmpty = .ok false := by
    decide +kernel
  exact ok_of_map h

/-- A file that is no module does no harm to the one beside it. -/
theorem besideDisk_malformed :
    (besideDisk (.file (.text "def f(:\n"))).Sound ∧
    ∃ ms, (survey (besideDisk (.file (.text "def f(:\n")))
      (.ofParts ["repo"]) publicSurvey).modules = .ok ms ∧
      ∃ m ∈ ms, readContent false ["api.py"] apiContent = .ok m := by
  have hsound := besideDisk_sound (.file (.text "def f(:\n"))
  have hmalformed : readContent false ["old.py"] (.text "def f(:\n") = .error .malformed := by
    decide +kernel
  obtain ⟨m, hm, hempty⟩ := api_reads
  have ha : (Path.ofParts ["repo"]).anchor ≠ .root := by decide
  obtain ⟨hreturns, hmem, _⟩ := survey_returns_iff hsound ha publicSurvey
  obtain ⟨ms, hms⟩ : ∃ ms, (survey _ (.ofParts ["repo"]) publicSurvey).modules = .ok ms := by
    refine hreturns.mpr fun parts hs => ?_
    obtain ⟨n, hn, hparts⟩ := (isSome_node?_iff (List.cons_ne_nil _ _)).mp hs.there
    simp only [besideDisk, List.mem_cons, List.not_mem_nil, or_false] at hn
    rcases hn with rfl | rfl | rfl
    · exact absurd (List.cons.inj hparts).2.symm hs.below
    · obtain rfl := (List.cons.inj hparts).2
      exact ⟨apiContent, rfl, fun f hf => nomatch hm.symm.trans hf⟩
    · obtain rfl := (List.cons.inj hparts).2
      exact ⟨_, rfl, fun f hf => nomatch hmalformed.symm.trans hf⟩
  exact ⟨hsound, ms, hms, m, (hmem ms hms m).mpr
    ⟨_, _, besideDisk_surveyed _ (by simp), rfl, hm, hempty⟩, hm⟩

/-- A directory whose name ends like that of a module spoils the survey of the module beside it. -/
theorem besideDisk_spoiled :
    (besideDisk .folder).Sound ∧
    Surveyed (besideDisk .folder) (.ofParts ["repo"]) publicSurvey.allPatterns ["api.py"] ∧
    (∃ m, readContent false ["api.py"] apiContent = .ok m ∧ m.isEmpty = false) ∧
    ∃ f, (survey (besideDisk .folder) (.ofParts ["repo"]) publicSurvey).modules = .error f := by
  have hsound := besideDisk_sound .folder
  have hspoiler : Surveyed (besideDisk .folder) (.ofParts ["repo"]) publicSurvey.allPatterns
    ["old.py"] :=
    besideDisk_surveyed .folder (by simp)
  refine ⟨hsound, besideDisk_surveyed .folder (by simp), api_reads, ?_⟩
  cases hsurvey : (survey (besideDisk .folder) (.ofParts ["repo"]) publicSurvey).modules with
  | error f => exact ⟨f, rfl⟩
  | ok ms =>
    have hnone := (((modules_survey _ _ _).1 ms).mp hsurvey).1 ["old.py"] hspoiler
    rw [pathFault?_folder hsound (by decide) rfl] at hnone
    cases hnone

end Apidoc
