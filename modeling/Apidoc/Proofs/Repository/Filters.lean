import Apidoc.Proofs.Repository.Outcome

/-!
# Surveys with more and fewer patterns

* `ModuleDoc.names`             the names in the path of a module;
* `isExcluded_mono`             more patterns exclude more;
* `sorted_survey`               on a tree the modules of a survey have increasing paths;
* `SurveySettings.Narrows`      settings that keep out more than others, and read modules alike;
* `survey_filters`              a survey with such settings finds those modules of the other one
                                that it does not keep out, as they are.
-/

namespace Apidoc

/-- the names of the directories above a module and of its file -/
def ModuleDoc.names (m : ModuleDoc) : List String := (m.path.toList.splitOn '/').map String.ofList

/-! ## patterns -/

theorem isExcluded_iff {patterns parts : List String} : isExcluded patterns parts = true ↔
    ∃ p ∈ patterns, (∃ name ∈ parts, Glob.isMatch p name) ∨
    Glob.isMatch p (Path.ofParts parts).text := by
  simp only [isExcluded, List.any_eq_true, Bool.or_eq_true]

theorem isExcluded_mono {patterns more parts : List String} (h : patterns ⊆ more)
    (hkept : isExcluded more parts = false) : isExcluded patterns parts = false := by
  rw [Bool.eq_false_iff, Ne, isExcluded_iff] at hkept ⊢
  rintro ⟨p, hp, hmatch⟩
  exact hkept ⟨p, h hp, hmatch⟩

variable {d : Disk} {repo : Path} {patterns parts : List String} {s t : SurveySettings}
  {ms : List ModuleDoc} {m : ModuleDoc}

theorem Surveyed.iff_of_subset {more : List String} (h : patterns ⊆ more) :
    Surveyed d repo more parts ↔ Surveyed d repo patterns parts ∧ isExcluded more parts = false :=
  ⟨fun hs => ⟨⟨hs.onDisk, hs.there, hs.below, hs.named, isExcluded_mono h hs.kept⟩, hs.kept⟩,
    fun hs => ⟨hs.1.onDisk, hs.1.there, hs.1.below, hs.1.named, hs.2⟩⟩

/-! ## modules and their paths -/

theorem path_pathModule? {includePrivate : Bool}
    (h : pathModule? d repo includePrivate parts = some m) :
    m.path = (Path.ofParts parts).text := by
  unfold pathModule? at h
  split at h
  · cases h
  · split at h
    · rename_i hread
      split at h
      · cases h
      · cases h
        exact path_readContent hread
    · cases h

/-- The names in the path of a module are those that lead to its file. -/
theorem Surveyed.names_eq (hd : d.IsTree) (hs : Surveyed d repo patterns parts)
    {includePrivate : Bool} (hm : pathModule? d repo includePrivate parts = some m) :
    m.names = parts := by
  obtain ⟨n, hn, hplace⟩ :=
    (isSome_node?_iff (List.append_ne_nil_of_right_ne_nil _ hs.below)).mp hs.there
  have hslash (p : String) (hp : p ∈ parts) : '/' ∉ p.toList :=
    hd.noSlash n hn p (hplace ▸ List.mem_append_right _ hp)
  rw [ModuleDoc.names, path_pathModule? hm, Path.splitOn_text hs.below hslash, List.map_map]
  exact (List.map_congr_left fun p _ => String.ofList_toList).trans (List.map_id parts)

theorem mem_survey_iff (h : (survey d repo s).modules = .ok ms) :
    m ∈ ms ↔ ∃ parts, Surveyed d repo s.allPatterns parts ∧
    pathModule? d repo s.includePrivate parts = some m := by
  rw [(((modules_survey d repo s).1 ms).mp h).2, List.mem_mergeSort, List.mem_filterMap]
  simp only [mem_moduleFiles_iff]

theorem sorted_survey (hd : d.IsTree) (h : (survey d repo s).modules = .ok ms) :
    ms.Pairwise fun a b => a.path < b.path := by
  have hle : ms.Pairwise fun a b => a.path ≤ b.path := by
    rw [(((modules_survey d repo s).1 ms).mp h).2]
    refine (List.pairwise_mergeSort (fun a b c hab hbc => ?_)
      (fun a b => ?_) _).imp of_decide_eq_true
    · exact decide_eq_true (String.le_trans (of_decide_eq_true hab) (of_decide_eq_true hbc))
    · simpa using String.le_total a.path b.path
  have hne : ms.Pairwise fun a b => a.path ≠ b.path := List.pairwise_map.mp (nodup_survey hd h)
  exact (hle.and hne).imp fun hab => Std.lt_of_le_of_ne hab.1 hab.2

theorem eq_of_mem_iff {ms' : List ModuleDoc} (h : ms.Pairwise fun a b => a.path < b.path)
    (h' : ms'.Pairwise fun a b => a.path < b.path) (hmem : ∀ m, m ∈ ms ↔ m ∈ ms') : ms = ms' := by
  have hnodup {ms : List ModuleDoc} (h : ms.Pairwise fun a b => a.path < b.path) : ms.Nodup :=
    h.imp fun {a b} hlt (he : a = b) => String.lt_irrefl a.path (by rwa [← he] at hlt)
  refine List.Perm.eq_of_pairwise (fun a b _ _ hab hba => ?_) h h'
    ((List.perm_ext_iff_of_nodup (hnodup h) (hnodup h')).mpr hmem)
  exact absurd (String.lt_trans hab hba) (String.lt_irrefl _)

/-! ## settings that keep out more -/

/-- The settings `t` read modules as `s` do and keep out at least as much: tests unless `s` keep
them, and all that a pattern of `s` keeps out. -/
structure SurveySettings.Narrows (s t : SurveySettings) : Prop where
  includePrivate : t.includePrivate = s.includePrivate
  tests : t.includeTests → s.includeTests
  patterns : s.patterns ⊆ t.patterns

theorem SurveySettings.narrows_append (s : SurveySettings) (more : List String) :
    s.Narrows { s with patterns := s.patterns ++ more } := ⟨rfl, id, List.subset_append_left _ _⟩

theorem SurveySettings.narrows_tests (s : SurveySettings) :
    ({ s with includeTests := true } : SurveySettings).Narrows { s with includeTests := false } :=
  ⟨rfl, fun _ => rfl, List.Subset.refl _⟩

theorem SurveySettings.Narrows.allPatterns_subset (h : s.Narrows t) :
    s.allPatterns ⊆ t.allPatterns := by
  refine List.append_subset.mpr ⟨fun p hp => List.mem_append_left _ ?_,
    fun p hp => List.mem_append_right _ (h.patterns hp)⟩
  cases ht : t.includeTests with
  | true =>
    rw [h.tests ht] at hp
    exact hp
  | false =>
    split at hp
    · exact List.mem_of_mem_filter hp
    · exact hp

theorem survey_narrow (hd : d.IsTree) (hst : s.Narrows t) {ms' : List ModuleDoc}
    (h : (survey d repo s).modules = .ok ms) (h' : (survey d repo t).modules = .ok ms') :
    ms' = ms.filter fun m => !isExcluded t.allPatterns m.names := by
  refine eq_of_mem_iff (sorted_survey hd h') ((sorted_survey hd h).filter _) fun m => ?_
  rw [List.mem_filter, mem_survey_iff h, mem_survey_iff h', hst.includePrivate, Bool.not_eq_true']
  simp only [Surveyed.iff_of_subset hst.allPatterns_subset]
  constructor
  · rintro ⟨parts, ⟨hs, hkept⟩, hm⟩
    exact ⟨⟨parts, hs, hm⟩, by rwa [hs.names_eq hd hm]⟩
  · rintro ⟨⟨parts, hs, hm⟩, hkept⟩
    exact ⟨parts, ⟨hs, by rwa [hs.names_eq hd hm] at hkept⟩, hm⟩

/-- On a tree a survey lists modules by increasing paths, and no pattern matches a name in one of
these paths, or the whole of it.  Settings that keep out more find those of the modules that they do
not keep out, in the same order, and what is found by both is the same module. -/
theorem survey_filters (hd : d.IsTree) (h : (survey d repo s).modules = .ok ms) :
    (ms.map (·.path)).Pairwise (· < ·) ∧
    (∀ m ∈ ms, ∀ p ∈ s.allPatterns, (∀ name ∈ m.names, Glob.isMatch p name = false) ∧
      Glob.isMatch p m.path = false) ∧
    ∀ t, s.Narrows t → ∀ ms', (survey d repo t).modules = .ok ms' →
      ms' = (ms.filter fun m => !isExcluded t.allPatterns m.names) ∧ ms'.Sublist ms ∧
      ∀ m ∈ ms, ∀ m' ∈ ms', m'.path = m.path → m' = m := by
  refine ⟨List.pairwise_map.mpr (sorted_survey hd h), fun m hm p hp => ?_, fun t hst ms' h' => ?_⟩
  · obtain ⟨parts, hs, hpath⟩ := (mem_survey_iff h).mp hm
    rw [hs.names_eq hd hpath, path_pathModule? hpath]
    have hkept := hs.kept
    rw [Bool.eq_false_iff, Ne, isExcluded_iff] at hkept
    constructor
    · exact fun name hname => Bool.eq_false_iff.mpr fun hmatch => hkept
        ⟨p, hp, .inl ⟨name, hname, hmatch⟩⟩
    · exact Bool.eq_false_iff.mpr fun hmatch => hkept ⟨p, hp, .inr hmatch⟩
  · have hfilter := survey_narrow hd hst h h'
    have hsub : ms'.Sublist ms := hfilter ▸ List.filter_sublist
    exact ⟨hfilter, hsub, fun m hm m' hm' he =>
      List.inj_on_of_nodup_map (nodup_survey hd h) (hsub.subset hm') hm he⟩

/-! ## tests and generated modules -/

/-- A survey that comes upon modules in the order of their paths lists them so. -/
theorem survey_of_sorted {files : List (List String)}
    (hfiles : moduleFiles d repo s.allPatterns = files)
    (hread : (readContents d repo s.includePrivate files).modules = .ok ms)
    (hsorted : (ms.map (·.path)).Pairwise (· ≤ ·)) : (survey d repo s).modules = .ok ms := by
  change (readContents d repo s.includePrivate (moduleFiles d repo s.allPatterns)).modules.map _ = _
  rw [hfiles, hread]
  refine congrArg Except.ok (List.mergeSort_of_pairwise ?_)
  simpa using List.pairwise_map.mp hsorted

def smallContent : Content := .text "x = 1\n"

def mixedDisk : Disk :=
  ⟨"/work", [(["api.py"], .file smallContent), (["gen_api.py"], .file smallContent),
    (["tests"], .folder), (["tests", "check.py"], .file smallContent)]⟩

theorem survey_mixedDisk (s : SurveySettings) (files : List (List String)) (paths : List String)
    (hfiles : moduleFiles mixedDisk (.ofParts []) s.allPatterns = files)
    (hread : (readContents mixedDisk (.ofParts []) s.includePrivate files).modules.map
      (List.map (·.path)) = .ok paths)
    (hsorted : paths.Pairwise (· ≤ ·)) :
    ∃ ms, (survey mixedDisk (.ofParts []) s).modules = .ok ms ∧ ms.map (·.path) = paths := by
  obtain ⟨ms, hms, hpaths⟩ := ok_of_map hread
  exact ⟨ms, survey_of_sorted hfiles hms (by rwa [hpaths]), hpaths⟩

def testedSurvey : SurveySettings := ⟨false, true, []⟩

/-- Without tests, and with a pattern for generated modules, the others are found as before. -/
theorem mixedDisk_filters :
    mixedDisk.IsTree ∧
    ∃ all untested written,
      (survey mixedDisk (.ofParts []) testedSurvey).modules = .ok all ∧
      (survey mixedDisk (.ofParts []) { testedSurvey with includeTests := false }).modules =
        .ok untested ∧
      (survey mixedDisk (.ofParts []) { testedSurvey with patterns := [] ++
        ["gen_[a-c]*"] }).modules = .ok written ∧
      all.map (·.path) = ["api.py", "gen_api.py", "tests/check.py"] ∧
      untested.map (·.path) = ["api.py", "gen_api.py"] ∧ untested.Sublist all ∧
      written.map (·.path) = ["api.py", "tests/check.py"] ∧ written.Sublist all := by
  have htree : mixedDisk.IsTree := ⟨by decide, by decide⟩
  obtain ⟨all, hall, hpaths⟩ :=
    survey_mixedDisk testedSurvey [["api.py"], ["gen_api.py"], ["tests", "check.py"]]
    ["api.py", "gen_api.py", "tests/check.py"]
    (by rw [moduleFiles, List.mergeSort_of_pairwise (by decide +kernel)]; decide +kernel)
    (by decide +kernel) (by decide)
  obtain ⟨untested, huntested, hpaths₁⟩ :=
    survey_mixedDisk { testedSurvey with includeTests := false }
    [["api.py"], ["gen_api.py"]] ["api.py", "gen_api.py"]
    (by rw [moduleFiles, List.mergeSort_of_pairwise (by decide +kernel)]; decide +kernel)
    (by decide +kernel) (by decide)
  obtain ⟨written, hwritten, hpaths₂⟩ :=
    survey_mixedDisk { testedSurvey with patterns := [] ++ ["gen_[a-c]*"] }
    [["api.py"], ["tests", "check.py"]] ["api.py", "tests/check.py"]
    (by rw [moduleFiles, List.mergeSort_of_pairwise (by decide +kernel)]; decide +kernel)
    (by decide +kernel) (by decide)
  have hless := (survey_filters htree hall).2.2
  exact ⟨htree, all, untested, written, hall, huntested, hwritten, hpaths,
    hpaths₁, (hless _ testedSurvey.narrows_tests untested huntested).2.1,
    hpaths₂, (hless _ (testedSurvey.narrows_append _) written hwritten).2.1⟩

end Apidoc
