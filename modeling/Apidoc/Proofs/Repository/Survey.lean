import Apidoc.Proofs.Component.Keys
import Apidoc.Repository.Survey
import Mathlib.Data.List.Nodup

/-!
# The paths of the modules a survey finds

* `Glob.isMatch_py`          the names that are looked at are those with the ending `.py`;
* `Disk.IsTree`              every name is there once, and no slash is in a name;
* `Path.text_inj`            paths below a directory are different texts if they are different
                             names;
* `suffix_of_survey`         each module has a path with that ending;
* `nodup_survey`             on a tree no two modules have the same path.
-/

namespace Apidoc

/-! ## a pattern with a star in front -/

namespace Glob

theorem afterStar_iff {rest : List Char → Bool} {cs : List Char} :
    afterStar rest cs ↔ ∃ t, t <:+ cs ∧ rest t := by
  induction cs with
  | nil => simp [afterStar]
  | cons c cs ih => simp [afterStar, ih, List.suffix_cons_iff, or_and_right, exists_or]

theorem matchItems_chars {w cs : List Char} : matchItems (w.map .char) cs ↔ cs = w := by
  induction w generalizing cs with
  | nil => simp [matchItems]
  | cons c w ih =>
    cases cs with
    | nil => simp [matchItems]
    | cons d cs => simp [matchItems, Item.accepts, ih]

theorem isMatch_py {name : String} : isMatch "*.py" name ↔ ".py".toList <:+ name.toList := by
  have hparse : parse "*.py" = .star :: ".py".toList.map .char := by decide
  rw [isMatch, hparse, matchItems, afterStar_iff]
  simp only [matchItems_chars]
  exact ⟨fun ⟨_, ht, h⟩ => h ▸ ht, fun h => ⟨_, h, rfl⟩⟩

end Glob

/-! ## names and the texts of paths -/

/-- A disk as a system keeps it: there is one thing under a name, and no slash is part of one. -/
structure Disk.IsTree (d : Disk) : Prop where
  nodup : (d.nodes.map (·.1)).Nodup
  noSlash : ∀ n ∈ d.nodes, ∀ p ∈ n.1, '/' ∉ p.toList

namespace Path

theorem text_ofParts {ps : List String} (h : ps ≠ []) :
    (ofParts ps).text.toList = ['/'].intercalate (ps.map String.toList) := by
  have hempty : ps.isEmpty = false := by simpa using h
  simp only [text, ofParts, hempty, Bool.false_eq_true, if_false, String.toList_intercalate]
  rfl

theorem splitOn_text {ps : List String} (hps : ps ≠ []) (hp : ∀ p ∈ ps, '/' ∉ p.toList) :
    (ofParts ps).text.toList.splitOn '/' = ps.map String.toList := by
  rw [text_ofParts hps]
  exact List.splitOn_intercalate '/' (List.forall_mem_map.mpr hp) (by simpa using hps)

theorem text_inj {ps qs : List String} (hps : ps ≠ []) (hqs : qs ≠ [])
    (hp : ∀ p ∈ ps, '/' ∉ p.toList) (hq : ∀ q ∈ qs, '/' ∉ q.toList)
    (h : (ofParts ps).text = (ofParts qs).text) : ps = qs := by
  have hmap : ps.map String.toList = qs.map String.toList := by
    rw [← splitOn_text hps hp, ← splitOn_text hqs hq, h]
  exact List.map_injective_iff.mpr (fun _ _ => String.toList_inj.mp) hmap

theorem suffix_text {ps : List String} (h : ps ≠ []) :
    (ps.getLastD "").toList <:+ (ofParts ps).text.toList := by
  rw [text_ofParts h]
  induction ps with
  | nil => exact absurd rfl h
  | cons p ps ih =>
    cases ps with
    | nil => simp
    | cons q ps =>
      rw [List.map_cons, List.map_cons, List.intercalate_cons_cons]
      exact (ih (List.cons_ne_nil q ps)).trans (List.suffix_append _ _)

end Path

/-! ## what is surveyed -/

variable {d : Disk} {repo : Path} {settings : SurveySettings} {ms : List ModuleDoc}

theorem surveyed_cases {patterns : List String} {ps parts : List String}
    (h : (if ps.take repo.parts.length == repo.parts && !(ps.drop repo.parts.length).isEmpty &&
        Glob.isMatch "*.py" ((ps.drop repo.parts.length).getLastD "") &&
        !isExcluded patterns (ps.drop repo.parts.length) then
          some (ps.drop repo.parts.length) else none) =
      some parts) :
    ps = repo.parts ++ parts ∧ parts ≠ [] ∧ Glob.isMatch "*.py" (parts.getLastD "") := by
  split at h
  · rename_i hif
    cases h
    simp only [Bool.and_eq_true, beq_iff_eq, Bool.not_eq_true', List.isEmpty_eq_false_iff] at hif
    obtain ⟨⟨⟨htake, hne⟩, hpy⟩, -⟩ := hif
    refine ⟨?_, hne, hpy⟩
    conv_lhs => rw [← List.take_append_drop repo.parts.length ps, htake]
  · cases h

theorem mem_moduleFiles {patterns : List String} {parts : List String}
    (h : parts ∈ moduleFiles d repo patterns) :
    (∃ n ∈ d.nodes, n.1 = repo.parts ++ parts) ∧ parts ≠ [] ∧
    Glob.isMatch "*.py" (parts.getLastD "") := by
  rw [moduleFiles, List.mem_mergeSort, List.mem_filterMap] at h
  obtain ⟨n, hn, h⟩ := h
  obtain ⟨hparts, hne, hpy⟩ := surveyed_cases h
  split at hn
  · cases hn
  · exact ⟨⟨n, hn, hparts⟩, hne, hpy⟩

theorem nodup_moduleFiles {patterns : List String} (hd : d.IsTree) :
    (moduleFiles d repo patterns).Nodup := by
  refine (List.mergeSort_perm _ _).nodup_iff.mpr (List.pairwise_filterMap.mpr ?_)
  split
  · exact .nil
  refine (List.pairwise_map.mp hd.nodup).imp fun {m n} hne ps hps qs hqs he => hne ?_
  rw [(surveyed_cases hps).1, (surveyed_cases hqs).1, he]

theorem path_readContent {includePrivate : Bool} {parts : List String} {c : Content} {m : ModuleDoc}
    (h : readContent includePrivate parts c = .ok m) : m.path = (Path.ofParts parts).text := by
  cases c with
  | binary bytes => cases h
  | text s =>
    obtain ⟨ss, hread⟩ := readSource_readFrom h
    exact hread.path_eq

/-- Modules stand in the order of their files, under the paths of those. -/
theorem paths_readContents {includePrivate : Bool} {files : List (List String)}
    (h : (readContents d repo includePrivate files).modules = .ok ms) :
    (ms.map (·.path)).Sublist (files.map fun ps => (Path.ofParts ps).text) := by
  induction files generalizing ms with
  | nil =>
    cases h
    exact .slnil
  | cons parts rest ih =>
    rw [readContents] at h
    split at h
    · cases h
    · split at h
      · cases h
      · exact (ih h).cons _
      · rename_i c _ m hm
        dsimp only at h
        split at h
        · exact (ih h).cons _
        · obtain ⟨ms, hms, rfl⟩ := ok_of_map h
          rw [List.map_cons, path_readContent hm]
          exact (ih hms).cons_cons _

theorem paths_survey (h : (survey d repo settings).modules = .ok ms) :
    ∃ paths, (ms.map (·.path)).Perm paths ∧
      paths.Sublist ((moduleFiles d repo settings.allPatterns).map fun ps =>
        (Path.ofParts ps).text) := by
  obtain ⟨found, hfound, rfl⟩ := ok_of_map h
  exact ⟨found.map (·.path), (List.mergeSort_perm _ _).map _, paths_readContents hfound⟩

theorem suffix_of_survey (h : (survey d repo settings).modules = .ok ms) {m : ModuleDoc}
    (hm : m ∈ ms) : ".py".toList <:+ m.path.toList := by
  obtain ⟨paths, hperm, hsub⟩ := paths_survey h
  obtain ⟨ps, hps, hpath⟩ := List.mem_map.mp (hsub.subset (hperm.subset (List.mem_map_of_mem hm)))
  obtain ⟨-, hne, hpy⟩ := mem_moduleFiles hps
  rw [← hpath]
  exact (Glob.isMatch_py.mp hpy).trans (Path.suffix_text hne)

theorem nodup_survey (hd : d.IsTree) (h : (survey d repo settings).modules = .ok ms) :
    (ms.map (·.path)).Nodup := by
  obtain ⟨paths, hperm, hsub⟩ := paths_survey h
  refine hperm.nodup_iff.mpr (.sublist hsub ?_)
  have hnames {ps : List String} (hps : ps ∈ moduleFiles d repo settings.allPatterns) :
      ps ≠ [] ∧ ∀ p ∈ ps, '/' ∉ p.toList := by
    obtain ⟨⟨n, hn, hparts⟩, hne, -⟩ := mem_moduleFiles hps
    exact ⟨hne, fun p hp => hd.noSlash n hn p (hparts ▸ List.mem_append_right _ hp)⟩
  refine (nodup_moduleFiles hd).map_on fun ps hps qs hqs he => ?_
  exact Path.text_inj (hnames hps).1 (hnames hqs).1 (hnames hps).2 (hnames hqs).2 he

end Apidoc
