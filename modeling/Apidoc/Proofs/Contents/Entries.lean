import Apidoc.Contents.Build
import Apidoc.Proofs.Repository.Outcome
import Apidoc.Proofs.Selection.Choices

/-!
# The entries of a table of contents

* `Entry.mem_flatten`          the entries of a forest are its trees and those below them;
* `exists_component`           every entry of the contents of some modules is that of a component;
* `isId_of_survey`             so its id is one that can be saved, if the modules were found by a
                               survey.
-/

namespace Apidoc

namespace Entry

theorem mem_flatten {x : Entry} {es : List Entry} :
    x ∈ flatten es ↔ ∃ e ∈ es, x = e ∨ x ∈ flatten e.children := by
  induction es with
  | nil => simp [flatten]
  | cons e es ih =>
    have hone : x ∈ flattenOne e ↔ x = e ∨ x ∈ flatten e.children := by
      cases e with
      | mk heading children =>
        rw [flattenOne, List.mem_cons]
        rfl
    rw [flatten, List.mem_append, ih, hone, List.exists_mem_cons_iff]

theorem mem_flatten_of_mem {e : Entry} {es : List Entry} (h : e ∈ es) : e ∈ flatten es :=
  mem_flatten.mpr ⟨e, h, .inl rfl⟩

theorem mem_flatten_of_child {e x : Entry} {es : List Entry} (h : e ∈ es)
    (hx : x ∈ flatten e.children) :
    x ∈ flatten es := mem_flatten.mpr ⟨e, h, .inr hx⟩

end Entry

/-! ## entries and components -/

theorem mem_flatten_leaf {α : Type} {f : α → Heading} {xs : List α} {x : Entry}
    (h : x ∈ Entry.flatten (xs.map fun a => leaf (f a))) : ∃ a ∈ xs, x = leaf (f a) := by
  obtain ⟨e, he, hx⟩ := Entry.mem_flatten.mp h
  obtain ⟨a, ha, rfl⟩ := List.mem_map.mp he
  rcases hx with rfl | hx
  · exact ⟨a, ha, rfl⟩
  · cases hx

theorem Entry.flatten_append (es fs : List Entry) :
    flatten (es ++ fs) = flatten es ++ flatten fs := by
  induction es with
  | nil => rfl
  | cons e es ih => rw [List.cons_append, flatten, flatten, ih, List.append_assoc]

theorem exists_member {s : ContentsSettings} {c : ClassDoc} {x : Entry}
    (h : x ∈ Entry.flatten (memberEntries s c)) : ∃ k ∈ c.components, k.id = x.id := by
  unfold memberEntries at h
  rw [Entry.flatten_append, List.mem_append] at h
  rcases h with h | h
  · split at h
    · obtain ⟨m, hm, rfl⟩ := mem_flatten_leaf h
      exact ⟨.method m, by simp [ClassDoc.components, hm], rfl⟩
    · cases h
  · split at h
    · rw [Entry.flatten_append, List.mem_append] at h
      rcases h with h | h
      · obtain ⟨p, hp, rfl⟩ := mem_flatten_leaf h
        exact ⟨.property p, by simp [ClassDoc.components, hp], rfl⟩
      · obtain ⟨v, hv, rfl⟩ := mem_flatten_leaf h
        exact ⟨.property v, by simp [ClassDoc.components, hv], rfl⟩
    · cases h

theorem exists_component {s : ContentsSettings} {ms : List ModuleDoc} {x : Entry}
    (h : x ∈ Entry.flatten (contents s ms)) : ∃ m ∈ ms, ∃ k ∈ m.components, k.id = x.id := by
  obtain ⟨e, he, hx⟩ := Entry.mem_flatten.mp h
  obtain ⟨m, hm, rfl⟩ := List.mem_map.mp he
  refine ⟨m, hm, ?_⟩
  rcases hx with rfl | hx
  · exact ⟨.module m, List.mem_cons_self, rfl⟩
  · change x ∈ Entry.flatten (m.classes.map (classEntry s m.id) ++
      m.functions.map (functionEntry m.id) ++ _) at hx
    rw [Entry.flatten_append, Entry.flatten_append, List.mem_append, List.mem_append] at hx
    rcases hx with (hx | hx) | hx
    · obtain ⟨e, he, hx⟩ := Entry.mem_flatten.mp hx
      obtain ⟨c, hc, rfl⟩ := List.mem_map.mp he
      have hcomponents {k : Component} (hk : k ∈ c.components) : k ∈ m.components :=
        List.mem_append_left _ (List.mem_append_left _
          (List.mem_cons_of_mem _ (List.mem_flatMap.mpr ⟨c, hc, hk⟩)))
      rcases hx with rfl | hx
      · exact ⟨.classDef c, hcomponents List.mem_cons_self, rfl⟩
      · obtain ⟨k, hk, hid⟩ := exists_member hx
        exact ⟨k, hcomponents hk, hid⟩
    · obtain ⟨f, hf, rfl⟩ := mem_flatten_leaf hx
      exact ⟨.function f, by simp [ModuleDoc.components, hf], rfl⟩
    · obtain ⟨p, hp, rfl⟩ := mem_flatten_leaf hx
      exact ⟨.property p, by simp [ModuleDoc.components, List.mem_of_mem_filter hp], rfl⟩

/-! ## ids -/

theorem Digest.mem_hexDigits {k n : Nat} {c : Char} (h : c ∈ hexDigits k n) :
    c ∈ "0123456789abcdef".toList := by
  induction k generalizing n with
  | zero => cases h
  | succ k ih =>
    rw [hexDigits, List.mem_append, List.mem_singleton] at h
    rcases h with h | rfl
    · exact ih h
    · have hlength : "0123456789abcdef".toList.length = 16 := rfl
      have hlt : n % 16 < "0123456789abcdef".toList.length := by
        rw [hlength]
        exact Nat.mod_lt n (by decide)
      rw [hexDigitChar, List.getD_eq_getElem?_getD, List.getElem?_eq_getElem hlt, Option.getD_some]
      exact List.getElem_mem hlt

theorem Digest.length_hexDigits (k n : Nat) : (hexDigits k n).length = k := by
  induction k generalizing n with
  | zero => rfl
  | succ k ih => rw [hexDigits, List.length_append, ih, List.length_singleton]

theorem Digest.length_hexDigest (text : String) : (hexDigest text).toList.length = 64 := by
  rw [hexDigest, String.toList_ofList, List.length_flatMap]
  simp only [length_hexDigits]
  rfl

theorem isId_digestId (key : String) : IsId (digestId key) := by
  constructor
  · rw [digestId, String.length_ofList, List.length_take, Digest.length_hexDigest]
    rfl
  · intro c hc
    rw [digestId, String.toList_ofList] at hc
    have hdigest := List.mem_of_mem_take hc
    rw [Digest.hexDigest, String.toList_ofList] at hdigest
    obtain ⟨w, _, hw⟩ := List.mem_flatMap.mp hdigest
    exact Digest.mem_hexDigits hw

theorem readContent_keyed {includePrivate : Bool} {parts : List String} {c : Content}
    {m : ModuleDoc} (h : readContent includePrivate parts c = .ok m) : m.Keyed := by
  cases c with
  | binary bytes => cases h
  | text t =>
    obtain ⟨ss, hread⟩ := readSource_readFrom h
    exact hread.keyed

theorem keyed_of_survey {d : Disk} {repo : Path} {settings : SurveySettings} {ms : List ModuleDoc}
    (h : (survey d repo settings).modules = .ok ms) {m : ModuleDoc} (hm : m ∈ ms) : m.Keyed := by
  rw [(((modules_survey d repo settings).1 ms).mp h).2, List.mem_mergeSort,
    List.mem_filterMap] at hm
  obtain ⟨parts, _, hm⟩ := hm
  unfold pathModule? at hm
  split at hm
  · cases hm
  · split at hm
    · split at hm
      · cases hm
      · cases hm
        exact readContent_keyed ‹_›
    · cases hm

theorem isId_of_survey {d : Disk} {repo : Path} {settings : SurveySettings} {ms : List ModuleDoc}
    (h : (survey d repo settings).modules = .ok ms) (s : ContentsSettings) :
    ∀ e ∈ Entry.flatten (contents s ms), IsId e.id := by
  intro e he
  obtain ⟨m, hm, k, hk, hid⟩ := exists_component he
  have hmem : k.id ∈ m.keys.map digestId := (keyed_of_survey h hm).ids ▸ List.mem_map_of_mem hk
  obtain ⟨key, _, hkey⟩ := List.mem_map.mp hmem
  rw [← hid, ← hkey]
  exact isId_digestId key

end Apidoc
