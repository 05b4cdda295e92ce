import Apidoc.Proofs.Data.Yaml.Mapping
import Apidoc.Proofs.Data.Yaml.Numeral
import Apidoc.Proofs.Page.Export
import Apidoc.Proofs.Repository.Rewriting
import Apidoc.Proofs.Selection.Saving

/-!
# Selections from an editable page are loaded

The file that an editable page exports names each id without quotes.  An id whose digits make a
number is loaded as that number, and a file without selections is not loaded at all.

* `Export.key`                   what an id is once the file is read;
* `Export.parse_text`            the document in the file;
* `Store.load_export`            what is loaded from the file;
* `exported_choices_load_iff`    when the choices are loaded as they were made.
-/

namespace Apidoc

open Ordered (keyed)
open Yaml (Node Tag Token LinesRead ValueRead Nodes numeral?)

namespace Export

variable {id now : String} {m : List (String × Bool)}

/-! ## keys -/

/-- The key that an id is read as: a number if it looks like one. -/
def key (id : String) : Data :=
  match numeral? id.toList with
  | some n => .int n
  | none => .str id

theorem key_of_numeral (h : numeral? id.toList = none) : key id = .str id := by
  rw [key, h]

theorem isKey_key (id : String) : Yaml.isKey (key id) = true := by
  unfold key
  split
  · rfl
  · rfl

theorem hexWord_id (h : IsId id) : Yaml.HexWord id.toList where
  digits := h.2
  long := by
    rw [String.length_toList, h.1]
    decide

theorem value_id (h : IsId id) : (Tag.ofPlain id.toList).value id.toList = .ok (key id) := by
  have hshort : id.toList.length ≤ 4300 := by
    rw [String.length_toList, h.1]
    decide
  have hvalue := (hexWord_id h).value_eq hshort
  rw [String.ofList_toList] at hvalue
  exact hvalue

theorem tag_id (h : IsId id) :
    Tag.ofPlain id.toList ≠ .merge ∧ Tag.ofPlain id.toList ≠ .default := by
  rw [(hexWord_id h).ofPlain_eq]
  split
  · exact ⟨nofun, nofun⟩
  · exact ⟨nofun, nofun⟩

theorem keyScans_id (h : IsId id) : Yaml.Blocks.KeyScans id.toList (.scalar id.toList true) := by
  refine (hexWord_id h).keyScans ?_
  rw [String.length_toList, h.1]
  decide

theorem beq_int (n : Int) : (Data.int n == .int n) = true := by
  show Data.same _ _ = _
  simp [Data.same, Data.sameNumber, Data.wholeNumber?]

theorem str_beq_int (t : String) (n : Int) : (Data.str t == .int n) = false := by
  show Data.same _ _ = _
  simp [Data.same, Data.sameNumber, Data.wholeNumber?]

/-! ## selections -/

theorem exists_entry (b : Bool) :
    ∃ ts v, ValueRead 2 (entryBody b) ts v ∧ v.value = .ok (Choice.toData ⟨b, none, none⟩) := by
  have hfits : Yaml.Fits 2 (Choice.toData ⟨b, none, none⟩) := Choice.fits _ (by decide)
  have hbody : Yaml.afterKey 2 0 (Choice.toData ⟨b, none, none⟩) = entryBody b := by
    cases b <;> rfl
  obtain ⟨ts, v, hreads⟩ := (hfits.reads 2 (Nat.le_refl 2)).1
  exact ⟨ts, v, hbody ▸ hreads.valueRead 0, hreads.value⟩

def pairs (m : List (String × Bool)) : Yaml.Pairs :=
  m.map fun p => (key p.1, Choice.toData ⟨p.2, none, none⟩)

theorem exists_entries (hne : m ≠ []) (hids : ∀ p ∈ m, IsId p.1) :
    ∃ ts nodes, LinesRead 2 (entryLines m) ts nodes ∧ Node.pairValues nodes =
      .ok ([], pairs m) := by
  induction m with
  | nil => exact absurd rfl hne
  | cons p m ih =>
    rw [List.forall_mem_cons] at hids
    have hkey := keyScans_id hids.1
    have hnode := Yaml.nodes_scalar p.1.toList true
    obtain ⟨ts, v, hread, hvalue⟩ := exists_entry p.2
    cases m with
    | nil =>
      exact ⟨_, _, .one hkey hnode hread, Yaml.pairValues_own (tag_id hids.1) (value_id hids.1)
        (isKey_key _) hvalue
        Yaml.pairValues_nil⟩
    | cons q m =>
      obtain ⟨us, nodes, hmore, hpairs⟩ := ih (List.cons_ne_nil q m) hids.2
      exact ⟨_, _, .more hkey hnode hread hmore, Yaml.pairValues_own (tag_id hids.1)
        (value_id hids.1) (isKey_key _)
        hvalue hpairs⟩

/-! ## the document -/

def content (m : List (String × Bool)) : Data :=
  if m.isEmpty then .null else .map (Ordered.ofList (pairs m))

theorem keyScans_plain {cs : List Char} (h : Yaml.isPlain cs = true) (hshort : cs.length ≤ 1024) :
    Yaml.Blocks.KeyScans cs (.scalar cs true) ∧ Nodes [.scalar cs true] (.scalar .str cs) := by
  obtain ⟨hbare, hstart, htag⟩ := Yaml.bare_of_isPlain h
  exact ⟨Yaml.Blocks.keyScans_bare hbare hshort hstart, htag ▸ Yaml.nodes_scalar cs true⟩

theorem exists_last (hids : ∀ p ∈ m, IsId p.1) :
    ∃ ts v, LinesRead 0 (field "selections" (body m)) ts [(.scalar .str "selections".toList, v)] ∧
      v.value = .ok (content m) := by
  obtain ⟨hkey, hnode⟩ :=
    keyScans_plain (show Yaml.isPlain "selections".toList = true by decide) (by decide)
  cases m with
  | nil => exact ⟨_, _, .bare 0 hkey hnode, rfl⟩
  | cons p m =>
    obtain ⟨ts, nodes, hlines, hpairs⟩ := exists_entries (List.cons_ne_nil p m) hids
    refine ⟨_, _, .one hkey hnode hlines.below, ?_⟩
    rw [Node.value, hpairs]
    rfl

/-- Times as a browser writes them. -/
def IsStamp (now : String) : Prop := ∀ c ∈ now.toList, c ∈ "0123456789+-.:TZ".toList

instance (now : String) : Decidable (IsStamp now) :=
  decidable_of_iff (now.toList.all (fun c => "0123456789+-.:TZ".toList.contains c) = true) <| by
    simp only [IsStamp, List.all_eq_true, List.contains_iff_mem]

def fields (now : String) (m : List (String × Bool)) : List (String × Data) :=
  [("version", .str "1.0"), ("updated_at", .str now), ("metadata", .map []),
    ("selections", content m)]

theorem exists_lines (hnow : IsStamp now) (hids : ∀ p ∈ m, IsId p.1) :
    ∃ ts nodes, LinesRead 0 (lines now (body m)) ts nodes ∧ Node.pairValues nodes =
      .ok ([], keyed (fields now m)) := by
  have hink : ∀ c ∈ now.toList, Yaml.isInk c = true := by
    have hstamp : ∀ c ∈ "0123456789+-.:TZ".toList, Yaml.isInk c = true :=
      List.all_eq_true.mp (by decide)
    exact fun c hc => hstamp c (hnow c hc)
  obtain ⟨hversion, hversionNode⟩ :=
    keyScans_plain (show Yaml.isPlain "version".toList = true by decide) (by decide)
  obtain ⟨htime, htimeNode⟩ :=
    keyScans_plain (show Yaml.isPlain "updated_at".toList = true by decide) (by decide)
  obtain ⟨hmetadata, hmetadataNode⟩ :=
    keyScans_plain (show Yaml.isPlain "metadata".toList = true by decide) (by decide)
  obtain ⟨ts, v, hlast, hvalue⟩ := exists_last hids
  have hempty := (Yaml.inline_emptyMap 0).readsBack.valueRead 0
  have hone : ∀ c ∈ "1.0".toList, Yaml.isInk c = true := List.all_eq_true.mp (by decide)
  have hlines := LinesRead.more hversion hversionNode (Yaml.valueRead_ink 0 hone)
    (.more htime htimeNode (Yaml.valueRead_ink 0 hink) (.more hmetadata hmetadataNode hempty hlast))
  refine ⟨_, _, hlines, ?_⟩
  refine Yaml.pairValues_cons rfl
    (Yaml.pairValues_cons ?_ (Yaml.pairValues_cons (Yaml.inline_emptyMap 0).value
    (Yaml.pairValues_cons hvalue Yaml.pairValues_nil)))
  rw [Node.value, Tag.value, String.ofList_toList]

theorem parse_text (hnow : IsStamp now) (hids : ∀ p ∈ m, IsId p.1) :
    Yaml.Clean (text now m).toList ∧ Yaml.parse (text now m) = .ok (.object (fields now m)) := by
  have hcomments : ∀ l ∈ comments, Yaml.isComment l = true := by decide +kernel
  obtain ⟨ts, nodes, hlines, hpairs⟩ := exists_lines hnow hids
  obtain ⟨hclean, hparse⟩ := Yaml.parse_headed hcomments hlines (text_eq now m)
  refine ⟨hclean, hparse.trans (Yaml.value_mapping ?_ hpairs)⟩
  show ["version", "updated_at", "metadata", "selections"].Nodup
  decide

/-! ## loading -/

def loaded (m : List (String × Bool)) : Except Fault Selections :=
  if m.isEmpty then .error .notMap
  else .ok ((Ordered.ofList (m.map fun p => (key p.1, p.2))).map fun p => (p.1, .default p.1 p.2))

theorem ofPairs_flags (flags : Ordered Data Bool) :
    Selections.ofPairs (flags.map fun p => (p.1, Choice.toData ⟨p.2, none, none⟩)) =
      .ok (flags.map fun p => (p.1, .default p.1 p.2)) := by
  induction flags with
  | nil => rfl
  | cons p flags ih =>
    have hread : Selection.ofData p.1 (Choice.toData ⟨p.2, none, none⟩) = .ok (.default p.1 p.2) :=
      Selection.ofData_toData p.1 (.default .null p.2)
    rw [List.map_cons, Selections.ofPairs, hread, ih]
    rfl

theorem ofDocument_fields (now : String) (m : List (String × Bool)) :
    Selections.ofDocument (.object (fields now m)) = loaded m := by
  have hget : Ordered.get? (keyed (fields now m)) (.str "selections") = some (content m) := by
    rw [Ordered.get?_keyed]
    rfl
  rw [show Data.object (fields now m) = .map (keyed (fields now m)) from rfl, Selections.ofDocument,
    hget, content, loaded]
  cases m with
  | nil => rfl
  | cons p m =>
    have hmap : pairs (p :: m) =
        ((p :: m).map fun p => (key p.1, p.2)).map fun p =>
          (p.1, Choice.toData ⟨p.2, none, none⟩) := by
      rw [pairs, List.map_map]
      rfl
    show Selections.ofPairs (Ordered.ofList (pairs (p :: m))) = _
    rw [hmap, Ordered.ofList_map fun b => Choice.toData ⟨b, none, none⟩, ofPairs_flags]
    rfl

theorem loaded_eq (hne : m ≠ []) (hkeys : (m.map (·.1)).Nodup)
    (h : ∀ p ∈ m, numeral? p.1.toList = none) :
    loaded m = .ok (m.map fun p => (.str p.1, .default (.str p.1) p.2)) := by
  have htexts : (m.map fun p => (key p.1, p.2)) = keyed m :=
    List.map_congr_left fun p hp => by rw [key_of_numeral (h p hp)]
  rw [loaded, List.isEmpty_eq_false_iff.mpr hne, if_neg (by decide), htexts, Ordered.ofList_keyed,
    Ordered.ofList_eq_self hkeys, keyed, List.map_map]
  rfl

theorem numeral_of_loaded {s : Selections} (h : loaded m = .ok s)
    (htexts : ∀ k ∈ s.map (·.1), ∃ t, k = .str t) :
    m ≠ [] ∧ ∀ p ∈ m, numeral? p.1.toList = none := by
  unfold loaded at h
  split at h
  · cases h
  · rename_i hne
    refine ⟨fun e => hne (by rw [e]; rfl), fun p hp => ?_⟩
    cases hn : numeral? p.1.toList with
    | none => rfl
    | some n =>
      have hkey : key p.1 = .int n := by rw [key, hn]
      have hmem : Data.int n ∈ (m.map fun p => (key p.1, p.2)).map (·.1) := by
        rw [List.map_map, List.mem_map]
        exact ⟨p, hp, hkey⟩
      obtain ⟨k, hk, hequal⟩ := Ordered.exists_key_overlay (beq_int n) hmem []
      have hloaded : k ∈ s.map (·.1) := by
        rw [← Except.ok.inj h, List.map_map]
        exact hk
      obtain ⟨t, rfl⟩ := htexts k hloaded
      cases (str_beq_int t n).symm.trans hequal

end Export

theorem Store.load_export {s : Store} {d : Disk} {now : String} {m : List (String × Bool)}
    (hnow : Export.IsStamp now) (hids : ∀ p ∈ m, IsId p.1)
    (hfile : d.read s.selectionsFile = .ok (.text (Export.text now m))) :
    s.load.run d = (Export.loaded m, d) := by
  obtain ⟨q, hq, hnode⟩ := Disk.read_cases hfile
  obtain ⟨hclean, hparse⟩ := Export.parse_text hnow hids
  rw [load_of_text hq hnode hclean.unifyNewlines_eq hparse rfl, Export.ofDocument_fields]

/-- What a page exports is loaded as it was chosen exactly if something was chosen and no id looks
like a number.  An id that does is loaded as the number, and an export without choices is not
loaded. -/
theorem exported_choices_load_iff {s : Store} {d : Disk} {now : String} {m : List (String × Bool)}
    (hnow : Export.IsStamp now) (hids : ∀ p ∈ m, IsId p.1) (hkeys : (m.map (·.1)).Nodup)
    (hfile : d.read s.selectionsFile = .ok (.text (Export.text now m))) :
    s.load.run d = (Export.loaded m, d) ∧
      ((∃ loaded, s.load.run d = (.ok loaded, d) ∧
          loaded.Perm (m.map fun p => (.str p.1, .default (.str p.1) p.2))) ↔
        m ≠ [] ∧ ∀ p ∈ m, numeral? p.1.toList = none) := by
  have hload := s.load_export hnow hids hfile
  refine ⟨hload, ?_⟩
  rw [hload]
  constructor
  · rintro ⟨loaded, hloaded, hperm⟩
    refine Export.numeral_of_loaded (Prod.mk.inj hloaded).1 fun k hk => ?_
    rw [(hperm.map _).mem_iff, List.map_map] at hk
    obtain ⟨p, _, rfl⟩ := List.mem_map.mp hk
    exact ⟨p.1, rfl⟩
  · rintro ⟨hne, htexts⟩
    exact ⟨_, by rw [Export.loaded_eq hne hkeys htexts], .refl _⟩

def exportDisk (m : List (String × Bool)) : Disk :=
  ⟨"/home/notes", [(["notes"], .folder), (["notes", ".docuagent"], .folder),
    (["notes", ".docuagent", "selections.yaml"],
      .file (.text (Export.text "2024-05-01T12:00:00.000Z" m)))]⟩

theorem read_exportDisk (m : List (String × Bool)) : (exportDisk m).read notesStore.selectionsFile =
    .ok (.text (Export.text "2024-05-01T12:00:00.000Z" m)) := rfl

def nearNumbers : List (String × Bool) :=
  [("0b0101010102", true), ("000000000008", false), ("12345678901e", true)]

theorem nearNumbers_load : (∀ p ∈ nearNumbers, IsId p.1) ∧
    ∃ loaded, notesStore.load.run (exportDisk nearNumbers) = (.ok loaded, exportDisk nearNumbers) ∧
      loaded.Perm (nearNumbers.map fun p => (.str p.1, .default (.str p.1) p.2)) := by
  have hids : ∀ p ∈ nearNumbers, IsId p.1 := by decide
  exact ⟨hids, (exported_choices_load_iff (by decide) hids (by decide)
    (read_exportDisk nearNumbers)).2.mpr
    ⟨by decide, by decide⟩⟩

/-- An id of decimal digits is loaded as a number, and from an export without choices nothing is
loaded. -/
theorem digits_export_astray :
    notesStore.load.run (exportDisk [("123456789012", true)]) =
      (.ok [(.int 123456789012, .default (.int 123456789012) true)],
        exportDisk [("123456789012", true)]) ∧
    notesStore.load.run (exportDisk []) = (.error .notMap, exportDisk []) :=
  ⟨Store.load_export (by decide) (by decide) (read_exportDisk _),
    Store.load_export (by decide) (by decide) (read_exportDisk _)⟩

end Apidoc
