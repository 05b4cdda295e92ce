import Apidoc.Proofs.Data.Yaml.Overlong
import Apidoc.Proofs.Selection.Restarting
import Apidoc.Proofs.Selection.Updating

/-!
# Starting a store from a table of contents

A start keeps the choices for the entries of a table of contents, whatever their ids are, and adds
new ones.  Whether the next start finds them depends on how the ids are written.

* `Dictionary.tabulate`         choices for ids, one after the other;
* `Store.Recalls`               the choices can be loaded from the store, and `Store.Loses`, nothing
                                can;
* `Store.Usable.save_recalls`   what is saved can be loaded if every id can be read as a key, and is
                                lost otherwise;
* `start_merges`                a start, the next one, and a change between the two.
-/

namespace Apidoc

open Ordered (keyed)

namespace Dictionary

def tabulate (ids : List String) (f : String → Choice) : Dictionary := ids.map fun id => (id, f id)

variable {ids : List String} {f : String → Choice}

theorem keys_tabulate (ids : List String) (f : String → Choice) :
    (tabulate ids f).map (·.1) = ids := by
  rw [tabulate, List.map_map]
  exact List.map_id ids

theorem put_tabulate {id : String} (hid : id ∈ ids) (c : Choice) :
    (tabulate ids f).put id c = tabulate ids fun k => if k = id then c else f k := by
  rw [put, if_pos (by rwa [keys_tabulate]), tabulate, tabulate, List.map_map]
  refine List.map_congr_left fun k _ => ?_
  show (if k = id then (id, c) else (k, f k)) = (k, if k = id then c else f k)
  split
  · next hk => rw [hk]
  · rfl

theorem tabulate_choice (ids : List String) (f : String → Choice) (included : Bool) :
    tabulate ids ((tabulate ids f).choice included) = tabulate ids f :=
  List.map_congr_left fun id hid => by rw [tabulate, choice_map included f hid]

end Dictionary

namespace Store

variable {s : Store} {d : Disk} {m : Dictionary}

/-! ## documents -/

/-- The document of choices is not read back if one of the ids is written too long for a key. -/
theorem malformed_written {info : Data} (hinfo : Yaml.Fits 0 info)
    (hlong : ∃ p ∈ m, ¬ Yaml.FitsKey p.1) (now : String) :
    Text.unifyNewlines (Yaml.document (keyed (written now info m))).toList =
        (Yaml.document (keyed (written now info m))).toList ∧
      Yaml.parse (Yaml.document (keyed (written now info m))) = .error .malformed := by
  have hnames : ∀ k ∈ ["version", "updated_at", "metadata", "selections"], Yaml.IsName k := by
    decide
  have hchoices : ∀ f ∈ m.fields, Yaml.Fits 2 f.2 := by
    intro f hf
    obtain ⟨p, _, rfl⟩ := List.mem_map.mp hf
    exact p.2.fits (by decide)
  let before : List (String × Data) :=
    [("version", .str "1.0"), ("updated_at", .str now), ("metadata", info)]
  have hfields : written now info m = before ++ [("selections", .object m.fields)] := rfl
  have hbefore : ∀ f ∈ before, Yaml.FitsKey f.1 ∧ Yaml.Fits 0 f.2 := by
    simp only [before, List.forall_mem_cons, List.not_mem_nil, false_implies, implies_true,
      and_true]
    exact ⟨⟨(hnames _ (by decide)).fitsKey, .str (by decide) _⟩,
      ⟨(hnames _ (by decide)).fitsKey, .str (by decide) _⟩,
      (hnames _ (by decide)).fitsKey, hinfo⟩
  have hclean : ∀ f ∈ before ++ [("selections", Data.object m.fields)],
      Yaml.WrittenClean 0 f.2 := by
    intro f hf
    rcases List.mem_append.mp hf with hf | hf
    · exact ((hbefore f hf).2.reads 0 (Nat.le_refl 0)).writtenClean
    · rw [List.mem_singleton.mp hf]
      exact .object fun f hf => ((hchoices f hf).reads 2 (Nat.le_refl 2)).writtenClean
  have hsimple : Yaml.isSimpleKey (.str "selections") = true := by decide
  obtain ⟨p, hp, hlong⟩ := hlong
  rw [hfields]
  refine ⟨(Yaml.clean_document (List.cons_ne_nil _ _) hclean).unifyNewlines_eq, ?_⟩
  exact Yaml.parse_overlong hbefore hsimple (hnames _ (by decide)).fitsKey hchoices
    ⟨_, List.mem_map_of_mem hp, hlong⟩

theorem load_of_malformed {q : List String} {text : String} (hq : d.locate s.selectionsFile = .ok q)
    (hnode : d.node? q = some (.file (.text text)))
    (hclean : Text.unifyNewlines text.toList = text.toList)
    (hparse : Yaml.parse text = .error .malformed) :
    s.load.run d = (.error (.yaml .malformed), d) := by
  have hread := Action.run_readText_ok (Disk.read_eq hq hnode)
  rw [hclean, String.ofList_toList] at hread
  have hyaml : parseYaml text = .error (.yaml .malformed) := by rw [parseYaml, hparse]; rfl
  rw [load, Run.bind_ok (Action.run_exists_ok hq), hnode]
  show (Action.readText s.selectionsFile >>= fun text => Action.lift (parseYaml text) >>= _).run d =
    _
  rw [Run.bind_ok hread, hyaml]
  exact Run.bind_error (Action.run_lift_eq _ d) _

/-! ## keeping and losing choices -/

/-- The store can be used, and the choices are what is loaded from it. -/
structure Recalls (s : Store) (d : Disk) (m : Dictionary) : Prop where
  usable : s.Usable d
  loads : s.load.run d = (.ok m.selections, d)

/-- What is in the store cannot be loaded. -/
def Loses (s : Store) (d : Disk) : Prop := s.load.run d = (.error (.yaml .malformed), d)

theorem Recalls.at (h : s.Recalls d m) (now : String) : ({ s with now } : Store).Recalls d m :=
  ⟨h.usable.at now, h.loads⟩

/-- What is saved can be loaded if every id can be read as a key, and is lost otherwise. -/
theorem Usable.save_recalls (h : s.Usable d) (hm : (m.map (·.1)).Nodup) :
    ∃ d', (s.save m.selections .null).run d = (.ok (), d') ∧
      ((∀ p ∈ m, Yaml.FitsKey p.1) → s.Recalls d' m) ∧
      ((∃ p ∈ m, ¬ Yaml.FitsKey p.1) → s.Loses d') := by
  obtain ⟨d', q, hrun, husable, hq, hnode⟩ := h.save_text m .null
  refine ⟨d', hrun, fun hfits => ⟨husable, ?_⟩, fun hlong => ?_⟩
  · obtain ⟨hclean, hparse⟩ := reads_written fits_empty hfits hm s.now
    exact load_of_document hq hnode hclean hparse rfl
  · obtain ⟨hclean, hparse⟩ := malformed_written fits_empty hlong s.now
    exact load_of_malformed hq hnode hclean hparse

theorem Recalls.start (h : s.Recalls d m) (entries : List Entry) (included : Bool) :
    ∃ d', (s.start entries included).run d =
        (.ok (Dictionary.tabulate (Dictionary.contentIds entries) (m.choice included)).selections,
          d') ∧
      ((∀ id ∈ Dictionary.contentIds entries, Yaml.FitsKey id) →
        s.Recalls d' (Dictionary.tabulate (Dictionary.contentIds entries) (m.choice included))) ∧
      ((∃ id ∈ Dictionary.contentIds entries, ¬ Yaml.FitsKey id) → s.Loses d') := by
  have hkeys : ((Dictionary.tabulate (Dictionary.contentIds entries) (m.choice included)).map
      (·.1)).Nodup := by
    rw [Dictionary.keys_tabulate]
    exact Ordered.nodup_eraseDups _
  obtain ⟨d', hsave, hrecalls, hloses⟩ := h.usable.save_recalls hkeys
  refine ⟨d', start_of_save h.loads entries included hsave, fun hfits => hrecalls ?_,
    fun hlong => hloses ?_⟩
  · exact List.forall_mem_map.mpr hfits
  · obtain ⟨id, hid, hlong⟩ := hlong
    exact ⟨_, List.mem_map_of_mem hid, hlong⟩

theorem Recalls.start_again {entries : List Entry} {f : String → Choice}
    (h : s.Recalls d (Dictionary.tabulate (Dictionary.contentIds entries) f)) (included : Bool) :
    ∃ d', (s.start entries included).run d =
      (.ok (Dictionary.tabulate (Dictionary.contentIds entries) f).selections, d') := by
  obtain ⟨d', hrun, _⟩ := h.start entries included
  rw [Dictionary.tabulate_choice] at hrun
  exact ⟨d', hrun⟩

theorem Recalls.update (h : s.Recalls d m) (hm : m.Named) {id : String} (hid : Yaml.FitsKey id)
    (included : Option Bool) (title description : Option String) :
    ∃ d', (s.update id (included.map .bool) (title.map .str) (description.map .str)).run d =
        (.ok ((Dictionary.amend (m.choice true id) included title description).selection id), d') ∧
      s.Recalls d' (m.put id (Dictionary.amend (m.choice true id) included title description)) := by
  have hput := hm.put hid (Dictionary.amend (m.choice true id) included title description)
  obtain ⟨d', hsave, hrecalls, _⟩ := h.usable.save_recalls hput.distinct
  exact ⟨d', update_of_save h.loads hm.distinct id included title description hsave,
    hrecalls hput.names⟩

end Store

/-- **A start keeps the choices for its entries.** It answers with a choice for each id of the table
of contents, in the order in which the ids come first: the one that was stored, or a new one.  If
every id can be read as a key, these choices are stored, the next start answers the same whatever it
would choose for new entries, and a choice that is changed in between stays changed.  If one cannot,
there is no way back to them: loading, changing and the next start fail. -/
theorem start_merges {s : Store} {d : Disk} (hs : s.Usable d) {m : Dictionary}
    (hm : s.load.run d = (.ok m.selections, d)) (entries : List Entry) (included : Bool) :
    let ids := ((Entry.flatten entries).map (·.id)).eraseDups
    let new := Dictionary.tabulate ids (m.choice included)
    ∃ d', (s.start entries included).run d = (.ok new.selections, d') ∧
      ((∀ id ∈ ids, Yaml.FitsKey id) →
        s.load.run d' = (.ok new.selections, d') ∧
        (∀ (later : String) (included' : Bool), ∃ d₁,
          (({ s with now := later } : Store).start entries included').run d' =
            (.ok new.selections, d₁)) ∧
        ∀ id ∈ ids, ∀ (flag : Option Bool) (title description : Option String) (soon later : String)
          (included' : Bool), ∃ d₁ d₂,
          let c := Dictionary.amend (m.choice included id) flag title description
          (({ s with now := soon } : Store).update id (flag.map .bool) (title.map .str)
            (description.map .str)).run d' =
            (.ok (c.selection id), d₁) ∧
          (({ s with now := later } : Store).start entries included').run d₁ =
            (.ok (Dictionary.tabulate ids fun k => if k =
              id then c else m.choice included k).selections, d₂)) ∧
      ((∃ id ∈ ids, ¬ Yaml.FitsKey id) →
        s.load.run d' = (.error (.yaml .malformed), d') ∧
        (∀ (later : String) (included' : Bool),
          (({ s with now := later } : Store).start entries included').run d' =
            (.error (.yaml .malformed), d')) ∧
        ∀ (id : String) (flag title description : Option Data) (soon : String),
          (({ s with now := soon } : Store).update id flag title description).run d' =
            (.error (.yaml .malformed), d')) := by
  intro ids new
  have hkeys : new.map (·.1) = ids := Dictionary.keys_tabulate _ _
  obtain ⟨d', hrun, hrecalls, hloses⟩ := (Store.Recalls.mk hs hm).start entries included
  refine ⟨d', hrun, fun hfits => ?_, fun hlong => ?_⟩
  · have hnew : s.Recalls d' new := hrecalls hfits
    have hnamed : new.Named := ⟨List.forall_mem_map.mpr hfits, hkeys ▸ Ordered.nodup_eraseDups _⟩
    refine ⟨hnew.loads, fun later included' => (hnew.at later).start_again included', ?_⟩
    intro id hid flag title description soon later included'
    obtain ⟨d₁, hupdate, hchanged⟩ :=
      (hnew.at soon).update hnamed (hfits id hid) flag title description
    rw [show new.choice true id =
      m.choice included id from Dictionary.choice_map true _ hid] at hupdate hchanged
    rw [Dictionary.put_tabulate hid] at hchanged
    obtain ⟨d₂, hagain⟩ := (hchanged.at later).start_again included'
    exact ⟨d₁, d₂, hupdate, hagain⟩
  · have hlost : s.Loses d' := hloses hlong
    exact ⟨hlost, fun _ _ => Run.bind_error hlost _, fun _ _ _ _ _ => Run.bind_error hlost _⟩

/-- contents in which an id comes twice, and one that is written with an escape -/
def snowContents : List Entry :=
  [.mk (notesHeading "0b0101010101") [.mk (notesHeading "☃") []],
    .mk (notesHeading "0b0101010101") []]

/-- One choice was stored and one is new; the new one is changed before the next start. -/
theorem snowContents_merged :
    ∃ d, notesStore.Usable d ∧ notesStore.load.run d = (.ok trickyChoices.selections, d) ∧
    (∀ id ∈ ((Entry.flatten snowContents).map (·.id)).eraseDups, Yaml.FitsKey id) ∧
    ∃ d' d₁ d₂,
      (notesStore.start snowContents false).run d =
        (.ok [(.str "0b0101010101",
            ⟨.str "0b0101010101", .bool false, .str "2020-01-01",
              .str "key: value # note\n\n  it's late\n"⟩),
          (.str "☃", ⟨.str "☃", .bool false, .null, .null⟩)], d') ∧
      ((⟨notesStore.folder, "13:00"⟩ : Store).update "☃" none (some (.str "Snow")) none).run d' =
        (.ok ⟨.str "☃", .bool false, .str "Snow", .null⟩, d₁) ∧
      ((⟨notesStore.folder, "14:00"⟩ : Store).start snowContents true).run d₁ =
        (.ok [(.str "0b0101010101",
            ⟨.str "0b0101010101", .bool false, .str "2020-01-01",
              .str "key: value # note\n\n  it's late\n"⟩),
          (.str "☃", ⟨.str "☃", .bool false, .str "Snow", .null⟩)], d₂) := by
  obtain ⟨d, _, hrecalls, _⟩ := notesStore_usable.save_recalls named_trickyChoices.distinct
  have hstored := hrecalls named_trickyChoices.names
  have hfits : ∀ id ∈ ((Entry.flatten snowContents).map (·.id)).eraseDups, Yaml.FitsKey id := by
    decide
  obtain ⟨d', hrun, hfit, _⟩ := start_merges hstored.usable hstored.loads snowContents false
  obtain ⟨_, _, hchange⟩ := hfit hfits
  obtain ⟨d₁, d₂, hupdate, hagain⟩ :=
    hchange "☃" (by decide) none (some "Snow") none "13:00" "14:00" true
  exact ⟨d, hstored.usable, hstored.loads, hfits, d', d₁, d₂, hrun, hupdate, hagain⟩

/-- an id of few characters that are written long -/
def longId : String := String.ofList (List.replicate 110 '😀')

theorem not_fitsKey_longId : ¬ Yaml.FitsKey longId := by
  have hlist : longId.toList = List.replicate 110 '😀' := String.toList_ofList
  have hlength : longId.length = 110 := by rw [← String.length_toList, hlist, List.length_replicate]
  have hsimple : Yaml.isSimpleKey (.str longId) = true := by
    have hne : longId ≠ "" := by
      intro hempty
      rw [hempty] at hlength
      cases hlength
    have hline : longId.toList.any Yaml.isLineEnd = false := by
      rw [List.any_eq_false, hlist]
      intro c hc
      rw [List.eq_of_mem_replicate hc]
      decide
    rw [Yaml.isSimpleKey, hlength, hline, bne_iff_ne.mpr hne]
    rfl
  have hlong : 1024 < (Yaml.stringText none 0 (List.replicate 110 '😀')).length := by decide +kernel
  intro hfits
  exact absurd (hlist ▸ hfits hsimple) (Nat.not_le_of_lt hlong)

/-- The choices that a start has stored under such an id stop the next one. -/
theorem longId_stops_start :
    ∃ d', (notesStore.start [.mk (notesHeading longId) []] true).run notesDisk =
      (.ok [(.str longId, ⟨.str longId, .bool true, .null, .null⟩)], d') ∧
    (notesStore.start [.mk (notesHeading longId) []] true).run d' =
      (.error (.yaml .malformed), d') := by
  have hempty : notesStore.Recalls notesDisk [] :=
    ⟨notesStore_usable, (Holds.of_none notesStore_usable rfl).loads _⟩
  obtain ⟨d', hrun, _, hloses⟩ := hempty.start [.mk (notesHeading longId) []] true
  have hlost : notesStore.Loses d' :=
    hloses ⟨longId, List.mem_eraseDups.mpr List.mem_cons_self, not_fitsKey_longId⟩
  exact ⟨d', hrun, Run.bind_error hlost _⟩

end Apidoc
