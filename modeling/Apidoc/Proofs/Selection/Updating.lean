import Apidoc.Proofs.Selection.Dictionary

/-!
# Changing one choice in a stored document

A choice is changed by reading the whole document and writing it anew.  All other choices come
through this, but metadata does not: it is not among what is read.

* `Dictionary.Named`             choices under any names;
* `Store.OnlyChanges`            two documents that differ in the time and in the choice for one id
                                 at most;
* `Store.Usable.update`          what a store holds after a choice was changed;
* `update_keeps_document_iff`    the document is kept but for the choice exactly if it had no
                                 metadata.
-/

namespace Apidoc

open Ordered (keyed)

namespace Dictionary

variable {m : Dictionary} {id : String} {c : Choice}

/-- Every id can be a key of a document, and no id comes twice. -/
structure Named (m : Dictionary) : Prop where
  names : ∀ p ∈ m, Yaml.FitsKey p.1
  distinct : (m.map (·.1)).Nodup

theorem Named.put (h : m.Named) (hid : Yaml.FitsKey id) (c : Choice) : (m.put id c).Named := by
  have hnames : ∀ k ∈ m.map (·.1), Yaml.FitsKey k := by
    intro k hk
    obtain ⟨p, hp, rfl⟩ := List.mem_map.mp hk
    exact h.names p hp
  exact ⟨fun p hp => forall_put hnames hid c p.1 (List.mem_map_of_mem hp),
    nodup_put h.distinct id c⟩

theorem lookup_put_self (h : (m.map (·.1)).Nodup) : (m.put id c).lookup id = some c := by
  rw [← set_eq_put h, ← Ordered.get?_eq_lookup]
  exact Ordered.get?_set_self (beq_self_eq_true id) m c

theorem lookup_put_of_ne (h : (m.map (·.1)).Nodup) {k : String} (hk : k ≠ id) :
    (m.put id c).lookup k = m.lookup k := by
  rw [← set_eq_put h, ← Ordered.get?_eq_lookup, ← Ordered.get?_eq_lookup]
  exact Ordered.get?_set_of_ne (fun _ => eq_of_beq) (fun he => hk (eq_of_beq he).symm) m c

theorem map_put_append (m : Dictionary) (id : String) (c : Choice) :
    m.map (·.1) <+: (m.put id c).map (·.1) := by
  rw [map_put]
  split
  · exact List.prefix_rfl
  · exact List.prefix_append _ _

end Dictionary

namespace Store

/-! ## documents -/

def selectionsIn (fields : List (String × Data)) : List (Data × Data) :=
  match Ordered.get? fields "selections" with
  | some (.map pairs) => pairs
  | _ => []

/-- The second document differs from the first in the time and in the selection of one id at most,
which stands behind the others if it is new. -/
structure OnlyChanges (id : String) (old new : List (String × Data)) : Prop where
  names : new.map (·.1) = old.map (·.1)
  fields : ∀ k, k ≠ "updated_at" → k ≠ "selections" → Ordered.get? new k = Ordered.get? old k
  ids : (selectionsIn old).map (·.1) <+: (selectionsIn new).map (·.1)
  selections : ∀ k, k ≠ id → Ordered.get? (selectionsIn new) (.str k) =
    Ordered.get? (selectionsIn old) (.str k)

variable {now later id : String} {info info' : Data} {m : Dictionary} {c : Choice}

theorem selectionsIn_written (now : String) (info : Data) (m : Dictionary) :
    selectionsIn (written now info m) = keyed m.fields := rfl

theorem get?_selectionsIn (now : String) (info : Data) (m : Dictionary) (k : String) :
    Ordered.get? (selectionsIn (written now info m)) (.str k) = (m.lookup k).map Choice.toData := by
  rw [selectionsIn_written, Ordered.get?_keyed, Dictionary.fields, ← Ordered.get?_eq_lookup]
  exact Ordered.get?_map Choice.toData m k

theorem ids_selectionsIn (now : String) (info : Data) (m : Dictionary) :
    (selectionsIn (written now info m)).map (·.1) = (m.map (·.1)).map .str := by
  rw [selectionsIn_written, keyed, List.map_map, ← m.keys_fields, List.map_map]
  rfl

/-- A document with a choice more or another choice keeps the rest if it keeps the metadata. -/
theorem onlyChanges_put_iff (hm : (m.map (·.1)).Nodup) :
    OnlyChanges id (written now info m) (written later info' (m.put id c)) ↔ info' = info := by
  constructor
  · intro h
    exact Option.some.inj (h.fields "metadata" (by decide) (by decide))
  · rintro rfl
    refine ⟨rfl, fun k htime hselections => ?_, ?_, fun k hk => ?_⟩
    · have htime : ¬ ("updated_at" == k) = true := fun he => htime (eq_of_beq he).symm
      have hselections : ¬ ("selections" == k) = true := fun he => hselections (eq_of_beq he).symm
      simp only [written, Ordered.get?_cons, if_neg htime, if_neg hselections]
    · rw [ids_selectionsIn, ids_selectionsIn]
      exact (Dictionary.map_put_append m id c).map _
    · rw [get?_selectionsIn, get?_selectionsIn, Dictionary.lookup_put_of_ne hm hk]

/-! ## the store -/

variable {s : Store} {d : Disk}

/-- A choice is changed in the choices that are loaded; what is stored then has no metadata. -/
theorem Usable.update (h : s.Usable d) (hm : m.Named) (hload : s.load.run d = (.ok m.selections, d))
    (hid : Yaml.FitsKey id) (included : Option Bool) (title description : Option String) :
    ∃ d', (s.update id (included.map .bool) (title.map .str) (description.map .str)).run d =
        (.ok ((Dictionary.amend (m.choice true id) included title description).selection id), d') ∧
      s.stored.run d' = (.ok (.object (written s.now (.map [])
        (m.put id (Dictionary.amend (m.choice true id) included title description)))), d') := by
  have hput := hm.put hid (Dictionary.amend (m.choice true id) included title description)
  obtain ⟨d', hsave, _, hstored, _⟩ := h.save_written .null
    (reads_written fits_empty hput.names hput.distinct s.now)
  exact ⟨d', update_of_save hload hm.distinct id included title description hsave, hstored⟩

end Store

/-- **What changing a choice leaves in the document.** Whatever choices and metadata were saved, the
choice is changed, and all other choices stay as they are and where they are.  The rest of the
document but for its time is kept exactly if no metadata was saved: a document that was saved with
metadata has none afterwards. -/
theorem update_keeps_document_iff {s : Store} {d : Disk} (h : s.Usable d) {m : Dictionary}
    (hm : m.Named) (metadata : Data)
    (hreads : Store.Reads (Store.written s.now (if metadata.isTrue then metadata else .map []) m))
    (id : String) (hid : Yaml.FitsKey id) (included : Option Bool)
    (title description : Option String) (later : String) :
    let c := Dictionary.amend (m.choice true id) included title description
    ∃ d₁ d₂ before after,
      (s.save m.selections metadata).run d = (.ok (), d₁) ∧
      s.stored.run d₁ = (.ok (.object before), d₁) ∧
      (({ s with now := later } : Store).update id (included.map .bool) (title.map .str)
        (description.map .str)).run d₁ =
        (.ok (c.selection id), d₂) ∧
      s.stored.run d₂ = (.ok (.object after), d₂) ∧
      before = Store.written s.now (if metadata.isTrue then metadata else .map []) m ∧
      after = Store.written later (.map []) (m.put id c) ∧
      Ordered.get? (Store.selectionsIn after) (.str id) = some (c.selection id).toData ∧
      Store.OnlyChanges id (Store.written s.now (.map []) m) after ∧
      (Store.OnlyChanges id before after ↔ metadata.isTrue = false) := by
  intro c
  obtain ⟨d₁, hsave, husable, hbefore, hload⟩ := h.save_written metadata hreads
  obtain ⟨d₂, hupdate, hafter⟩ :=
    (husable.at later).update hm (hload later) hid included title description
  refine ⟨d₁, d₂, _, _, hsave, hbefore, hupdate, hafter, rfl, rfl, ?_, ?_, ?_⟩
  · rw [Store.get?_selectionsIn, Dictionary.lookup_put_self hm.distinct]
    rfl
  · exact (Store.onlyChanges_put_iff hm.distinct).mpr rfl
  · rw [Store.onlyChanges_put_iff hm.distinct]
    split
    · next htrue =>
      refine ⟨fun he => ?_, fun hfalse => absurd htrue (by rw [hfalse]; decide)⟩
      rw [← he]
      rfl
    · next hfalse => exact ⟨fun _ => Bool.eq_false_iff.mpr hfalse, fun _ => rfl⟩

def teamMetadata : Data :=
  .object [("team", .str "docs"), ("release",
    .object [("stable", .bool true), ("parts", .list [.int (-2), .str "core"])])]

theorem fits_teamMetadata : Yaml.Fits 0 teamMetadata := by
  have hnames : ∀ k ∈ ["team", "release", "stable", "parts"], Yaml.IsName k := by decide
  have hparts : Yaml.Fits 4 (.list [.int (-2), .str "core"]) := by
    refine .list ?_
    simp only [List.forall_mem_cons, List.not_mem_nil, false_implies, implies_true, and_true]
    exact ⟨.int (by decide) (by decide), .str (by decide) _⟩
  have hrelease : Yaml.Fits 2 (.object
      [("stable", .bool true), ("parts", .list [.int (-2), .str "core"])]) := by
    refine .object (fun _ => by decide) ?_ (by decide) ?_
    · simp only [List.forall_mem_cons, List.not_mem_nil, false_implies, implies_true, and_true]
      exact ⟨(hnames _ (by decide)).fitsKey, (hnames _ (by decide)).fitsKey⟩
    · simp only [List.forall_mem_cons, List.not_mem_nil, false_implies, implies_true, and_true]
      exact ⟨.bool (by decide) _, hparts⟩
  refine .object (fun _ => by decide) ?_ (by decide) ?_
  · simp only [List.forall_mem_cons, List.not_mem_nil, false_implies, implies_true, and_true]
    exact ⟨(hnames _ (by decide)).fitsKey, (hnames _ (by decide)).fitsKey⟩
  · simp only [List.forall_mem_cons, List.not_mem_nil, false_implies, implies_true, and_true]
    exact ⟨.str (by decide) _, hrelease⟩

theorem named_trickyChoices : trickyChoices.pairs.Named :=
  ⟨fun p hp => (trickyChoices.proper.ids p hp).isName.fitsKey, trickyChoices.proper.distinct⟩

theorem reads_teamMetadata (now : String) :
    Store.Reads (Store.written now teamMetadata trickyChoices.pairs) :=
  Store.reads_written fits_teamMetadata named_trickyChoices.names named_trickyChoices.distinct now

/-- A choice that is there is changed, with metadata in the document. -/
theorem trickyChoices_updated : notesStore.Usable notesDisk ∧ trickyChoices.pairs.Named ∧
    Store.Reads (Store.written notesStore.now teamMetadata trickyChoices.pairs) ∧
    Yaml.FitsKey "0b0101010101" ∧
    ∃ d₁ d₂ before after,
      (notesStore.save trickyChoices.selections teamMetadata).run notesDisk = (.ok (), d₁) ∧
      notesStore.stored.run d₁ = (.ok (.object before), d₁) ∧
      ((⟨notesStore.folder, "2024-05-02T08:00:00"⟩ : Store).update "0b0101010101"
        (some (.bool true)) none none).run d₁ =
        (.ok ⟨.str "0b0101010101", .bool true, .str "2020-01-01",
          .str "key: value # note\n\n  it's late\n"⟩, d₂) ∧
      notesStore.stored.run d₂ = (.ok (.object after), d₂) ∧
      Store.OnlyChanges "0b0101010101"
        (Store.written notesStore.now (.map []) trickyChoices.pairs) after ∧
      (Store.OnlyChanges "0b0101010101" before after ↔ teamMetadata.isTrue = false) := by
  have hid : Yaml.FitsKey "0b0101010101" := by decide
  refine ⟨notesStore_usable, named_trickyChoices, reads_teamMetadata _, hid, ?_⟩
  obtain ⟨d₁, d₂, before, after, hsave, hbefore, hupdate, hafter, _, _, _, hkept, hiff⟩ :=
    update_keeps_document_iff notesStore_usable named_trickyChoices teamMetadata
      (reads_teamMetadata _) _ hid
      (some true) none none "2024-05-02T08:00:00"
  exact ⟨d₁, d₂, before, after, hsave, hbefore, hupdate, hafter, hkept, hiff⟩

/-- Choosing again for one entry takes away the metadata that was saved with the choices. -/
theorem teamMetadata_lost :
    ∃ d₁ d₂ before after,
      (notesStore.save trickyChoices.selections teamMetadata).run notesDisk = (.ok (), d₁) ∧
      notesStore.stored.run d₁ = (.ok (.object before), d₁) ∧
      (notesStore.update "0b0101010101" (some (.bool true)) none none).run d₁ =
        (.ok ⟨.str "0b0101010101", .bool true, .str "2020-01-01",
          .str "key: value # note\n\n  it's late\n"⟩, d₂) ∧
      notesStore.stored.run d₂ = (.ok (.object after), d₂) ∧
      Ordered.get? before "metadata" = some teamMetadata ∧ Ordered.get? after "metadata" =
        some (.map []) ∧
      ¬ Store.OnlyChanges "0b0101010101" before after := by
  obtain ⟨d₁, hsave, husable, hbefore, hload⟩ :=
    notesStore_usable.save_written teamMetadata (reads_teamMetadata _)
  have hid : Yaml.FitsKey "0b0101010101" := by decide
  obtain ⟨d₂, hupdate, hafter⟩ :=
    husable.update named_trickyChoices (hload _) hid (some true) none none
  refine ⟨d₁, d₂, _, _, hsave, hbefore, hupdate, hafter, rfl, rfl, fun hkept => ?_⟩
  have hmetadata := hkept.fields "metadata" (by decide) (by decide)
  cases hmetadata

end Apidoc
