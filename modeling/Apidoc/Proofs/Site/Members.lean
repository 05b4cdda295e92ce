import Apidoc.Proofs.Page.Described
import Apidoc.Proofs.Site.Defaults

/-!
# Properties and class variables on pages

Each has an entry in the table of contents and so a selection, but a page asks for neither.

* `Member.Shown`                a page would be another one without the member;
* `Member.shown_iff`            class variables are shown, properties are not;
* `Store.start_names`           a store that starts from some entries has a selection for each;
* `Site.members_governed_iff`   the selections govern the members only where they agree with what is
                                shown anyway.
-/

namespace Apidoc

open Markup

/-! ## members -/

/-- the kinds of members of a class, other than methods -/
inductive MemberKind where
  | property | classVariable
  deriving DecidableEq, Repr

namespace ClassDoc

def members (c : ClassDoc) : MemberKind → List PropertyDoc
  | .property => c.properties
  | .classVariable => c.classVariables

def without (c : ClassDoc) (p : PropertyDoc) : MemberKind → ClassDoc
  | .property => { c with properties := c.properties.erase p }
  | .classVariable => { c with classVariables := c.classVariables.erase p }

theorem id_without (c : ClassDoc) (p : PropertyDoc) (k : MemberKind) :
    (c.without p k).id = c.id := by
  cases k <;> rfl

theorem classLinks_without (s : SiteSettings) (c : ClassDoc) (p : PropertyDoc) (k : MemberKind) :
    classLinks s (c.without p k) = classLinks s c := by
  cases k <;> rfl

end ClassDoc

/-- a member of a class, and where it is found -/
structure Member where
  home : ModuleDoc
  owner : ClassDoc
  kind : MemberKind
  doc : PropertyDoc

namespace Member

variable {s : SiteSettings} {x : Member} {c : ClassDoc}

def trim (x : Member) (c : ClassDoc) : ClassDoc := if c = x.owner then c.without x.doc x.kind else c

def rest (x : Member) : ModuleDoc := { x.home with classes := x.home.classes.map x.trim }

/-- Without the member the page of the module would be another one. -/
def Shown (s : SiteSettings) (x : Member) : Prop :=
  (modulePage s x.rest).render ≠ (modulePage s x.home).render

/-! ## pages without a member -/

/-- What does not change with the members of a class is that of the class the member is taken from.
-/
theorem apply_trim {α : Type} {f : ClassDoc → α} (h : ∀ c p, f (c.without p x.kind) = f c)
    (c : ClassDoc) : f (x.trim c) = f c := by
  unfold trim
  split
  · exact h c x.doc
  · rfl

theorem filter_trim (s : SiteSettings) (x : Member) (cs : List ClassDoc) :
    (cs.map x.trim).filter (fun c => s.shows c.id) =
      (cs.filter fun c => s.shows c.id).map x.trim := by
  have hid (c : ClassDoc) : (x.trim c).id = c.id :=
    apply_trim (f := fun c => c.id) (fun c p => c.id_without p x.kind) c
  rw [List.filter_map]
  simp only [Function.comp_def, hid]

/-- The pages with and without a member differ in the sections of the classes at most. -/
theorem exists_page (s : SiteSettings) (x : Member) : ∃ before after,
    modulePage s x.home =
      before ++ each 8 (x.home.classes.filter fun c => s.shows c.id) (classSection s) ++
        gap 0 ++ after ++
        documentEnd "../" ∧
    modulePage s x.rest =
      before ++ each 8 (x.home.classes.filter fun c => s.shows c.id)
      (fun c => classSection s (x.trim c)) ++ gap 0 ++
        after ++ documentEnd "../" := by
  have hlinks (c : ClassDoc) : classLinks s (x.trim c) = classLinks s c :=
    apply_trim (fun c p => c.classLinks_without s p x.kind) c
  have hclasses : x.rest.classes = x.home.classes.map x.trim := rfl
  refine ⟨_, _, rfl, ?_⟩
  unfold modulePage
  simp only [hclasses, filter_trim, each_map, hlinks]
  rfl

theorem page_of_property (h : x.kind = .property) : modulePage s x.rest = modulePage s x.home := by
  obtain ⟨before, after, hhome, hrest⟩ := exists_page s x
  have hsection (c : ClassDoc) : classSection s (x.trim c) = classSection s c :=
    apply_trim (fun c p => by rw [h]; rfl) c
  simp only [hhome, hrest, hsection]

/-- A table has more marks than one with fewer rows, if there are as many in each row. -/
theorem length_table_lt {α : Type} (indent : Nat) {n : Nat} {cells : α → List Markup}
    (hcells : ∀ r, ((cells r).flatMap marks).length = n) {rows rows' : List α}
    (h : rows.length < rows'.length) :
    (table indent rows cells).marks.length < (table indent rows' cells).marks.length := by
  have hrow : 0 < (marksOf "<tr>").length := by decide
  have hlength (rows : List α) : (table indent rows cells).marks.length =
    (table indent [] cells).marks.length +
      rows.length * ((marksOf "<tr>").length + n + (marksOf "</tr>").length) := by
    have heach (r : α) : (marksOf "<tr>" ++ (cells r).flatMap marks ++ marksOf "</tr>").length =
        (marksOf "<tr>").length + n + (marksOf "</tr>").length := by
      rw [List.length_append, List.length_append, hcells]
    simp only [table, marks_append, marks_each, marks_line, marks_raw, marks_flatMap,
      List.length_append, List.length_flatMap (l := rows), heach, List.map_const',
      List.sum_replicate_nat, List.flatMap_nil, List.length_nil]
    omega
  rw [hlength rows, hlength rows']
  exact Nat.add_lt_add_left (Nat.mul_lt_mul_of_pos_right h (by omega)) _

/-- The table of class variables has a row for each of them, and is left out only if there are none.
-/
theorem length_variablesPart_lt {vs ws : List PropertyDoc} (h : vs.length < ws.length) :
    (variablesPart vs).marks.length < (variablesPart ws).marks.length := by
  have hframe : 0 < (marksOf "</div>").length := by decide
  have hws : ws.isEmpty = false :=
    List.isEmpty_eq_false_iff.mpr (List.ne_nil_of_length_pos (by omega))
  have hcells (v : PropertyDoc) : ([codeCell v.name, codeCell (orElseText v.hint "-"),
      codeCell (orElseText v.default "-")].flatMap marks).length = 24 := by
    simp only [List.flatMap_cons, codeCell, marks_append, marks_text, marks_raw]
    rfl
  have htable := length_table_lt 16 hcells h
  simp only [variablesPart, marks_optional, marks_append, marks_line, marks_raw, hws,
    List.length_append, Bool.not_false, cond_true]
  cases vs.isEmpty with
  | true =>
    simp only [Bool.not_true, cond_false, List.length_nil]
    omega
  | false =>
    simp only [Bool.not_false, cond_true, List.length_append]
    omega

/-- A section loses a row with a class variable, and nothing if the variable is that of another
class. -/
theorem exceeds_classSection_trim (hdoc : x.doc ∈ x.owner.classVariables)
    (hkind : x.kind = .classVariable) (c : ClassDoc) :
    Exceeds (c ≠ x.owner) (classSection s c) (classSection s (x.trim c)) := by
  unfold trim
  split
  · rename_i howner
    have hlength : (x.owner.classVariables.erase x.doc).length < x.owner.classVariables.length := by
      rw [List.length_erase_of_mem hdoc]
      exact Nat.sub_one_lt (List.length_pos_of_mem hdoc).ne'
    have hlt := length_variablesPart_lt hlength
    have hpart : Exceeds (c ≠ x.owner) (variablesPart x.owner.classVariables)
        (variablesPart (x.owner.classVariables.erase x.doc)) :=
      ⟨Nat.le_of_lt hlt, fun heq => absurd heq (Nat.ne_of_gt hlt)⟩
    rw [hkind, ClassDoc.without, howner]
    rw [howner] at hpart
    unfold classSection
    exact (((hpart.within _ _).followed _).followed _).followed _
  · exact (Exceeds.refl _).imp fun _ => ‹_›

theorem shown_iff (howner : x.owner ∈ x.home.classes) (hshows : s.shows x.owner.id = true)
    (hdoc : x.doc ∈ x.owner.members x.kind) : x.Shown s ↔ x.kind = .classVariable := by
  cases hkind : x.kind with
  | property => exact ⟨fun h => absurd (by rw [page_of_property hkind]) h, nofun⟩
  | classVariable =>
    refine iff_of_true (fun hrender => ?_) rfl
    obtain ⟨before, after, hhome, hrest⟩ := exists_page s x
    rw [hkind] at hdoc
    have hsections := Exceeds.each (fun c (_ : c ∈ x.home.classes.filter fun c => s.shows c.id) =>
      exceeds_classSection_trim (s := s) hdoc hkind c) 8
    have hpage := (((hsections.within before (gap 0)).followed after).followed (documentEnd "../"))
    rw [← hhome, ← hrest] at hpage
    refine hpage.only ?_ x.owner (List.mem_filter.mpr ⟨howner, hshows⟩) rfl
    rw [← marksOf_render, ← marksOf_render, hrender]

end Member

/-! ## selections of members -/

def Selection.flipped (sel : Selection) : Selection :=
  { sel with included := .bool !sel.isIncluded }

def Selections.flipped (sel : Selections) (flips : Data → Bool) : Selections :=
  sel.map fun p => (p.1, if flips p.1 then p.2.flipped else p.2)

theorem Selections.keys_flipped (sel : Selections) (flips : Data → Bool) :
    (sel.flipped flips).map (·.1) = sel.map (·.1) := by
  rw [flipped, List.map_map]
  rfl

theorem Selections.exists_of? {sel : Selections} {id : String}
    (h : ∃ l ∈ sel.map (·.1), (l == Data.str id) = true) :
    ∃ own, sel.of? id = some own ∧ sel.shows id = own.isIncluded := by
  obtain ⟨l, hl, hbeq⟩ := h
  obtain ⟨p, hp, rfl⟩ := List.mem_map.mp hl
  have hfound : (sel.find? fun p => p.1 == Data.str id).isSome :=
    List.find?_isSome.mpr ⟨p, hp, hbeq⟩
  obtain ⟨q, hq⟩ := Option.isSome_iff_exists.mp hfound
  have hown : sel.of? id = some q.2 := by rw [of?, Ordered.get?, hq, Option.map_some]
  have hne : sel.isEmpty = false := List.isEmpty_eq_false_iff.mpr (List.ne_nil_of_mem hp)
  exact ⟨q.2, hown, by rw [shows, names, hown, hne, Bool.false_or]⟩

theorem Store.start_names {store : Store} {entries : List Entry} {included : Bool} {d d' : Disk}
    {chosen : Selections} (h : (store.start entries included).run d = (.ok chosen, d')) {e : Entry}
    (he : e ∈ Entry.flatten entries) : ∃ l ∈ chosen.map (·.1), (l == Data.str e.id) = true := by
  obtain ⟨old, _, -, hrest⟩ := Run.ok_of_bind h
  obtain ⟨_, _, -, hpure⟩ := Run.ok_of_bind hrest
  cases hpure
  rw [Selections.addEntries_overlay]
  refine Ordered.exists_key_overlay (by rw [Data.str_beq, BEq.rfl]) ?_ []
  rw [List.map_map]
  exact List.mem_map_of_mem he

namespace Site

variable {site : Site} {x : Member}

/-- The member is one of a class that is shown on a page of the site. -/
structure HasMember (site : Site) (x : Member) : Prop where
  home : x.home ∈ site.modules
  homeShown : site.settings.shows x.home.id = true
  owner : x.owner ∈ x.home.classes
  ownerShown : site.settings.shows x.owner.id = true
  doc : x.doc ∈ x.owner.members x.kind

theorem HasMember.exists_entry (h : site.HasMember x) :
    ∃ e ∈ Entry.flatten (contents .full site.modules), e.id = x.doc.id := by
  have hmodule : moduleEntry .full x.home ∈ contents .full site.modules :=
    List.mem_map_of_mem h.home
  have hclass : classEntry .full x.home.id x.owner ∈ (moduleEntry .full x.home).children :=
    List.mem_append_left _ (List.mem_append_left _ (List.mem_map_of_mem h.owner))
  obtain ⟨e, he, hid⟩ : ∃ e ∈ (classEntry .full x.home.id x.owner).children, e.id = x.doc.id := by
    have hdoc := h.doc
    cases hkind : x.kind with
    | property =>
      rw [hkind] at hdoc
      exact ⟨_, List.mem_append_right _ (List.mem_append_left _ (List.mem_map_of_mem hdoc)), rfl⟩
    | classVariable =>
      rw [hkind] at hdoc
      exact ⟨_, List.mem_append_right _ (List.mem_append_right _ (List.mem_map_of_mem hdoc)), rfl⟩
  exact ⟨e, Entry.mem_flatten_of_child hmodule
    (Entry.mem_flatten_of_child hclass (Entry.mem_flatten_of_mem he)), hid⟩

/-- Let the selections be those a store starts with, some of them turned round.  Each property and
class variable has a selection of its own, but on the page of its module class variables are always
shown and properties never are.  So the selections govern the members exactly if all class variables
are included and all properties excluded. -/
theorem members_governed_iff {store : Store} {d d' : Disk} {chosen : Selections}
    {flips : Data → Bool} (hstart : (store.start (contents .full site.modules) true).run d =
      (.ok chosen, d'))
    (hselections : site.settings.selections = chosen.flipped flips) :
    (∀ x, site.HasMember x →
      (["modules", pageFile x.home.path], (modulePage site.settings x.home).render) ∈ site.files ∧
      (∃ own, site.settings.selections.of? x.doc.id = some own ∧ site.settings.shows x.doc.id =
        own.isIncluded) ∧
      (x.Shown site.settings ↔ x.kind = .classVariable)) ∧
    ((∀ x, site.HasMember x → (x.Shown site.settings ↔ site.settings.shows x.doc.id = true)) ↔
      ∀ x, site.HasMember x → (site.settings.shows x.doc.id = true ↔ x.kind = .classVariable)) := by
  have hshown {x : Member} (h : site.HasMember x) := Member.shown_iff h.owner h.ownerShown h.doc
  refine ⟨fun x h => ⟨?_, ?_, hshown h⟩, ?_⟩
  · have hpage : x.home ∈ site.shownModules := List.mem_filter.mpr ⟨h.home, h.homeShown⟩
    exact List.mem_append_left _ (List.mem_append_right _ (List.mem_map_of_mem hpage))
  · obtain ⟨e, he, hid⟩ := h.exists_entry
    have hnames := Store.start_names hstart he
    rw [← chosen.keys_flipped flips, ← hselections, hid] at hnames
    exact Selections.exists_of? hnames
  · refine forall₂_congr fun x h => ?_
    rw [hshown h]
    exact Iff.comm

def boxClass : ClassDoc :=
  { bareClass "c" "Box" "shapes.py" [] with
    properties := [bareConstant "p" "area" "shapes.py"], classVariables :=
      [bareConstant "v" "size" "shapes.py"] }

def boxModule : ModuleDoc := bareModule "m" "shapes" "shapes.py" [boxClass] [] []

def boxSite (id : String) : Site :=
  ofModules [boxModule] ((Selections.all (contents .full [boxModule])).flipped (· == .str id))

def boxMember : MemberKind → Member
  | .property => ⟨boxModule, boxClass, .property, bareConstant "p" "area" "shapes.py"⟩
  | .classVariable => ⟨boxModule, boxClass, .classVariable, bareConstant "v" "size" "shapes.py"⟩

theorem hasMember_box {id : String} (hmodule : (boxSite id).settings.shows "m" = true)
    (hclass : (boxSite id).settings.shows "c" = true) (k : MemberKind) :
    (boxSite id).HasMember (boxMember k) := by
  cases k
  all_goals
    exact ⟨List.mem_singleton_self _, hmodule, List.mem_singleton_self _, hclass,
      List.mem_singleton_self _⟩

theorem exists_start_box (id : String) : ∃ d',
    (notesStore.start (contents .full (boxSite id).modules) true).run notesDisk =
      (.ok (.all (contents .full [boxModule])), d') :=
  notesStore_usable.run_start rfl _

/-- Where the property alone is excluded, what is shown is what is included. -/
theorem boxSite_governed :
    (∀ k, (boxSite "p").HasMember (boxMember k)) ∧ ∀ x, (boxSite "p").HasMember x →
      (x.Shown (boxSite "p").settings ↔ (boxSite "p").settings.shows x.doc.id = true) := by
  obtain ⟨d', hstart⟩ := exists_start_box "p"
  have hselections : (boxSite "p").settings.selections =
      (Selections.all (contents .full [boxModule])).flipped (· == .str "p") := rfl
  have hmember := hasMember_box (show (boxSite "p").settings.shows "m" = true by decide) (by decide)
  refine ⟨hmember, (members_governed_iff hstart hselections).2.mpr ?_⟩
  rintro ⟨home, owner, kind, doc⟩ ⟨hhome, -, howner, -, hdoc⟩
  cases List.mem_singleton.mp hhome
  cases List.mem_singleton.mp howner
  cases kind with
  | property =>
    cases List.mem_singleton.mp hdoc
    decide
  | classVariable =>
    cases List.mem_singleton.mp hdoc
    decide

/-- Where the class variable alone is excluded, it is shown, and the property that is included is
not. -/
theorem boxSite_astray :
    (∃ d', (notesStore.start (contents .full (boxSite "v").modules) true).run notesDisk =
      (.ok (.all (contents .full [boxModule])), d')) ∧ (boxSite "v").settings.editable = false ∧
    (∀ k, (boxSite "v").HasMember (boxMember k)) ∧
    (boxMember .classVariable).Shown (boxSite "v").settings ∧
    (boxSite "v").settings.shows "v" = false ∧
    ¬ (boxMember .property).Shown (boxSite "v").settings ∧
    (boxSite "v").settings.shows "p" = true := by
  have hmember := hasMember_box (show (boxSite "v").settings.shows "m" = true by decide) (by decide)
  have hshown (k : MemberKind) :=
    Member.shown_iff (hmember k).owner (hmember k).ownerShown (hmember k).doc
  exact ⟨exists_start_box "v", rfl, hmember, (hshown .classVariable).mpr rfl, by decide,
    (hshown .property).not.mpr nofun, by decide⟩

end Site

end Apidoc
