import Apidoc.Proofs.Page.Shape

/-!
# Pages with and without descriptions

* `SiteSettings.muted`       the settings of a site without descriptions;
* `SiteSettings.Repeats`     the description of a component is its own documentation, or missing;
* `modulePage_muted`         a page without described blocks is the page of the site without
                             descriptions;
* `exceeds_modulePage`       a page with described blocks has more marks than that page;
* `render_muted_iff`         so it is another page.
-/

namespace Apidoc

open Markup

/-- What is shown of the values is the same: both count as nothing, or they are equal. -/
def Data.Alike (v w : Data) : Prop := v = w ∨ v.isTrue = false ∧ w.isTrue = false

theorem Data.Alike.isTrue_eq {v w : Data} (h : v.Alike w) : v.isTrue = w.isTrue := by
  rcases h with rfl | ⟨hv, hw⟩
  · rfl
  · rw [hv, hw]

theorem Data.Alike.optional_eq {v w : Data} (h : v.Alike w) (indent : Nat) (f : Data → Markup) :
    optional indent v.isTrue (f v) = optional indent w.isTrue (f w) := by
  rcases h with rfl | ⟨hv, hw⟩
  · rfl
  · rw [hv, hw]
    rfl

theorem Markup.each_congr {α : Type} {xs : List α} {f f' : α → Markup} (h : ∀ x ∈ xs, f x = f' x)
    (indent : Nat) : each indent xs f = each indent xs f' := by
  rw [each, each, List.flatMap_def, List.flatMap_def,
    List.map_congr_left fun x hx => by rw [h x hx]]

theorem Markup.each_map {α β : Type} (indent : Nat) (g : α → β) (xs : List α) (f : β → Markup) :
    each indent (xs.map g) f = each indent xs fun x => f (g x) := by
  rw [each, each, List.flatMap_map]

/-- What is left out need not be the same. -/
theorem Markup.optional_congr {b : Bool} {m n : Markup} (h : b = true → m = n) (indent : Nat) :
    optional indent b m = optional indent b n := by
  cases b with
  | false => rfl
  | true => rw [h rfl]

namespace SiteSettings

def muted (s : SiteSettings) : SiteSettings := { s with descriptions := [], broken := false }

/-- The description of a component repeats its documentation, if there is one. -/
def Repeats (s : SiteSettings) (h : Header) : Prop :=
  ∀ v, s.description? h.id = some v → v = .str (h.docs.getD "")

def isDescribed (s : SiteSettings) (f : FunctionDoc) : Bool :=
  ((s.description? f.id).getD .null).isTrue

def methodDocs (s : SiteSettings) (c : ClassDoc) : List FunctionDoc :=
  (c.methods.filter fun f => s.editable || s.shows f.id).map (·.toFunctionDoc)

/-- the functions and methods that have a block on the page of a module -/
def blockDocs (s : SiteSettings) (m : ModuleDoc) : List FunctionDoc :=
  (m.classes.filter fun c => s.shows c.id).flatMap s.methodDocs ++
    m.functions.filter fun f => s.shows f.id

variable {s : SiteSettings}

@[simp] theorem description?_muted (id : String) : s.muted.description? id = none := rfl

/-! ## descriptions that repeat the documentation -/

theorem describe_muted {h : Header} (hrepeats : s.Repeats h) :
    (s.describe h).Alike (s.muted.describe h) := by
  have hmade : ((s.description? h.id).getD ((h.docs.map Data.str).getD .null)).Alike
      ((h.docs.map Data.str).getD .null) := by
    cases hv : s.description? h.id with
    | none => exact .inl rfl
    | some v =>
      rw [hrepeats v hv]
      cases h.docs with
      | none => exact .inr ⟨rfl, rfl⟩
      | some t => exact .inl rfl
  have hselections : s.muted.selections = s.selections := rfl
  simp only [describe, hselections, description?_muted, Option.getD_none]
  cases s.selections.of? h.id with
  | none => exact hmade
  | some sel =>
    show Data.Alike (if sel.description.isTrue then _ else _)
      (if sel.description.isTrue then _ else _)
    split
    · exact .inl rfl
    · exact hmade

/-- If nothing is shown for a component, its description is empty. -/
theorem description?_of_describe {h : Header} {v : Data} (hv : s.description? h.id = some v)
    (hnone : (s.describe h).isTrue = false) : v.isTrue = false := by
  rw [describe, hv, Option.getD_some] at hnone
  split at hnone
  · split at hnone
    · rename_i hown
      rw [hown] at hnone
      cases hnone
    · exact hnone
  · exact hnone

theorem moduleDescription_muted {m : ModuleDoc} (hrepeats : s.Repeats m.toHeader) :
    (s.moduleDescription m).Alike (s.muted.moduleDescription m) := by
  have hdescribe := describe_muted hrepeats
  simp only [moduleDescription, ← hdescribe.isTrue_eq, description?_muted, Option.getD_none]
  split
  · exact hdescribe
  · rename_i hnone
    cases hv : s.description? m.id with
    | none => exact .inl rfl
    | some v => exact .inr ⟨description?_of_describe hv (Bool.eq_false_iff.mpr hnone), rfl⟩

end SiteSettings

open SiteSettings

section

variable {s : SiteSettings} {m : ModuleDoc} {c : ClassDoc} {f : FunctionDoc}

/-- The module and the classes on its page have no descriptions but their documentation. -/
def SiteSettings.RepeatsHeaders (s : SiteSettings) (m : ModuleDoc) : Prop :=
  s.Repeats m.toHeader ∧ ∀ c ∈ m.classes, s.shows c.id = true → s.Repeats c.toHeader

/-! ## pages without described blocks -/

theorem descriptionPart_alike (indent : Nat) {v w : Data} (h : v.Alike w) :
    descriptionPart indent (some v) = descriptionPart indent (some w) :=
  h.optional_eq indent fun d => line indent
    (raw "<div class=\"description\">" ++ text d.display ++ raw "</div>")

theorem bodyPart_muted (h : s.isDescribed f = false) (indent : Nat) (rank : String) :
    bodyPart s indent rank f = bodyPart s.muted indent rank f := by
  have hpart : descriptionPart indent (s.description? f.id) = descriptionPart indent
      (s.muted.description? f.id) := by
    rw [isDescribed] at h
    rw [descriptionPart, descriptionPart, h]
    rfl
  rw [bodyPart, bodyPart, hpart]
  rfl

theorem methodBlock_muted {f : MethodDoc}
    (h : s.editable || s.shows f.id → s.isDescribed f.toFunctionDoc = false) :
    methodBlock s c f = methodBlock s.muted c f :=
  Markup.optional_congr (fun hshown => by rw [bodyPart_muted (h hshown)]; rfl) 20

theorem classSection_muted (hrepeats : s.Repeats c.toHeader)
    (h : ∀ f ∈ s.methodDocs c, s.isDescribed f = false) :
    classSection s c = classSection s.muted c := by
  have hpart := descriptionPart_alike 12 (describe_muted hrepeats)
  have hmethods : each 16 c.methods (methodBlock s c) = each 16 c.methods
      (methodBlock s.muted c) := by
    refine each_congr (fun f hf => methodBlock_muted fun hshown => h _ ?_) 16
    exact List.mem_map_of_mem (List.mem_filter.mpr ⟨hf, hshown⟩)
  unfold classSection
  rw [hpart, hmethods]
  rfl

theorem functionBlock_muted (h : s.isDescribed f = false) :
    functionBlock s f = functionBlock s.muted f := by
  unfold functionBlock
  rw [bodyPart_muted h]
  rfl

def functionsSection (s : SiteSettings) (fs : List FunctionDoc) : Markup :=
  optional 8 (!fs.isEmpty)
    (lines [(8, "<section class=\"functions-section\">"), (12, "<h2>Functions</h2>")] ++
      each 12 fs (functionBlock s) ++ line 8 (raw "</section>"))

/-- A page and the one without descriptions begin and end alike. -/
theorem exists_modulePage (hrepeats : s.Repeats m.toHeader) : ∃ before,
    modulePage s m = before ++ each 8 (m.classes.filter fun c => s.shows c.id)
    (classSection s) ++ gap 0 ++
      functionsSection s (m.functions.filter fun f => s.shows f.id) ++ documentEnd "../" ∧
    modulePage s.muted m = before ++ each 8 (m.classes.filter fun c => s.shows c.id)
    (classSection s.muted) ++ gap 0 ++
      functionsSection s.muted (m.functions.filter fun f => s.shows f.id) ++ documentEnd "../" := by
  have hdescription := (moduleDescription_muted hrepeats).optional_eq 12
    fun d => line 12 (raw "<p>" ++ text d.display ++ raw "</p>")
  refine ⟨_, rfl, ?_⟩
  rw [hdescription]
  rfl

theorem modulePage_muted (hrepeats : s.RepeatsHeaders m)
    (h : ∀ f ∈ s.blockDocs m, s.isDescribed f = false) : modulePage s m = modulePage s.muted m := by
  rw [blockDocs, List.forall_mem_append, List.forall_mem_flatMap] at h
  obtain ⟨before, hpage, hmuted⟩ := exists_modulePage hrepeats.1
  have hclasses : each 8 (m.classes.filter fun c => s.shows c.id) (classSection s) =
      each 8 (m.classes.filter fun c => s.shows c.id) (classSection s.muted) := by
    refine each_congr (fun c hc => ?_) 8
    obtain ⟨hmem, hshown⟩ := List.mem_filter.mp hc
    exact classSection_muted (hrepeats.2 c hmem hshown) (h.1 c hc)
  rw [hpage, hmuted, hclasses, functionsSection, functionsSection,
    each_congr (fun f hf => functionBlock_muted (h.2 f hf)) 12]

/-! ## pages with described blocks -/

/-- One markup has the marks of the other or more, and no more only if `P` holds. -/
structure Markup.Exceeds (P : Prop) (m n : Markup) : Prop where
  le : n.marks.length ≤ m.marks.length
  only : m.marks.length = n.marks.length → P

theorem Markup.Exceeds.imp {P Q : Prop} {m n : Markup} (h : Exceeds P m n) (hPQ : P → Q) :
    Exceeds Q m n :=
  ⟨h.le, fun heq => hPQ (h.only heq)⟩

theorem Markup.Exceeds.refl (m : Markup) : Exceeds True m m := ⟨Nat.le_refl _, fun _ => trivial⟩

theorem Markup.Exceeds.within {P : Prop} {m n : Markup} (h : Exceeds P m n)
    (before after : Markup) : Exceeds P (before ++ m ++ after) (before ++ n ++ after) := by
  obtain ⟨hle, honly⟩ := h
  constructor
  · simp only [marks_append, List.length_append]
    omega
  · simp only [marks_append, List.length_append]
    exact fun heq => honly (by omega)

theorem Markup.Exceeds.append {P Q : Prop} {m n m' n' : Markup} (h : Exceeds P m n)
    (h' : Exceeds Q m' n') : Exceeds (P ∧ Q) (m ++ m') (n ++ n') := by
  obtain ⟨hle, honly⟩ := h
  obtain ⟨hle', honly'⟩ := h'
  constructor
  · simp only [marks_append, List.length_append]
    omega
  · simp only [marks_append, List.length_append]
    exact fun heq => ⟨honly (by omega), honly' (by omega)⟩

theorem Markup.Exceeds.followed {P : Prop} {m n : Markup} (h : Exceeds P m n) (after : Markup) :
    Exceeds P (m ++ after) (n ++ after) := (h.append (.refl after)).imp And.left

theorem Markup.Exceeds.optional {P : Prop} {m n : Markup} (h : Exceeds P m n)
    (indent : Nat) (b : Bool) :
    Exceeds (b = true → P) (optional indent b m) (optional indent b n) := by
  cases b with
  | false => exact ⟨Nat.le_refl _, nofun⟩
  | true => exact ⟨by simpa using h.le, fun heq _ => h.only (by simpa using heq)⟩

theorem Markup.Exceeds.each {α : Type} {xs : List α} {f g : α → Markup} {P : α → Prop}
    (h : ∀ x ∈ xs, Exceeds (P x) (f x) (g x)) (indent : Nat) :
    Exceeds (∀ x ∈ xs, P x) (each indent xs f) (each indent xs g) := by
  suffices hflat : (xs.flatMap fun x => (g x).marks).length ≤
    (xs.flatMap fun x => (f x).marks).length ∧
      ((xs.flatMap fun x => (f x).marks).length = (xs.flatMap fun x => (g x).marks).length →
        ∀ x ∈ xs, P x) by
    exact ⟨by rw [marks_each, marks_each]; exact hflat.1,
      by rw [marks_each, marks_each]; exact hflat.2⟩
  induction xs with
  | nil => exact ⟨Nat.le_refl _, fun _ => List.forall_mem_nil _⟩
  | cons x xs ih =>
    rw [List.forall_mem_cons] at h
    obtain ⟨hle, honly⟩ := ih h.2
    have hx := h.1.le
    simp only [List.flatMap_cons, List.length_append, List.forall_mem_cons]
    exact ⟨by omega, fun heq => ⟨h.1.only (by omega), honly (by omega)⟩⟩

theorem exceeds_bodyPart (s : SiteSettings) (indent : Nat) (rank : String) (f : FunctionDoc) :
    Exceeds (s.isDescribed f = false) (bodyPart s indent rank f)
    (bodyPart s.muted indent rank f) := by
  cases h : s.isDescribed f with
  | false =>
    have hlength := congrArg (fun m : Markup => m.marks.length) (bodyPart_muted h indent rank)
    exact ⟨Nat.le_of_eq hlength.symm, fun _ => rfl⟩
  | true =>
    have hnone : (descriptionPart indent none).marks = [] := by simp [descriptionPart, Data.isTrue]
    have hsome : 0 < (descriptionPart indent (s.description? f.id)).marks.length := by
      rw [isDescribed] at h
      rw [descriptionPart, marks_optional, h]
      simp [marks_raw]
      decide
    have hsource : s.muted.includeSource = s.includeSource := rfl
    have hlength : (bodyPart s indent rank f).marks.length =
      (bodyPart s.muted indent rank f).marks.length +
        (descriptionPart indent (s.description? f.id)).marks.length := by
      simp only [bodyPart, marks_append, List.length_append, description?_muted, hnone,
        List.length_nil, hsource]
      omega
    exact ⟨by omega, fun heq => by omega⟩

theorem exceeds_methodBlock (s : SiteSettings) (c : ClassDoc) (f : MethodDoc) :
    Exceeds ((s.editable || s.shows f.id) = true → s.isDescribed f.toFunctionDoc = false)
    (methodBlock s c f)
      (methodBlock s.muted c f) :=
  ((exceeds_bodyPart s 24 "h5" f.toFunctionDoc).within _ _).optional 20 _

theorem exceeds_classSection (hrepeats : s.Repeats c.toHeader) :
    Exceeds (∀ f ∈ s.methodDocs c, s.isDescribed f = false) (classSection s c)
    (classSection s.muted c) := by
  have hmethods : Exceeds (∀ f ∈ s.methodDocs c, s.isDescribed f = false)
    (each 16 c.methods (methodBlock s c))
      (each 16 c.methods (methodBlock s.muted c)) := by
    refine (Markup.Exceeds.each (fun f _ => exceeds_methodBlock s c f) 16).imp fun h f hf => ?_
    obtain ⟨g, hg, rfl⟩ := List.mem_map.mp hf
    obtain ⟨hmem, hshown⟩ := List.mem_filter.mp hg
    exact h g hmem hshown
  unfold classSection
  rw [descriptionPart_alike 12 (describe_muted hrepeats)]
  exact hmethods.within _ _

theorem exceeds_functionBlock (s : SiteSettings) (f : FunctionDoc) :
    Exceeds (s.isDescribed f = false) (functionBlock s f) (functionBlock s.muted f) :=
  (exceeds_bodyPart s 16 "h4" f).within _ _

theorem exceeds_functionsSection (s : SiteSettings) (fs : List FunctionDoc) :
    Exceeds (∀ f ∈ fs, s.isDescribed f = false) (functionsSection s fs)
    (functionsSection s.muted fs) := by
  have hblocks : Exceeds (∀ f ∈ fs, s.isDescribed f = false) (each 12 fs (functionBlock s))
      (each 12 fs (functionBlock s.muted)) := .each (fun f _ => exceeds_functionBlock s f) 12
  refine ((hblocks.within _ _).optional 8 (!fs.isEmpty)).imp fun h f hf => h ?_ f hf
  rw [Bool.not_eq_true', List.isEmpty_eq_false_iff]
  exact List.ne_nil_of_mem hf

/-- A page has more marks than the page of the site without descriptions, unless no block on it is
described. -/
theorem exceeds_modulePage (hrepeats : s.RepeatsHeaders m) :
    Exceeds (∀ f ∈ s.blockDocs m, s.isDescribed f = false) (modulePage s m)
    (modulePage s.muted m) := by
  have hclasses : Exceeds (∀ c ∈ m.classes.filter fun c => s.shows c.id, ∀ f ∈ s.methodDocs c,
    s.isDescribed f = false)
      (each 8 (m.classes.filter fun c => s.shows c.id) (classSection s))
      (each 8 (m.classes.filter fun c => s.shows c.id) (classSection s.muted)) := by
    refine .each (fun c hc => ?_) 8
    obtain ⟨hmem, hshown⟩ := List.mem_filter.mp hc
    exact exceeds_classSection (hrepeats.2 c hmem hshown)
  obtain ⟨before, hpage, hmuted⟩ := exists_modulePage hrepeats.1
  rw [hpage, hmuted, blockDocs, List.forall_mem_append, List.forall_mem_flatMap]
  exact ((hclasses.within before (gap 0)).append (exceeds_functionsSection s _)).followed _

theorem render_muted_iff (hrepeats : s.RepeatsHeaders m) :
    (modulePage s m).render = (modulePage s.muted m).render ↔
    ∀ f ∈ s.blockDocs m, s.isDescribed f = false := by
  constructor
  · intro h
    refine (exceeds_modulePage hrepeats).only ?_
    rw [← marksOf_render, ← marksOf_render, h]
  · intro h
    rw [modulePage_muted hrepeats h]

end

end Apidoc
