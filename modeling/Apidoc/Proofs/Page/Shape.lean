import Apidoc.Page.Index
import Apidoc.Page.Module
import Apidoc.Proofs.Data.Ordered
import Apidoc.Proofs.Page.Tags

/-!
# The marks on a page

A tag or a value can only be opened and closed by one of four characters.  Here these *marks* are
picked out of a page, and what is documented is reduced to its *shape*, in which nothing is left of
a text but whether it is empty:

* `Markup.marks`       the marks in the text of some markup;
* `veil`, `veiled`     the shape of a text, and of whatever holds texts; ids are kept;
* `marks_indexPage`, `marks_modulePage`   a page has the marks of the page that is made from the
                                          shapes.

Where a text is shown it is escaped, so it has no marks (`Markup.marks_text`, `Markup.marks_attr`).
Where a text decides what is shown, only its being empty counts.
-/

namespace Apidoc

/-! ## marks -/

/-- the characters that open and close tags and values -/
def isMark (c : Char) : Bool := c == '<' || c == '>' || c == '"' || c == '\''

def marksOf (s : String) : List Char := s.toList.filter isMark

theorem isMark_eq_false {c : Char} : isMark c = false ↔ c ≠ '<' ∧ c ≠ '>' ∧ c ≠ '"' ∧ c ≠ '\'' := by
  simp [isMark, and_assoc]

theorem marksOf_escape (s : String) : marksOf (Fragment.escape s) = [] := by
  refine List.filter_eq_nil_iff.mpr fun c hc => ?_
  rw [isMark_eq_false.mpr (Html.not_special_of_mem_escape hc)]
  exact Bool.false_ne_true

namespace Markup

def marks (m : Markup) : List Char := m.chars.filter isMark

theorem marksOf_render (m : Markup) : marksOf m.render = m.marks := by
  rw [marksOf, toList_render, marks]

variable {α : Type} {m n : Markup} {b : Bool}

@[simp] theorem marks_nil : marks [] = [] := rfl

@[simp] theorem marks_append (m n : Markup) : marks (m ++ n) = marks m ++ marks n := by
  rw [marks, chars_append, List.filter_append, marks, marks]

theorem marks_raw (s : String) : marks (raw s) = marksOf s := by
  simp [marks, chars, raw, Fragment.render, marksOf]

@[simp] theorem marks_text (s : String) : marks (text s) = [] := by
  have hchars : chars (text s) = (Fragment.escape s).toList := by
    simp [chars, text, Fragment.render]
  rw [marks, hchars]
  exact marksOf_escape s

/-- The value of an attribute has no marks but those around it. -/
@[simp] theorem marks_attr (name value : String) :
    marks (attr name value) = marksOf name ++ ['"', '"'] := by
  have hchars : chars (attr name value) = name.toList ++
      ('=' :: '"' :: (Fragment.escape value).toList ++ ['"']) := by
    simp [chars, attr, Fragment.render]
  have hvalue : (Fragment.escape value).toList.filter isMark = [] := marksOf_escape value
  rw [marks, hchars, List.filter_append, List.filter_append, List.filter_cons_of_neg (by decide),
    List.filter_cons_of_pos (by decide), hvalue]
  rfl

@[simp] theorem marks_ite (b : Bool) (m n : Markup) :
    marks (if b then m else n) = cond b (marks m) (marks n) := by
  cases b <;> rfl

@[simp] theorem marks_flatMap (f : α → Markup) (xs : List α) :
    marks (xs.flatMap f) = xs.flatMap fun x => marks (f x) := by
  induction xs with
  | nil => rfl
  | cons x xs ih => rw [List.flatMap_cons, marks_append, ih, List.flatMap_cons]

@[simp] theorem marks_gap (indent : Nat) : marks (gap indent) = [] := by
  rw [gap, marks_raw]
  refine List.filter_eq_nil_iff.mpr fun c hc => ?_
  have hc : c ∈ '\n' :: List.replicate indent ' ' := by simpa [blanks] using hc
  rcases List.mem_cons.mp hc with rfl | hc
  · decide
  · rw [List.eq_of_mem_replicate hc]
    decide

@[simp] theorem marks_line (indent : Nat) (m : Markup) : marks (line indent m) = marks m := by
  rw [line, marks_append, marks_gap, List.nil_append]

@[simp] theorem marks_optional (indent : Nat) (b : Bool) (m : Markup) :
    marks (optional indent b m) = cond b (marks m) [] := by
  rw [optional, marks_append, marks_gap, marks_ite, marks_append, marks_gap, List.append_nil]
  rfl

@[simp] theorem marks_either (indent : Nat) (b : Bool) (m n : Markup) :
    marks (either indent b m n) = cond b (marks m) (marks n) := by
  rw [either, marks_append, marks_append, marks_gap, marks_ite, List.append_nil]
  rfl

@[simp] theorem marks_each (indent : Nat) (xs : List α) (f : α → Markup) :
    marks (each indent xs f) = xs.flatMap fun x => marks (f x) := by
  simp only [each, marks_append, marks_gap, marks_flatMap, List.append_nil, List.nil_append]

end Markup

/-! ## shapes -/

/-- what the shape of a site keeps of a text -/
def veil (s : String) : String := if s = "" then "" else "*"

theorem veil_eq_empty {s : String} : veil s = "" ↔ s = "" := by
  unfold veil
  split <;> simp_all

theorem veil_eq_veil {s s' : String} : veil s = veil s' ↔ (s = "" ↔ s' = "") := by
  unfold veil
  split <;> split <;> simp_all

/-- A text that is data is veiled; any other data is kept. -/
def Data.veiled : Data → Data
  | .str s => .str (veil s)
  | v => v

def ParameterDoc.veiled (p : ParameterDoc) : ParameterDoc :=
  ⟨veil p.name, p.hint.map veil, p.default.map veil, p.description.map veil⟩

def Header.veiled (h : Header) : Header :=
  ⟨h.id, veil h.name, veil h.path, h.line, h.docs.map veil, h.source.map veil,
    h.description.map veil⟩

def PropertyDoc.veiled (p : PropertyDoc) : PropertyDoc :=
  ⟨p.toHeader.veiled, p.hint.map veil, p.default.map veil, p.isClassVariable⟩

def FunctionDoc.veiled (f : FunctionDoc) : FunctionDoc :=
  ⟨f.toHeader.veiled, f.parameters.map .veiled, f.returns.map veil, f.isAsync,
    f.decorators.map veil⟩

def MethodDoc.veiled (m : MethodDoc) : MethodDoc :=
  ⟨m.toFunctionDoc.veiled, m.isStatic, m.isClassMethod, m.isProperty, m.parent.map veil⟩

def ClassDoc.veiled (c : ClassDoc) : ClassDoc :=
  ⟨c.toHeader.veiled, c.bases.map veil, c.methods.map .veiled, c.properties.map .veiled,
    c.classVariables.map .veiled, c.decorators.map veil⟩

def ModuleDoc.veiled (m : ModuleDoc) : ModuleDoc :=
  ⟨m.toHeader.veiled, m.classes.map .veiled, m.functions.map .veiled, m.constants.map .veiled,
    m.imports.map veil, m.exports.map (List.map veil)⟩

/-- The parent of a heading is named by its id. -/
def Heading.veiled (h : Heading) : Heading := { h with title := veil h.title, path := veil h.path }

mutual

def Entry.veiled : Entry → Entry
  | .mk h es => .mk h.veiled (Entry.veiledAll es)

def Entry.veiledAll : List Entry → List Entry
  | [] => []
  | e :: es => e.veiled :: Entry.veiledAll es

end

def Selection.veiled (s : Selection) : Selection :=
  { s with title := s.title.veiled, description := s.description.veiled }

def Selections.veiled (s : Selections) : Selections := s.map fun p => (p.1, p.2.veiled)

def SiteSettings.veiled (s : SiteSettings) : SiteSettings :=
  { s with
    title := veil s.title, selections := s.selections.veiled
    descriptions := s.descriptions.map fun p => (p.1, p.2.veiled) }

/-! ## what is decided by a text -/

@[simp] theorem Data.isTrue_veiled (v : Data) : v.veiled.isTrue = v.isTrue := by
  cases v with
  | str s =>
    show (veil s != "") = (s != "")
    rw [Bool.eq_iff_iff, bne_iff_ne, bne_iff_ne, Ne, veil_eq_empty]
  | _ => rfl

@[simp] theorem isSome_shown_veil (s : Option String) :
    (shown (s.map veil)).isSome = (shown s).isSome := by
  cases s with
  | none => rfl
  | some t =>
    by_cases ht : t = "" <;> simp [shown, Option.filter, veil_eq_empty, ht]

theorem Entry.veiledAll_eq (es : List Entry) : veiledAll es = es.map veiled := by
  induction es with
  | nil => rfl
  | cons e es ih => rw [veiledAll, ih, List.map_cons]

@[simp] theorem Entry.heading_veiled (e : Entry) : e.veiled.heading = e.heading.veiled := by
  cases e
  rw [veiled]
  rfl

@[simp] theorem Entry.children_veiled (e : Entry) : e.veiled.children = e.children.map veiled := by
  cases e
  rw [veiled, ← veiledAll_eq]
  rfl

namespace Selections

variable (s : Selections) (id : String)

theorem of?_veiled : s.veiled.of? id = (s.of? id).map Selection.veiled := Ordered.get?_map _ _ _

theorem names_veiled : s.veiled.names id = s.names id := by
  rw [names, names, of?_veiled]
  cases s.of? id <;> rfl

@[simp] theorem includes_veiled : s.veiled.includes id = s.includes id := by
  rw [includes, includes, of?_veiled]
  cases s.of? id <;> rfl

@[simp] theorem shows_veiled : s.veiled.shows id = s.shows id := by
  rw [shows, shows, names_veiled, veiled, List.isEmpty_map]

end Selections

namespace SiteSettings

variable (s : SiteSettings)

@[simp] theorem shows_veiled (id : String) : s.veiled.shows id = s.shows id :=
  s.selections.shows_veiled id

@[simp] theorem description?_veiled (id : String) :
    s.veiled.description? id = (s.description? id).map Data.veiled :=
  Ordered.get?_map _ _ _

theorem describe_veiled (h : Header) : s.veiled.describe h.veiled = (s.describe h).veiled := by
  have hmade : (s.veiled.description? h.id).getD (((h.docs.map veil).map Data.str).getD .null) =
      ((s.description? h.id).getD ((h.docs.map Data.str).getD .null)).veiled := by
    rw [description?_veiled]
    cases s.description? h.id with
    | some d => rfl
    | none => cases h.docs <;> rfl
  rw [describe, describe,
    show s.veiled.selections.of? h.veiled.id = _ from s.selections.of?_veiled h.id]
  cases s.selections.of? h.id with
  | none => exact hmade
  | some sel =>
    show (if sel.description.veiled.isTrue then _ else _) =
      Data.veiled (if sel.description.isTrue then _ else _)
    rw [Data.isTrue_veiled]
    split
    · rfl
    · exact hmade

@[simp] theorem isTrue_moduleDescription_veiled (m : ModuleDoc) :
    (s.veiled.moduleDescription m.veiled).isTrue = (s.moduleDescription m).isTrue := by
  have hdescribe : s.veiled.describe m.veiled.toHeader = (s.describe m.toHeader).veiled :=
    s.describe_veiled m.toHeader
  rw [moduleDescription, moduleDescription, hdescribe, Data.isTrue_veiled]
  split
  · exact Data.isTrue_veiled _
  · rw [show m.veiled.id = m.id from rfl, description?_veiled]
    cases s.description? m.id with
    | none => rfl
    | some d => exact Data.isTrue_veiled d

end SiteSettings

/-! ## pieces of pages -/

open Markup

section

variable (indent : Nat)

theorem marks_checkbox (id kind title : String) (checked : Bool) :
    (checkbox indent id kind title checked).marks = (checkbox indent "" "" "" checked).marks := by
  simp [checkbox]

theorem marks_descriptionPart (v : Option Data) :
    (descriptionPart indent (v.map .veiled)).marks = (descriptionPart indent v).marks := by
  cases v with
  | none => rfl
  | some d => simp [descriptionPart]

theorem marks_docsPart (docs : Option String) :
    (docsPart indent (docs.map veil)).marks = (docsPart indent docs).marks := by
  simp [docsPart]

theorem marks_sourcePart (withSource : Bool) (source : Option String) :
    (sourcePart indent withSource (source.map veil)).marks =
      (sourcePart indent withSource source).marks := by
  simp [sourcePart]

theorem marks_table {α β : Type} {f : α → β} {cells : α → List Markup} {cells' : β → List Markup}
    (h : ∀ x, (cells' (f x)).map Markup.marks = (cells x).map Markup.marks) (xs : List α) :
    (table indent (xs.map f) cells').marks = (table indent xs cells).marks := by
  have hcells (x : α) : (cells' (f x)).flatMap (fun m => m.marks) = (cells x).flatMap fun m =>
      m.marks := by
    rw [List.flatMap_def, List.flatMap_def, h]
  simp [table, List.flatMap_map, hcells]

theorem marks_parametersPart (rank : String) (ps : List ParameterDoc) :
    (parametersPart indent rank (ps.map .veiled)).marks =
      (parametersPart indent rank ps).marks := by
  simp only [parametersPart, marks_optional, marks_append, marks_line, List.isEmpty_map]
  rw [marks_table]
  intro p
  simp [codeCell]

theorem marks_parameterText (p : ParameterDoc) : (parameterText p).marks = [] := by
  have hcolon : (raw ": ").marks = [] := by decide
  have hequals : (raw " = ").marks = [] := by decide
  rw [parameterText, marks_append, marks_append, marks_text]
  cases shown p.hint <;> cases shown p.default <;> simp [hcolon, hequals]

theorem marks_parameterList (ps : List ParameterDoc) : (parameterList ps).marks = [] := by
  have hcomma : (raw ", ").marks = [] := by decide
  induction ps with
  | nil => rfl
  | cons p ps ih =>
    cases ps with
    | nil => exact marks_parameterText p
    | cons q ps => rw [parameterList, marks_append, marks_append, marks_parameterText,
        hcomma, ih]; rfl; nofun

theorem marks_signaturePart (nameClass : String) (f : FunctionDoc) :
    (signaturePart indent nameClass f.veiled).marks = (signaturePart indent nameClass f).marks := by
  have hreturns : f.veiled.returns = f.returns.map veil := rfl
  have hasync : f.veiled.isAsync = f.isAsync := rfl
  have hshown := isSome_shown_veil f.returns
  simp only [signaturePart, hreturns, hasync, marks_append, marks_line, marks_text,
    marks_parameterList]
  cases h : shown (f.returns.map veil) <;> cases h' : shown f.returns <;> simp_all

end

section

variable (s : SiteSettings)

@[simp] theorem SiteSettings.editable_veiled : s.veiled.editable = s.editable := rfl

@[simp] theorem MethodDoc.id_veiled (m : MethodDoc) : m.veiled.id = m.id := rfl

@[simp] theorem FunctionDoc.id_veiled (f : FunctionDoc) : f.veiled.id = f.id := rfl

@[simp] theorem ClassDoc.id_veiled (c : ClassDoc) : c.veiled.id = c.id := rfl

@[simp] theorem ModuleDoc.id_veiled (m : ModuleDoc) : m.veiled.id = m.id := rfl

theorem marks_boxPart (editable : Bool) (indent : Nat) (id kind title : String) (checked : Bool) :
    (boxPart editable indent id kind title checked).marks =
      (boxPart editable indent "" "" "" checked).marks := by
  simp only [boxPart, marks_optional, marks_append, marks_line, marks_checkbox _ id]

theorem marks_bodyPart (indent : Nat) (rank : String) (f : FunctionDoc) :
    (bodyPart s.veiled indent rank f.veiled).marks = (bodyPart s indent rank f).marks := by
  have hdescription : s.veiled.description? f.veiled.id = (s.description? f.id).map .veiled :=
    s.description?_veiled f.id
  have hdocs : f.veiled.docs = f.docs.map veil := rfl
  have hsource : f.veiled.source = f.source.map veil := rfl
  have hparameters : f.veiled.parameters = f.parameters.map .veiled := rfl
  have hwith : s.veiled.includeSource = s.includeSource := rfl
  simp only [bodyPart, marks_append, marks_gap, hdescription, hdocs, hsource, hparameters, hwith,
    marks_descriptionPart, marks_docsPart, marks_parametersPart, marks_sourcePart]

/-! ## contents -/

theorem marks_methodLink (c : ClassDoc) (m : MethodDoc) :
    (methodLink s.veiled c.veiled m.veiled).marks = (methodLink s c m).marks := by
  simp [methodLink, checkedLink, link, marks_checkbox _ m.id]

theorem marks_classLinks (c : ClassDoc) :
    (classLinks s.veiled c.veiled).marks = (classLinks s c).marks := by
  have hmethods : c.veiled.methods = c.methods.map .veiled := rfl
  simp [classLinks, checkedLink, link, hmethods, List.flatMap_map, marks_methodLink,
    marks_checkbox _ c.id]

theorem marks_functionLink (f : FunctionDoc) :
    (functionLink s.veiled f.veiled).marks = (functionLink s f).marks := by
  simp [functionLink, checkedLink, link, marks_checkbox _ f.id]

/-! ## sections -/

theorem marks_methodBlock (c : ClassDoc) (m : MethodDoc) :
    (methodBlock s.veiled c.veiled m.veiled).marks = (methodBlock s c m).marks := by
  have hfunction : m.veiled.toFunctionDoc = m.toFunctionDoc.veiled := rfl
  have hstatic : m.veiled.isStatic = m.isStatic := rfl
  have hclass : m.veiled.isClassMethod = m.isClassMethod := rfl
  simp [methodBlock, hfunction, hstatic, hclass, marks_signaturePart, marks_bodyPart,
    marks_boxPart _ _ m.id]

theorem marks_variablesPart (vs : List PropertyDoc) :
    (variablesPart (vs.map .veiled)).marks = (variablesPart vs).marks := by
  simp only [variablesPart, marks_optional, marks_append, marks_line, List.isEmpty_map]
  rw [marks_table]
  intro v
  simp [codeCell]

theorem marks_classSection (c : ClassDoc) :
    (classSection s.veiled c.veiled).marks = (classSection s c).marks := by
  have hmethods : c.veiled.methods = c.methods.map .veiled := rfl
  have hbases : c.veiled.bases = c.bases.map veil := rfl
  have hdocs : c.veiled.docs = c.docs.map veil := rfl
  have hvariables : c.veiled.classVariables = c.classVariables.map .veiled := rfl
  have hdescription : some (s.veiled.describe c.veiled.toHeader) =
    (some (s.describe c.toHeader)).map .veiled :=
    congrArg some (s.describe_veiled c.toHeader)
  unfold classSection
  simp only [hmethods, hbases, hdocs, hvariables, hdescription, marks_append, marks_line, marks_gap,
    marks_attr, marks_text, marks_optional, marks_each, List.isEmpty_map, List.flatMap_map]
  simp only [marks_descriptionPart, marks_docsPart, marks_variablesPart, marks_methodBlock,
    marks_boxPart _ _ c.id, s.editable_veiled, s.shows_veiled, c.id_veiled]

theorem marks_functionBlock (f : FunctionDoc) :
    (functionBlock s.veiled f.veiled).marks = (functionBlock s f).marks := by
  simp [functionBlock, marks_signaturePart, marks_bodyPart, marks_boxPart _ _ f.id]

/-! ## pages -/

theorem marks_moduleHeader (m : ModuleDoc) :
    (moduleHeader s.veiled m.veiled).marks = (moduleHeader s m).marks := by
  simp [moduleHeader, marks_checkbox _ m.id]

theorem filter_veiled {α : Type} (veiled : α → α) (id : α → String)
    (hid : ∀ x, id (veiled x) = id x) (xs : List α) :
    ((xs.map veiled).filter fun x => s.veiled.shows (id x)) =
      (xs.filter fun x => s.shows (id x)).map veiled := by
  rw [List.filter_map]
  congr 1
  refine List.filter_congr fun x _ => ?_
  rw [Function.comp_apply, hid, s.shows_veiled]

theorem marks_modulePage (m : ModuleDoc) :
    (modulePage s.veiled m.veiled).marks = (modulePage s m).marks := by
  have hclasses : (m.veiled.classes.filter fun c => s.veiled.shows c.id) =
      (m.classes.filter fun c => s.shows c.id).map .veiled :=
        filter_veiled s _ _ ClassDoc.id_veiled m.classes
  have hfunctions : (m.veiled.functions.filter fun f => s.veiled.shows f.id) =
      (m.functions.filter fun f => s.shows f.id).map .veiled :=
        filter_veiled s _ _ FunctionDoc.id_veiled m.functions
  have hdocs : m.veiled.docs = m.docs.map veil := rfl
  unfold modulePage
  dsimp only
  rw [hclasses, hfunctions]
  -- in two steps: the marks of the parts are compared only when the markup has been taken apart
  simp only [documentHead, hdocs, marks_append, marks_line, marks_gap, marks_text, marks_optional,
    marks_each, List.isEmpty_map, List.flatMap_map]
  simp only [s.editable_veiled, s.isTrue_moduleDescription_veiled, marks_classLinks,
    marks_functionLink, marks_moduleHeader, marks_docsPart, marks_classSection, marks_functionBlock]

end

theorem marks_childItem (editable : Bool) (s : Selections) (path path' : String) (h : Heading) :
    (childItem editable s.veiled path' h.veiled).marks = (childItem editable s path h).marks := by
  have hid : h.veiled.id = h.id := rfl
  simp [childItem, checkedLink, entryCheckbox, hid, marks_checkbox _ h.id]

theorem marks_entryItem (editable : Bool) (s : Selections) (e : Entry) :
    (entryItem editable s.veiled e.veiled).marks = (entryItem editable s e).marks := by
  have hid : e.heading.veiled.id = e.heading.id := rfl
  simp [entryItem, checkedLink, entryCheckbox, link, hid, List.flatMap_map,
    marks_childItem editable s e.heading.path, marks_checkbox _ e.heading.id]

theorem marks_indexPage (title title' stamp stamp' : String) (editable : Bool) (es : List Entry)
    (s : Selections) :
    (indexPage title' stamp' editable (es.map .veiled) s.veiled).marks =
      (indexPage title stamp editable es s).marks := by
  unfold indexPage
  simp only [documentHead, marks_append, marks_line, marks_gap, marks_text, marks_each,
    List.flatMap_map]
  simp only [marks_entryItem]

end Apidoc
