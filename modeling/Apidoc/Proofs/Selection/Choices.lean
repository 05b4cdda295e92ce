import Apidoc.Proofs.Data.Yaml.Document
import Apidoc.Selection.Store

/-!
# Choices and the documents that hold them

* `Choice`                  what a user can choose for an entry;
* `Dictionary`              choices by the id of the entry, in order;
* `Choices`                 a dictionary that can be saved: no id comes twice;
* `Dictionary.ofDocument`   a document that names the choices is read as the choices;
* `Choices.fits`            the choices are written in a form that is read back.
-/

namespace Apidoc

open Ordered (keyed)

/-- twelve hexadecimal digits in lower case -/
def IsId (id : String) : Prop := id.length = 12 ∧ ∀ c ∈ id.toList, c ∈ "0123456789abcdef".toList

instance (id : String) : Decidable (IsId id) :=
  decidable_of_iff (id.length = 12 ∧
    id.toList.all (fun c => "0123456789abcdef".toList.contains c) = true) <| by
    simp only [IsId, List.all_eq_true, List.contains_iff_mem]

theorem IsId.isName {id : String} (h : IsId id) : Yaml.IsName id where
  nonempty := by
    rintro rfl
    cases h.1
  short := by
    rw [h.1]
    decide
  ascii := by
    have hdigits : "0123456789abcdef".toList.all Yaml.isAsciiText = true := rfl
    exact fun c hc => List.all_eq_true.mp hdigits c (h.2 c hc)

/-! ## choices -/

/-- What a user can choose for an entry: whether it is included, and a title and a description. -/
structure Choice where
  included : Bool
  title : Option String
  description : Option String
  deriving DecidableEq, Repr

def textData : Option String → Data
  | none => .null
  | some s => .str s

def Choice.selection (id : String) (c : Choice) : Selection :=
  ⟨.str id, .bool c.included, textData c.title, textData c.description⟩

def Choice.toData (c : Choice) : Data :=
  .object [("included", .bool c.included), ("custom_title", textData c.title),
    ("custom_description", textData c.description)]

/-- choices by the id of the entry, in the order in which the ids came -/
abbrev Dictionary := List (String × Choice)

namespace Dictionary

def selections (m : Dictionary) : Selections := keyed (m.map fun p => (p.1, p.2.selection p.1))

def fields (m : Dictionary) : List (String × Data) := m.map fun p => (p.1, p.2.toData)

theorem toData_selections (m : Dictionary) : m.selections.toData = .object m.fields := by
  rw [Selections.toData, selections, Ordered.map_keyed, List.map_map]
  rfl

theorem keys_fields (m : Dictionary) : m.fields.map (·.1) = m.map (·.1) := by
  rw [fields, List.map_map]
  rfl

structure Proper (m : Dictionary) : Prop where
  ids : ∀ p ∈ m, IsId p.1
  distinct : (m.map (·.1)).Nodup

end Dictionary

/-- a dictionary that can be saved -/
structure Choices where
  pairs : Dictionary
  proper : pairs.Proper

namespace Choices

def selections (m : Choices) : Selections := m.pairs.selections

end Choices

/-! ## reading -/

/-- What is read under an id is the selection of that entry, whatever id it had. -/
theorem Selection.ofData_toData (id : Data) (s : Selection) :
    Selection.ofData id s.toData = .ok { s with id } := by
  show Except.ok (Selection.mk id ((Ordered.get? (keyed _) (.str "included")).getD _)
    ((Ordered.get? (keyed _) (.str "custom_title")).getD _)
    ((Ordered.get? (keyed _) (.str "custom_description")).getD _)) = _
  rw [Ordered.get?_keyed, Ordered.get?_keyed, Ordered.get?_keyed]
  rfl

theorem Choice.ofData_toData (id : String) (c : Choice) :
    Selection.ofData (.str id) c.toData = .ok (c.selection id) :=
  Selection.ofData_toData (.str id) (c.selection id)

namespace Dictionary

/-- A document that names the choices, in whatever form each of them is read, is read as the
choices. -/
theorem ofDocument (m : Dictionary) {fields : List (String × Data)} {data : Choice → Data}
    (hdata : ∀ id c, Selection.ofData (.str id) (data c) = .ok (c.selection id))
    (h : Ordered.get? fields "selections" = some (.object (m.map fun p => (p.1, data p.2)))) :
    Selections.ofDocument (.object fields) = .ok m.selections := by
  have hpairs : Selections.ofPairs (keyed (m.map fun p => (p.1, data p.2))) = .ok m.selections := by
    clear h
    induction m with
    | nil => rfl
    | cons p m ih =>
      show (Selection.ofData (.str p.1) (data p.2) >>= fun s =>
        Selections.ofPairs (keyed (m.map fun p => (p.1, data p.2))) >>= fun rest =>
          pure ((.str p.1, s) :: rest)) = _
      rw [hdata, ih]
      rfl
  have hget : Ordered.get? (keyed fields) (.str "selections") =
      some (.map (keyed (m.map fun p => (p.1, data p.2)))) := by
    rw [Ordered.get?_keyed, h]
    rfl
  rw [show Data.object fields = .map (keyed fields) from rfl, Selections.ofDocument, hget]
  exact hpairs

end Dictionary

/-! ## writing -/

theorem fits_textData {indent : Nat} (h : indent + 2 < Yaml.lineWidth) (t : Option String) :
    Yaml.Fits indent (textData t) := by
  cases t with
  | none => exact .null h
  | some s => exact .str h s

theorem Choice.fits (c : Choice) {indent : Nat} (h : indent + 4 < Yaml.lineWidth) :
    Yaml.Fits indent c.toData := by
  have hnames : ∀ k ∈ ["included", "custom_title", "custom_description"], Yaml.IsName k := by
    decide
  have hkeys : ["included", "custom_title", "custom_description"].Nodup := by decide
  refine .object (fun _ => h) ?_ hkeys ?_
  · intro f hf
    exact (hnames _ (List.mem_map_of_mem hf)).fitsKey
  · intro f hf
    simp only [List.mem_cons, List.not_mem_nil, or_false] at hf
    rcases hf with rfl | rfl | rfl
    · exact .bool h _
    · exact fits_textData h _
    · exact fits_textData h _

theorem Dictionary.fits {m : Dictionary} (hnames : ∀ p ∈ m, Yaml.FitsKey p.1)
    (hkeys : (m.map (·.1)).Nodup) {indent : Nat} (h : indent + 6 < Yaml.lineWidth) :
    Yaml.Fits indent (.object m.fields) := by
  refine .object (fun _ => by omega) ?_ (m.keys_fields ▸ hkeys) ?_
  · intro f hf
    obtain ⟨p, hp, rfl⟩ := List.mem_map.mp hf
    exact hnames p hp
  · intro f hf
    obtain ⟨p, _, rfl⟩ := List.mem_map.mp hf
    exact p.2.fits h

theorem Choices.fits (m : Choices) {indent : Nat} (h : indent + 6 < Yaml.lineWidth) :
    Yaml.Fits indent (.object m.pairs.fields) :=
  m.pairs.fits (fun p hp => (m.proper.ids p hp).isName.fitsKey) m.proper.distinct h

end Apidoc
