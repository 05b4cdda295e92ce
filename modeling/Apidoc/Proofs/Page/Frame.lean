import Apidoc.Page.Frame
import Apidoc.Proofs.Page.Tags

/-!
# The tags of what pages have in common

The head of a document links to the style sheet, the buttons of an editable page have anchors, and
check boxes have neither.
-/

namespace Apidoc.Html

open Markup

theorem toList_beq_toList (s t : String) : (s.toList == t.toList) = (s == t) := by
  rw [Bool.eq_iff_iff, beq_iff_eq, beq_iff_eq, String.toList_inj]

theorem Tag.has_of (name : String) (attrs : List (String × String)) (key : String) :
    (Tag.of name attrs).has key = attrs.any fun a => a.1 == key := by
  simp only [Tag.has, Tag.of, List.any_map, Function.comp_def, toList_beq_toList]

theorem Tag.values_of (name : String) (attrs : List (String × String)) (key : String) :
    (Tag.of name attrs).values key = (attrs.filter fun a => a.1 == key).map (·.2) := by
  simp [Tag.values, Tag.of, List.filter_map, Function.comp_def, toList_beq_toList]

theorem Tag.kind?_of {name : String} (h : name ≠ "section" ∧ name ≠ "div")
    (attrs : List (String × String)) : (Tag.of name attrs).kind? = none := by
  have hname (b : String × String × Kind) (hb : b ∈ blockClasses) : (name == b.1) = false := by
    simp only [blockClasses, List.mem_cons, List.not_mem_nil, or_false] at hb
    rcases hb with rfl | rfl | rfl
    · exact beq_eq_false_iff_ne.mpr h.1
    · exact beq_eq_false_iff_ne.mpr h.2
    · exact beq_eq_false_iff_ne.mpr h.2
  rw [Tag.kind?, Option.map_eq_none_iff, List.find?_eq_none]
  intro b hb
  rw [show (Tag.of name attrs).name = name.toList from rfl, toList_beq_toList, hname b hb]
  exact Bool.false_ne_true

/-- The kind of component that an element with a class and an anchor documents. -/
theorem Tag.kind?_of_classed (name cls anchor : String) :
    (Tag.of name [("class", cls), ("id", anchor)]).kind? =
      (Tag.blockClasses.find? fun b =>
        name == b.1 && (Text.splitOn ' ' cls.toList).contains b.2.1.toList).map (·.2.2) := by
  have hclass (c : String) : (Tag.of name [("class", cls), ("id", anchor)]).hasClass c =
      (Text.splitOn ' ' cls.toList).contains c.toList := by
    rw [Tag.hasClass, Tag.of, List.map_cons, List.any_cons, List.map_cons, List.any_cons,
      List.map_nil, List.any_nil, toList_beq_toList, toList_beq_toList]
    exact Bool.or_false _
  have hname : (Tag.of name [("class", cls), ("id", anchor)]).name = name.toList := rfl
  simp only [Tag.kind?, hclass, hname, toList_beq_toList]

theorem Tag.block?_of {name : String} (h : name ≠ "section" ∧ name ≠ "div")
    (attrs : List (String × String)) : (Tag.of name attrs).block? = none := by
  rw [Tag.block?, Tag.kind?_of h, Option.map_none]

theorem Tag.block?_of_classed {name cls : String} {k : Kind} (anchor : String)
    (h : (Tag.blockClasses.find? fun b =>
      name == b.1 && (Text.splitOn ' ' cls.toList).contains b.2.1.toList).map (·.2.2) = some k) :
    (Tag.of name [("class", cls), ("id", anchor)]).block? = some (k, some anchor) := by
  rw [Tag.block?, Tag.kind?_of_classed, h, Tag.values_of]
  rfl

theorem Tag.isMarked_of {name : String} (h : name ≠ "section" ∧ name ≠ "div")
    (attrs : List (String × String)) :
    (Tag.of name attrs).isMarked = (attrs.any (fun a => a.1 == "id") || attrs.any fun a =>
      a.1 == "href") := by
  rw [Tag.isMarked, Tag.has_of, Tag.has_of, Tag.kind?_of h, Option.isSome_none, Bool.or_false]

theorem Tag.isMarked_of_id {name : String} {attrs : List (String × String)}
    (h : attrs.any (fun a => a.1 == "id") = true) : (Tag.of name attrs).isMarked = true := by
  rw [Tag.isMarked, Tag.has_of, h, Bool.true_or, Bool.true_or]

/-! ## what the marked tags of a page say -/

theorem values_of_not_has {t : Tag} {key : String} (h : t.has key = false) : t.values key = [] := by
  rw [Tag.has, List.any_eq_false] at h
  rw [Tag.values, List.filter_eq_nil_iff.mpr h, List.map_nil]

theorem values_of_unmarked {t : Tag} (h : t.isMarked = false) :
    t.values "id" = [] ∧ t.values "href" = [] ∧ t.kind? = none := by
  simp only [Tag.isMarked, Bool.or_eq_false_iff, Option.isSome_eq_false_iff,
    Option.isNone_iff_eq_none] at h
  exact ⟨values_of_not_has h.1.1, values_of_not_has h.1.2, h.2⟩

theorem flatMap_filter_isMarked {α : Type} {f : Tag → List α}
    (hf : ∀ t, t.isMarked = false → f t = []) (ts : List Tag) :
    (ts.filter Tag.isMarked).flatMap f = ts.flatMap f := by
  induction ts with
  | nil => rfl
  | cons t ts ih =>
    rw [List.flatMap_cons, List.filter_cons]
    by_cases h : t.isMarked = true
    · rw [if_pos h, List.flatMap_cons, ih]
    · rw [if_neg h, ih, hf t (Bool.eq_false_iff.mpr h), List.nil_append]

theorem anchors_of_shows {m : Markup} {ts : List Tag} (h : Shows m ts) :
    anchors m.render = ts.flatMap fun t => t.values "id" := by
  obtain ⟨hts, _⟩ := Prod.mk.inj h
  rw [anchors, tags, toList_render, ← hts]
  exact (flatMap_filter_isMarked (fun t ht => (values_of_unmarked ht).1) _).symm

theorem links_of_shows {m : Markup} {ts : List Tag} (h : Shows m ts) :
    links m.render = ts.flatMap Tag.targets := by
  obtain ⟨hts, _⟩ := Prod.mk.inj h
  rw [links, tags, toList_render, ← hts]
  refine (flatMap_filter_isMarked (fun t ht => ?_) _).symm
  rw [Tag.targets, (values_of_unmarked ht).2.1, ite_self]

theorem blocks_of_shows {m : Markup} {ts : List Tag} (h : Shows m ts) :
    blocks m.render = ts.filterMap Tag.block? := by
  obtain ⟨hts, _⟩ := Prod.mk.inj h
  have hblock (t : Tag) (ht : t.isMarked = false) : t.block? = none := by
    rw [Tag.block?, (values_of_unmarked ht).2.2, Option.map_none]
  rw [blocks, tags, toList_render, ← hts, List.filterMap_filter]
  congr 1
  funext t
  by_cases ht : t.isMarked = true
  · rw [if_pos ht]
  · rw [if_neg ht]
    exact hblock t (Bool.eq_false_iff.mpr ht)

namespace Reads

theorem close_marked {t : Tag} (h : t.isMarked = true) : Reads (.inside t) (raw ">") [t] .text := by
  have hc := close t
  rwa [if_pos h] at hc

theorem close_unmarked {t : Tag} (h : t.isMarked = false) :
    Reads (.inside t) (raw ">") [] .text := by
  have hc := close t
  rwa [h] at hc

theorem close_then {t : Tag} {l : List Char} {us : List Tag} (ht : t.isMarked = false)
    (h : ((scan .text l).1.filter Tag.isMarked, (scan .text l).2) = (us, .text)) :
    Reads (.inside t) (raw (String.ofList ('>' :: l))) us .text := by
  apply literal
  show (List.filter Tag.isMarked (t :: (scan .text l).1), (scan .text l).2) = _
  rw [List.filter_cons_of_neg (by rw [ht]; exact Bool.false_ne_true)]
  exact h

/-! ## attributes by their names -/

variable {tag value : String} {attrs : List (String × String)}

theorem attr_id : Reads (.inside (.of tag attrs)) (Markup.attr "id" value) []
    (.inside (.of tag (attrs ++ [("id", value)]))) := .attr (by decide) (by decide) ..

theorem attr_class : Reads (.inside (.of tag attrs)) (Markup.attr "class" value) []
    (.inside (.of tag (attrs ++ [("class", value)]))) := .attr (by decide) (by decide) ..

theorem attr_href : Reads (.inside (.of tag attrs)) (Markup.attr "href" value) []
    (.inside (.of tag (attrs ++ [("href", value)]))) := .attr (by decide) (by decide) ..

end Reads

/-! ## the frame of a page -/

def styleLink (base : String) : Tag :=
  .of "link" [("rel", "stylesheet"), ("href", base ++ "style.css")]

theorem documentHead_shows (base : String) {title : Markup} (h : Shows title []) :
    Shows (documentHead base title) [styleLink base] := by
  have hstart : Shows (raw "<!DOCTYPE html>") [] := by
    apply Reads.literal
    rfl
  have hmeta : Shows (lines [(0, "<html lang=\"en\">"), (0, "<head>"),
    (4, "<meta charset=\"UTF-8\">"),
      (4, "<meta name=\"viewport\" content=\"width=device-width, initial-scale=1.0\">")]) [] := by
    refine .lines_skip ?_ (.lines_skip ?_ (.lines_skip ?_ (.lines_skip ?_ .lines_nil)))
    all_goals
      apply Reads.literal
      rfl
  have htitle : Shows (raw "<title>" ++ title ++ raw "</title>") [] := by
    refine (Reads.before ?_ h).before ?_
    all_goals
      apply Reads.literal
      rfl
  have hlink : Shows (raw "<link rel=\"stylesheet\" " ++
    attr "href" (base ++ "style.css") ++ raw ">")
      [styleLink base] := by
    have hopen : Reads .text (raw "<link rel=\"stylesheet\" ") []
        (.inside (.of "link" [("rel", "stylesheet")])) := by
      apply Reads.literal
      rfl
    exact (hopen.before .attr_href).before (.close_marked (Tag.isMarked_of (by decide) _))
  have hend : Shows (raw "</head>") [] := by
    apply Reads.literal
    rfl
  exact (((hstart.before hmeta).before (.line htitle)).before (.line hlink)).after (.line hend)

theorem bodyStart_shows (editable : Bool) : Shows (bodyStart editable) [] := by
  have hopen : Reads .text (raw "<body") [] (.name "body".toList) := by
    apply Reads.literal
    rfl
  refine .line ?_
  cases editable with
  | false =>
    refine (hopen.before .nil).before ?_
    apply Reads.literal
    rfl
  | true =>
    have hclass : Reads (.name "body".toList) (raw " class=\"editable-mode\"") []
        (.inside (.of "body" [("class", "editable-mode")])) := by
      apply Reads.literal
      rfl
    exact (hopen.before hclass).before (.close_unmarked (Tag.isMarked_of (by decide) _))

theorem documentEnd_shows (base : String) : Shows (documentEnd base) [] := by
  have hmain : Shows (raw "</main>") [] := by
    apply Reads.literal
    rfl
  have hscript : Shows (raw "<script " ++ attr "src" (base ++ "script.js") ++ raw "></script>")
      [] := by
    have hopen : Reads .text (raw "<script ") [] (.inside (.of "script" [])) := by
      apply Reads.literal
      rfl
    have hsrc : Reads (.inside (.of "script" [])) (attr "src" (base ++ "script.js")) []
        (.inside (.of "script" [("src", base ++ "script.js")])) := .attr (by decide) (by decide) ..
    refine (hopen.before hsrc).before ?_
    apply Reads.close_then
    · exact Tag.isMarked_of (by decide) _
    · rfl
  have hend : Shows (lines [(0, "</body>"), (0, "</html>")]) [] := by
    refine .lines_skip ?_ (.lines_skip ?_ .lines_nil)
    all_goals
      apply Reads.literal
      rfl
  exact ((Reads.line hmain).before (.line hscript)).before hend

/-! ## controls of editable pages -/

def controlTags : List Tag :=
  [.of "button" [("id", "select-all-btn"), ("class", "edit-btn")],
   .of "button" [("id", "deselect-all-btn"), ("class", "edit-btn")],
   .of "button" [("id", "export-selections-btn"), ("class", "edit-btn primary")]]

theorem editControls_shows {hint : Markup} (h : Shows hint []) :
    Shows (editControls hint) controlTags := by
  have hbuttons : Shows (lines [(8, "<div class=\"edit-controls\">"),
    (12, "<h3>Selection Controls</h3>"),
      (12, "<div class=\"edit-buttons\">"),
      (16, "<button id=\"select-all-btn\" class=\"edit-btn\">Select All</button>"),
      (16, "<button id=\"deselect-all-btn\" class=\"edit-btn\">Deselect All</button>"),
        (12, "</div>"),
      (12, "<div class=\"edit-buttons\">"),
      (16, "<button id=\"export-selections-btn\" class=\"edit-btn primary\">Export Selections</button>"),
      (12, "</div>")]) controlTags := by
    refine .lines_skip ?_ (.lines_skip ?_ (.lines_skip ?_
      (.lines_mark ?_ (.lines_mark ?_ (.lines_skip ?_ (.lines_skip ?_
        (.lines_mark ?_ (.lines_skip ?_ .lines_nil))))))))
    all_goals
      apply Reads.literal
      rfl
  have hend : Shows (raw "</div>") [] := by
    apply Reads.literal
    rfl
  exact (hbuttons.after h).after (.line hend)

def boxTag (id kind title : String) : Tag :=
  .of "input" [("type", "checkbox"), ("class", "component-checkbox"), ("data-id", id),
    ("data-type", kind), ("data-title", title)]

theorem checkbox_shows (indent : Nat) (id kind title : String) (checked : Bool) :
    Shows (checkbox indent id kind title checked) [] := by
  have hopen : Reads .text (raw "<input type=\"checkbox\" class=\"component-checkbox\"") []
      (.inside (.of "input" [("type", "checkbox"), ("class", "component-checkbox")])) := by
    apply Reads.literal
    rfl
  have hunmarked : (boxTag id kind title).isMarked = false := Tag.isMarked_of (by decide) _
  have hlast : Reads (.inside (boxTag id kind title))
      ((if checked then raw "checked" else []) ++ raw ">") [] .text := by
    cases checked with
    | false => exact Reads.nil.before (.close_unmarked hunmarked)
    | true =>
      have hword : Reads (.inside (boxTag id kind title)) (raw "checked") []
          (.attr (boxTag id kind title) "checked".toList) := by
        apply Reads.literal
        rfl
      have hclose : Reads (.attr (boxTag id kind title) "checked".toList) (raw ">") [] .text := by
        have hadd : ((boxTag id kind title).add "checked".toList "".toList).isMarked = false := by
          rw [boxTag, Tag.add_of, Tag.isMarked_of (by decide)]
          rfl
        apply Reads.literal
        show (List.filter Tag.isMarked [(boxTag id kind title).add "checked".toList "".toList], _) =
          _
        rw [List.filter_cons_of_neg (by rw [hadd]; exact Bool.false_ne_true)]
        rfl
      exact hword.before hclose
  refine ((((Reads.line hopen).before (.line_inside (.attr ?_ ?_ ..))).before
    (.line_inside (.attr ?_ ?_ ..))).before (.line_inside (.attr ?_ ?_ ..))).before
      (.line_inside hlast)
  all_goals decide

theorem linkStart_shows (url : String) :
    Shows (raw "<a " ++ attr "href" url ++ raw ">") [.of "a" [("href", url)]] := by
  have hopen : Reads .text (raw "<a ") [] (.inside (.of "a" [])) := by
    apply Reads.literal
    rfl
  exact (hopen.before .attr_href).before (.close_marked (Tag.isMarked_of (by decide) _))

theorem linkEnd_shows : Shows (raw "</a>") [] := by
  apply Reads.literal
  rfl

theorem link_shows (url : String) {m : Markup} (h : Shows m []) :
    Shows (link url m) [.of "a" [("href", url)]] :=
  ((linkStart_shows url).after h).after linkEnd_shows

theorem checkedLink_shows (editable : Bool) (indent : Nat) {box link : Nat → Markup} {ts : List Tag}
    (hbox : ∀ n, Shows (box n) []) (hlink : ∀ n, Shows (link n) ts) :
    Shows (checkedLink editable indent box link) ts := by
  have hlabel : Shows (raw "<label class=\"toc-checkbox-label\">") [] := by
    apply Reads.literal
    rfl
  have hend : Shows (raw "</label>") [] := by
    apply Reads.literal
    rfl
  have h : Shows (checkedLink editable indent box link) (if editable then ts else ts) :=
    .either ((((Reads.line hlabel).before (hbox _)).before (hlink _)).after (.line hend)) (hlink _)
  rwa [ite_self] at h

end Apidoc.Html
