import Apidoc.Component.Basic
import Apidoc.Page.Fragment

/-!
# The tags of a text

A page is written as text, and whoever follows a link reads that text.  Here a text is read back as
the list of its tags:

* `unescape`   undoes the references in which special characters are written;
* `step`       reads one character; a `Mode` says whether the reader stands between tags or where in
               one;
* `tags`       all tags of a text, end tags included (their names start with a slash);
* `links`, `anchors`, `blocks`   what is found by the tags: targets of links, anchors, and the
                                 elements that document a class, a method or a function.

A tag is *marked* if it has an anchor or a target or starts such an element.  `Reads a m ts b` says
what a reader in mode `a` makes of markup `m`: it meets the marked tags `ts`, in order, and is left
in mode `b`.  Text that is escaped neither opens a tag nor ends a value, so what is read depends on
the markup alone (`Reads.text`, `Reads.attr`), and reading goes piece by piece (`Reads.append`).
-/

namespace Apidoc.Html

/-! ## reading -/

structure Tag where
  name : List Char
  attrs : List (List Char × List Char)
  deriving DecidableEq, Repr

namespace Tag

def add (t : Tag) (name value : List Char) : Tag := { t with attrs := t.attrs ++ [(name, value)] }

def of (name : String) (attrs : List (String × String)) : Tag :=
  ⟨name.toList, attrs.map fun a => (a.1.toList, a.2.toList)⟩

def has (t : Tag) (name : String) : Bool := t.attrs.any fun a => a.1 == name.toList

def values (t : Tag) (name : String) : List String :=
  (t.attrs.filter fun a => a.1 == name.toList).map fun a => String.ofList a.2

def hasClass (t : Tag) (c : String) : Bool :=
  t.attrs.any fun a => a.1 == "class".toList && (Text.splitOn ' ' a.2).contains c.toList

/-- the elements that document a component, with their classes -/
def blockClasses : List (String × String × Kind) :=
  [("section", "class-section", .classDef), ("div", "method", .method),
    ("div", "function", .function)]

/-- the kind of component that an element documents -/
def kind? (t : Tag) : Option Kind :=
  (blockClasses.find? fun b => t.name == b.1.toList && t.hasClass b.2.1).map (·.2.2)

/-- the targets that a tag links to -/
def targets (t : Tag) : List String := if t.name == "a".toList then t.values "href" else []

/-- the component that the element of a tag documents: its kind, and the anchor if there is one -/
def block? (t : Tag) : Option (Kind × Option String) :=
  t.kind?.map fun k => (k, (t.values "id").head?)

def isMarked (t : Tag) : Bool := t.has "id" || t.has "href" || t.kind?.isSome

end Tag

/-- Undoes the references for special characters. -/
def unescape : List Char → List Char
  | '&' :: 'a' :: 'm' :: 'p' :: ';' :: cs => '&' :: unescape cs
  | '&' :: 'l' :: 't' :: ';' :: cs => '<' :: unescape cs
  | '&' :: 'g' :: 't' :: ';' :: cs => '>' :: unescape cs
  | '&' :: '#' :: '3' :: '4' :: ';' :: cs => '"' :: unescape cs
  | '&' :: '#' :: '3' :: '9' :: ';' :: cs => '\'' :: unescape cs
  | '&' :: 'q' :: 'u' :: 'o' :: 't' :: ';' :: cs => '"' :: unescape cs
  | '&' :: '#' :: 'x' :: '2' :: '7' :: ';' :: cs => '\'' :: unescape cs
  | c :: cs => c :: unescape cs
  | [] => []

/-- where a reader stands -/
inductive Mode where
  /-- between tags -/
  | text
  /-- in the name of a tag -/
  | name (cs : List Char)
  /-- in a tag, between its attributes -/
  | inside (t : Tag)
  /-- in the name of an attribute -/
  | attr (t : Tag) (cs : List Char)
  /-- before the value of an attribute -/
  | equals (t : Tag) (cs : List Char)
  /-- in the value of an attribute -/
  | value (t : Tag) (cs vs : List Char)
  deriving DecidableEq, Repr

def isGap (c : Char) : Bool := c == ' ' || c == '\n' || c == '\t' || c == '\r' || c == '\x0c'

/-- One character: the tag it ends, if it ends one, and where the reader stands then. -/
def step : Mode → Char → Option Tag × Mode
  | .text, c => if c = '<' then (none, .name []) else (none, .text)
  | .name cs, c =>
    if c = '>' then (some ⟨cs, []⟩, .text)
    else if isGap c then (none, .inside ⟨cs, []⟩)
    else (none, .name (cs ++ [c]))
  | .inside t, c =>
    if c = '>' then (some t, .text)
    else if isGap c then (none, .inside t)
    else (none, .attr t [c])
  | .attr t cs, c =>
    if c = '=' then (none, .equals t cs)
    else if c = '>' then (some (t.add cs []), .text)
    else if isGap c then (none, .inside (t.add cs []))
    else (none, .attr t (cs ++ [c]))
  | .equals t cs, c => if c = '"' then (none, .value t cs []) else (none, .equals t cs)
  | .value t cs vs, c =>
    if c = '"' then (none, .inside (t.add cs (unescape vs))) else (none, .value t cs (vs ++ [c]))

/-- the tags that a reader meets, and where it stands after them -/
def scan : Mode → List Char → List Tag × Mode
  | m, [] => ([], m)
  | m, c :: cs =>
    match step m c with
    | (t, m') => (t.toList ++ (scan m' cs).1, (scan m' cs).2)

def tags (text : String) : List Tag := (scan .text text.toList).1

def anchors (text : String) : List String := (tags text).flatMap fun t => t.values "id"

def links (text : String) : List String := (tags text).flatMap Tag.targets

def blocks (text : String) : List (Kind × Option String) := (tags text).filterMap Tag.block?

/-! ## reading piece by piece -/

theorem scan_append (m : Mode) (xs ys : List Char) :
    scan m (xs ++ ys) = ((scan m xs).1 ++ (scan (scan m xs).2 ys).1,
      (scan (scan m xs).2 ys).2) := by
  induction xs generalizing m with
  | nil => rfl
  | cons c cs ih => simp only [List.cons_append, scan, ih, List.append_assoc]

/-- Characters that neither end a tag nor change the mode of a reader are passed over. -/
theorem scan_stay {m : Mode} {cs : List Char} (h : ∀ c ∈ cs, step m c = (none, m)) :
    scan m cs = ([], m) := by
  induction cs with
  | nil => rfl
  | cons c cs ih =>
    have hc := h c (List.mem_cons_self ..)
    have hcs := ih fun d hd => h d (List.mem_cons_of_mem _ hd)
    simp only [scan, hc, hcs, Option.toList_none, List.nil_append]

end Apidoc.Html

namespace Apidoc.Markup

def chars (m : Markup) : List Char := m.flatMap fun f => f.render.toList

theorem chars_append (m n : Markup) : chars (m ++ n) = chars m ++ chars n := List.flatMap_append

theorem toList_render (m : Markup) : m.render.toList = chars m := by
  unfold render chars
  rw [String.toList_intercalate, List.map_map]
  induction m with
  | nil => rfl
  | cons f m ih =>
    rw [List.map_cons, List.flatMap_cons, ← ih]
    cases m with
    | nil => simp
    | cons g m => simp [List.intercalate]

end Apidoc.Markup

namespace Apidoc.Html

open Markup

/-- A reader in mode `a` meets the marked tags `ts` in some markup and is left in mode `b`. -/
def Reads (a : Mode) (m : Markup) (ts : List Tag) (b : Mode) : Prop :=
  ((scan a (chars m)).1.filter Tag.isMarked, (scan a (chars m)).2) = (ts, b)

abbrev Shows (m : Markup) (ts : List Tag) : Prop := Reads .text m ts .text

namespace Reads

variable {a b c : Mode} {m n : Markup} {ts us : List Tag}

theorem nil : Reads a [] [] a := rfl

theorem append (hm : Reads a m ts b) (hn : Reads b n us c) : Reads a (m ++ n) (ts ++ us) c := by
  obtain ⟨hts, hb⟩ := Prod.mk.inj hm
  obtain ⟨hus, hc⟩ := Prod.mk.inj hn
  unfold Reads
  rw [chars_append, scan_append, hb, List.filter_append, hts, hus, hc]

theorem before (hm : Reads a m [] b) (hn : Reads b n us c) : Reads a (m ++ n) us c := hm.append hn

theorem after (hm : Reads a m ts b) (hn : Reads b n [] c) : Reads a (m ++ n) ts c := by
  have h := hm.append hn
  rwa [List.append_nil] at h

theorem ite {p : Bool} (hm : Reads a m ts b) (hn : Reads a n us b) :
    Reads a (if p then m else n) (if p then ts else us) b := by
  cases p
  · exact hn
  · exact hm

theorem flatMap {α : Type} {f : α → Markup} {g : α → List Tag} {xs : List α}
    (h : ∀ x ∈ xs, Reads a (f x) (g x) a) : Reads a (xs.flatMap f) (xs.flatMap g) a := by
  induction xs with
  | nil => exact nil
  | cons x xs ih =>
    rw [List.flatMap_cons, List.flatMap_cons]
    exact (h x (List.mem_cons_self ..)).append (ih fun y hy => h y (List.mem_cons_of_mem _ hy))

end Reads

/-! Between two pieces that are read one by one the mode is known, so a page can be taken apart from
its end. -/

namespace Shows

variable {b : Mode} {m n : Markup} {ts us : List Tag}

theorem append (hm : Shows m ts) (hn : Reads .text n us b) : Reads .text (m ++ n) (ts ++ us) b :=
  Reads.append hm hn

theorem after (hm : Shows m ts) (hn : Reads .text n [] b) : Reads .text (m ++ n) ts b :=
  Reads.after hm hn

theorem before (hm : Shows m []) (hn : Reads .text n us b) : Reads .text (m ++ n) us b :=
  Reads.before hm hn

end Shows

/-! ## escaped text -/

theorem not_special_of_mem_escapeChar {c d : Char} (h : d ∈ Fragment.escapeChar c) :
    d ≠ '<' ∧ d ≠ '>' ∧ d ≠ '"' ∧ d ≠ '\'' := by
  have hall : (Fragment.escapeChar c).all (fun d => d != '<' && d != '>' && d != '"' && d != '\'') =
      true := by
    unfold Fragment.escapeChar
    split
    case h_6 h2 h3 h4 h5 =>
      simp only [List.all_cons, List.all_nil, Bool.and_true, Bool.and_eq_true, bne_iff_ne]
      exact ⟨⟨⟨h2, h3⟩, h4⟩, h5⟩
    all_goals rfl
  have hd := List.all_eq_true.mp hall d h
  simpa [and_assoc] using hd

theorem not_special_of_mem_escape {s : String} {c : Char} (h : c ∈ (Fragment.escape s).toList) :
    c ≠ '<' ∧ c ≠ '>' ∧ c ≠ '"' ∧ c ≠ '\'' := by
  rw [Fragment.escape, String.toList_ofList] at h
  obtain ⟨d, _, hc⟩ := List.mem_flatMap.mp h
  exact not_special_of_mem_escapeChar hc

theorem unescape_cons {c : Char} (h : c ≠ '&') (cs : List Char) :
    unescape (c :: cs) = c :: unescape cs := by
  rw [unescape.eq_8]
  all_goals
    intro _ hc
    exact absurd hc h

theorem unescape_escapeChar (c : Char) (cs : List Char) :
    unescape (Fragment.escapeChar c ++ cs) = c :: unescape cs := by
  unfold Fragment.escapeChar
  split
  case h_6 hc _ _ _ _ => exact unescape_cons hc cs
  all_goals rfl

theorem unescape_escape (s : String) : unescape (Fragment.escape s).toList = s.toList := by
  rw [Fragment.escape, String.toList_ofList]
  induction s.toList with
  | nil => rfl
  | cons c cs ih => rw [List.flatMap_cons, unescape_escapeChar, ih]

/-! ## text and attributes -/

theorem Reads.text (s : String) : Shows (Markup.text s) [] := by
  have h : scan .text (chars (Markup.text s)) = ([], .text) := by
    refine scan_stay fun c hc => ?_
    have hc' : c ∈ (Fragment.escape s).toList := by
      simpa [chars, Markup.text, Fragment.render] using hc
    exact if_neg (not_special_of_mem_escape hc').1
  unfold Shows Reads
  rw [h]
  rfl

theorem Reads.enclosed {start finish : String} (hs : Shows (raw start) [])
    (hf : Shows (raw finish) []) (s : String) :
    Shows (raw start ++ Markup.text s ++ raw finish) [] :=
  (hs.before (.text s)).before hf

/-- Characters that make up the name of an attribute. -/
def isAttrChar (c : Char) : Bool := c != '=' && c != '>' && !isGap c

theorem scan_attrName {cs : List Char} (h : cs.all isAttrChar) (t : Tag) (done : List Char) :
    scan (.attr t done) cs = ([], .attr t (done ++ cs)) := by
  induction cs generalizing done with
  | nil => rw [List.append_nil]; rfl
  | cons c cs ih =>
    simp only [List.all_cons, isAttrChar, Bool.and_eq_true, bne_iff_ne, Bool.not_eq_true'] at h
    obtain ⟨⟨⟨heq, hgt⟩, hgap⟩, hcs⟩ := h
    have hstep : step (.attr t done) c = (none, .attr t (done ++ [c])) := by
      simp only [step, heq, hgt, hgap, if_false, Bool.false_eq_true]
    rw [scan, hstep]
    simp only [ih hcs, Option.toList_none, List.nil_append, List.append_assoc,
      List.singleton_append]

theorem scan_value {vs : List Char} (h : ∀ c ∈ vs, c ≠ '"') (t : Tag) (cs done : List Char) :
    scan (.value t cs done) vs = ([], .value t cs (done ++ vs)) := by
  induction vs generalizing done with
  | nil => rw [List.append_nil]; rfl
  | cons v vs ih =>
    have hstep : step (.value t cs done) v = (none, .value t cs (done ++ [v])) :=
      if_neg (h v (List.mem_cons_self ..))
    rw [scan, hstep]
    simp only [ih fun c hc => h c (List.mem_cons_of_mem _ hc), Option.toList_none, List.nil_append,
      List.append_assoc, List.singleton_append]

/-- An attribute adds its name and its own value, whatever that holds, to the tag it stands in. -/
theorem Reads.attr_add {name : String} (hne : name.toList ≠ []) (hname : name.toList.all isAttrChar)
    (t : Tag) (value : String) :
    Reads (.inside t) (Markup.attr name value) [] (.inside (t.add name.toList value.toList)) := by
  have hchars : chars (Markup.attr name value)
      = name.toList ++ ('=' :: '"' :: ((Fragment.escape value).toList ++ ['"'])) := by
    simp [chars, Markup.attr, Fragment.render]
  obtain ⟨c, cs, hc⟩ := List.exists_cons_of_ne_nil hne
  rw [hc] at hname hchars ⊢
  simp only [List.all_cons, Bool.and_eq_true] at hname
  have hfirst : step (.inside t) c = (none, .attr t [c]) := by
    have h := hname.1
    simp only [isAttrChar, Bool.and_eq_true, bne_iff_ne, Bool.not_eq_true'] at h
    simp only [step, h.1.2, h.2, if_false, Bool.false_eq_true]
  have hvalue : scan (.value t (c :: cs) []) (Fragment.escape value).toList
      = ([], .value t (c :: cs) ([] ++ (Fragment.escape value).toList)) :=
    scan_value (fun d hd => (not_special_of_mem_escape hd).2.2.1) ..
  have hall : scan (.inside t) (chars (Markup.attr name value))
      = ([], .inside (t.add (c :: cs) value.toList)) := by
    rw [hchars, List.cons_append, scan, hfirst]
    simp only [scan_append, scan_attrName hname.2, Option.toList_none, List.nil_append,
      List.singleton_append]
    simp only [scan, step, if_true, scan_append, hvalue, Option.toList_none, List.nil_append,
      unescape_escape]
  unfold Reads
  rw [hall]
  rfl

theorem Tag.add_of (tag : String) (attrs : List (String × String)) (name value : String) :
    (Tag.of tag attrs).add name.toList value.toList = .of tag (attrs ++ [(name, value)]) := by
  simp [Tag.of, Tag.add]

theorem Reads.attr {name : String} (hne : name.toList ≠ []) (hname : name.toList.all isAttrChar)
    (tag : String) (attrs : List (String × String)) (value : String) :
    Reads (.inside (.of tag attrs)) (Markup.attr name value) []
      (.inside (.of tag (attrs ++ [(name, value)]))) := by
  have h := Reads.attr_add hne hname (.of tag attrs) value
  rwa [Tag.add_of] at h

/-- Markup that is given letter by letter is read by evaluation.  A literal is the list of its
letters by definition, so this avoids decoding it. -/
theorem Reads.literal {a b : Mode} {ts : List Tag} {l : List Char}
    (h : ((scan a l).1.filter Tag.isMarked, (scan a l).2) = (ts, b)) :
    Reads a (raw (String.ofList l)) ts b := by
  unfold Reads
  rw [show chars (raw (String.ofList l)) = l by simp [chars, raw, Fragment.render]]
  exact h

theorem Reads.space (t : Tag) : Reads (.inside t) (raw " ") [] (.inside t) := by
  apply Reads.literal
  rfl

theorem Reads.close (t : Tag) :
    Reads (.inside t) (raw ">") (if t.isMarked then [t] else []) .text := by
  apply Reads.literal
  show (List.filter _ [t], Mode.text) = _
  rw [List.filter_cons, List.filter_nil]

/-! ## layout -/

theorem scan_gap {a : Mode} (hn : step a '\n' = (none, a)) (hb : step a ' ' = (none, a)) (n : Nat) :
    scan a (chars (gap n)) = ([], a) := by
  have hchars : chars (gap n) = '\n' :: List.replicate n ' ' := by
    simp [chars, gap, raw, blanks, Fragment.render]
  rw [hchars]
  refine scan_stay fun c hc => ?_
  rcases List.mem_cons.mp hc with rfl | hc
  · exact hn
  · rw [List.eq_of_mem_replicate hc]
    exact hb

namespace Reads

theorem gap (n : Nat) : Shows (Markup.gap n) [] := by
  unfold Shows Reads
  rw [scan_gap rfl rfl]
  rfl

theorem gap_inside (t : Tag) (n : Nat) : Reads (.inside t) (Markup.gap n) [] (.inside t) := by
  unfold Reads
  rw [scan_gap rfl rfl]
  rfl

variable {m n : Markup} {ts us : List Tag} {k : Nat}

theorem line {b : Mode} (hm : Reads .text m ts b) : Reads .text (Markup.line k m) ts b :=
  (gap k).before hm

theorem line_inside {t : Tag} {b : Mode} (hm : Reads (.inside t) m ts b) :
    Reads (.inside t) (Markup.line k m) ts b := (gap_inside t k).before hm

theorem lines_nil : Shows (Markup.lines []) [] := nil

theorem lines_cons {s : String} {ls : List (Nat × String)} (hs : Shows (raw s) ts)
    (hls : Shows (Markup.lines ls) us) : Shows (Markup.lines ((k, s) :: ls)) (ts ++ us) :=
  (line hs).append hls

/-- A line with one marked tag before other lines. -/
theorem lines_mark {s : String} {t : Tag} {ls : List (Nat × String)} (hs : Shows (raw s) [t])
    (hls : Shows (Markup.lines ls) us) : Shows (Markup.lines ((k, s) :: ls)) (t :: us) :=
  lines_cons hs hls

theorem lines_skip {s : String} {ls : List (Nat × String)} (hs : Shows (raw s) [])
    (hls : Shows (Markup.lines ls) us) : Shows (Markup.lines ((k, s) :: ls)) us := lines_cons hs hls

theorem optional {p : Bool} (hm : Shows m ts) :
    Shows (Markup.optional k p m) (if p then ts else []) :=
  (gap k).before (.ite (hm.after (gap k)) .nil)

/-- Something that shows no marked tag may as well be left out. -/
theorem optional_nil {p : Bool} (hm : Shows m []) : Shows (Markup.optional k p m) [] := by
  have h := optional (k := k) (p := p) hm
  rwa [ite_self] at h

theorem either {p : Bool} (hm : Shows m ts) (hn : Shows n us) :
    Shows (Markup.either k p m n) (if p then ts else us) :=
  ((gap k).before (.ite hm hn)).after (gap k)

theorem each {α : Type} {f : α → Markup} {g : α → List Tag} {xs : List α}
    (h : ∀ x ∈ xs, Shows (f x) (g x)) : Shows (Markup.each k xs f) (xs.flatMap g) :=
  (gap k).before (.flatMap fun x hx => (h x hx).after (gap k))

theorem optional_list {α : Type} {xs : List α} {g : α → List Tag} (hm : Shows m (xs.flatMap g)) :
    Shows (Markup.optional k (!xs.isEmpty) m) (xs.flatMap g) := by
  have h := optional (k := k) (p := !xs.isEmpty) hm
  cases xs with
  | nil => exact h
  | cons x xs => exact h

end Reads

end Apidoc.Html
