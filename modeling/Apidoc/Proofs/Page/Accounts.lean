import Apidoc.Proofs.Page.Module
import Apidoc.Proofs.Text.Words

/-!
# What a page says of the components on it

A page is read from its text: at each tag that starts the element of a component, of a description
or of source code a note is taken.

* `Html.notes`         the notes of a text, in order;
* `Html.accounts`      the notes from one component to the next, put together;
* `Html.Tells`         what a reader notes of a piece of markup, whatever follows it;
* `Html.accountsOf_modulePage`   what the page of a module says.

A piece is *quiet* if nothing is noted of it.  For literal markup that is decided by evaluation: no
tag that starts in it is one of those above, and none can become one by what follows.
-/

namespace Apidoc.Html

open Markup

/-! ## reading -/

/-- what a reader takes down -/
inductive Note where
  /-- from here on a component is documented -/
  | start (kind : Kind) (anchor : String)
  | description (content : String)
  | source (content : String)
  deriving DecidableEq, Repr

/-- the content of an element, up to the next tag -/
def content (cs : List Char) : String := String.ofList (cs.takeWhile fun c => c != '<')

/-- the value of an attribute, up to its closing quote -/
def value (cs : List Char) : String := String.ofList (unescape (cs.takeWhile fun c => c != '"'))

/-- The letters of a text, which are found when this is elaborated and not when they are compared.
-/
def spelled (s : String) {l : List Char} (_ : String.ofList l = s) : List Char := l

/-- how the tags begin of which a note is taken, and the note by what follows -/
def openings : List (List Char × (List Char → Note)) :=
  [(spelled "section class=\"module-description\">" rfl, fun _ => .start .module ""),
   (spelled "section class=\"class-section\" id=\"" rfl, fun cs => .start .classDef (value cs)),
   (spelled "div class=\"method\" id=\"" rfl, fun cs => .start .method (value cs)),
   (spelled "div class=\"method excluded\" id=\"" rfl, fun cs => .start .method (value cs)),
   (spelled "div class=\"function\" id=\"" rfl, fun cs => .start .function (value cs)),
   (spelled "div class=\"function excluded\" id=\"" rfl, fun cs => .start .function (value cs)),
   (spelled "p>" rfl, fun cs => .description (content cs)),
   (spelled "div class=\"description\">" rfl, fun cs => .description (content cs)),
   (spelled "code class=\"language-python\">" rfl, fun cs => .source (content cs))]

def note? (cs : List Char) : Option Note :=
  openings.findSome? fun o => (Text.dropWord? o.1 cs).map o.2

def notes : List Char → List Note
  | [] => []
  | c :: cs => if c = '<' then (note? cs).toList ++ notes cs else notes cs

/-- what a page says of a component: the contents of its descriptions and of its source code, as
they are written -/
structure Account where
  kind : Kind
  anchor : String
  descriptions : List String
  sources : List String
  deriving DecidableEq, Repr

namespace Note

def isStart : Note → Bool
  | .start _ _ => true
  | _ => false

def description? : Note → Option String
  | .description content => some content
  | _ => none

def source? : Note → Option String
  | .source content => some content
  | _ => none

end Note

/-- The notes up to the next component belong to the one before. -/
def accounts : List Note → List Account
  | [] => []
  | .start kind anchor :: ns =>
    let own := ns.takeWhile fun n => !n.isStart
    ⟨kind, anchor, own.filterMap Note.description?, own.filterMap Note.source?⟩ :: accounts ns
  | _ :: ns => accounts ns

def accountsOf (text : String) : List Account := accounts (notes text.toList)

def Account.notes (a : Account) : List Note :=
  .start a.kind a.anchor :: (a.descriptions.map .description ++ a.sources.map .source)

theorem accounts_notes (as : List Account) : accounts (as.flatMap Account.notes) = as := by
  have hskip (ns rest : List Note) (h : ∀ n ∈ ns, n.isStart = false) : accounts (ns ++ rest) =
      accounts rest := by
    induction ns with
    | nil => rfl
    | cons n ns ih =>
      rw [List.forall_mem_cons] at h
      cases n with
      | start => cases h.1
      | description => exact ih h.2
      | source => exact ih h.2
  induction as with
  | nil => rfl
  | cons a as ih =>
    have hrest : (as.flatMap Account.notes).takeWhile (fun n => !n.isStart) = [] := by
      cases as <;> rfl
    have hown : ∀ n ∈ a.descriptions.map Note.description ++ a.sources.map Note.source,
        n.isStart = false := by
      rw [List.forall_mem_append, List.forall_mem_map, List.forall_mem_map]
      exact ⟨fun _ _ => rfl, fun _ _ => rfl⟩
    have htake : ((a.descriptions.map Note.description ++ a.sources.map Note.source) ++
        as.flatMap Account.notes).takeWhile (fun n => !n.isStart) =
        a.descriptions.map Note.description ++ a.sources.map Note.source := by
      rw [List.takeWhile_append_of_pos (fun n hn => by rw [hown n hn]; rfl), hrest, List.append_nil]
    rw [List.flatMap_cons, Account.notes, List.cons_append, accounts, htake, hskip _ _ hown, ih]
    simp [List.filterMap_append, List.filterMap_map, Function.comp_def, Note.description?,
      Note.source?]

/-! ## quiet pieces -/

/-- No note is taken of a tag that begins so, whatever follows. -/
def isSettled (cs : List Char) : Bool :=
  openings.all fun o => !o.1.isPrefixOf cs && !cs.isPrefixOf o.1

def isQuiet : List Char → Bool
  | [] => true
  | c :: cs => (c != '<' || isSettled cs) && isQuiet cs

theorem note?_of_isSettled {cs : List Char} (h : isSettled cs = true) (rest : List Char) :
    note? (cs ++ rest) = none := by
  rw [note?, List.findSome?_eq_none_iff]
  intro o ho
  have hword := List.all_eq_true.mp h o ho
  simp only [Bool.and_eq_true, Bool.not_eq_true', ← Bool.not_eq_true,
    List.isPrefixOf_iff_prefix] at hword
  rw [Option.map_eq_none_iff, Option.eq_none_iff_forall_ne_some]
  intro more hmore
  have hstart : o.1 <+: cs ++ rest := ⟨more, (Text.dropWord?_eq_some hmore).symm⟩
  exact (List.prefix_or_prefix_of_prefix hstart (List.prefix_append cs rest)).elim hword.1 hword.2

theorem notes_of_isQuiet {cs : List Char} (h : isQuiet cs = true) (rest : List Char) :
    notes (cs ++ rest) = notes rest := by
  induction cs with
  | nil => rfl
  | cons c cs ih =>
    simp only [isQuiet, Bool.and_eq_true, Bool.or_eq_true, bne_iff_ne] at h
    rw [List.cons_append, notes, ih h.2]
    split
    · next hc => rw [note?_of_isSettled (h.1.resolve_left fun hne => hne hc)]; rfl
    · rfl

theorem isQuiet_of_not_mem {cs : List Char} (h : '<' ∉ cs) : isQuiet cs = true := by
  induction cs with
  | nil => rfl
  | cons c cs ih =>
    rw [List.mem_cons, not_or] at h
    rw [isQuiet, ih h.2, bne_iff_ne.mpr fun hc => h.1 hc.symm]
    rfl

/-- A reader takes these notes of a piece of markup. -/
structure Tells (m : Markup) (ns : List Note) : Prop where
  notes_eq : ∀ rest, notes (chars m ++ rest) = ns ++ notes rest

def Quiet (m : Markup) : Prop := Tells m []

theorem chars_raw (s : String) : chars (raw s) = s.toList := by simp [chars, raw, Fragment.render]

theorem chars_text (s : String) : chars (text s) = (Fragment.escape s).toList := by
  simp [chars, text, Fragment.render]

theorem chars_attr (name v : String) :
    chars (attr name v) = name.toList ++ '=' :: '"' :: ((Fragment.escape v).toList ++ ['"']) := by
  simp [chars, attr, Fragment.render]

section

variable {α : Type} {m n q : Markup} {ns ns' : List Note} {k : Nat} {b : Bool}

theorem Tells.append (hm : Tells m ns) (hn : Tells n ns') : Tells (m ++ n) (ns ++ ns') := by
  refine ⟨fun rest => ?_⟩
  rw [chars_append, List.append_assoc, hm.notes_eq, hn.notes_eq, List.append_assoc]

theorem Tells.cons {note : Note} (hm : Tells m [note]) (hn : Tells n ns) :
    Tells (m ++ n) (note :: ns) := hm.append hn

theorem Tells.after (hm : Tells m ns) (hq : Quiet q) : Tells (m ++ q) ns := by
  have h := hm.append hq
  rwa [List.append_nil] at h

namespace Quiet

theorem nil : Quiet [] := ⟨fun _ => rfl⟩

theorem before (hq : Quiet q) (hm : Tells m ns) : Tells (q ++ m) ns := hq.append hm

theorem append (hm : Quiet m) (hn : Quiet n) : Quiet (m ++ n) := Tells.append hm hn

theorem of_chars (h : isQuiet (chars m) = true) : Quiet m := ⟨notes_of_isQuiet h⟩

theorem literal {l : List Char} (h : isQuiet l = true) : Quiet (raw (String.ofList l)) := by
  refine of_chars ?_
  rwa [chars_raw, String.toList_ofList]

theorem text (s : String) : Quiet (Markup.text s) := by
  refine of_chars (isQuiet_of_not_mem fun hmem => ?_)
  rw [chars_text] at hmem
  exact (not_special_of_mem_escape hmem).1 rfl

theorem attr {name : String} (hname : '<' ∉ name.toList) (v : String) :
    Quiet (Markup.attr name v) := by
  refine of_chars (isQuiet_of_not_mem fun hmem => ?_)
  rw [chars_attr] at hmem
  simp only [List.mem_append, List.mem_cons, List.not_mem_nil, or_false] at hmem
  rcases hmem with h | h | h | h | h
  · exact hname h
  · cases h
  · cases h
  · exact (not_special_of_mem_escape h).1 rfl
  · cases h

theorem gap (k : Nat) : Quiet (Markup.gap k) := by
  refine of_chars (isQuiet_of_not_mem fun hmem => ?_)
  rw [Markup.gap, chars_raw] at hmem
  simp [Markup.blanks] at hmem

theorem ite (hm : Quiet m) (hn : Quiet n) : Quiet (if b then m else n) := by
  cases b
  · exact hn
  · exact hm

end Quiet

theorem Tells.line (hm : Tells m ns) : Tells (line k m) ns := (Quiet.gap k).before hm

theorem Quiet.line (hm : Quiet m) : Quiet (line k m) := Tells.line hm

theorem Tells.optional (hm : Tells m ns) : Tells (optional k b m) (if b then ns else []) := by
  refine (Quiet.gap k).before ?_
  cases b
  · exact Quiet.nil
  · exact hm.after (.gap k)

theorem Quiet.optional (hm : Quiet m) : Quiet (optional k b m) := by
  have h := Tells.optional (k := k) (b := b) hm
  rwa [ite_self] at h

theorem Tells.each {f : α → Markup} {g : α → List Note} {xs : List α}
    (h : ∀ x ∈ xs, Tells (f x) (g x)) : Tells (each k xs f) (xs.flatMap g) := by
  refine (Quiet.gap k).before ?_
  induction xs with
  | nil => exact Quiet.nil
  | cons x xs ih =>
    rw [List.forall_mem_cons] at h
    exact (h.1.after (.gap k)).append (ih h.2)

theorem Quiet.each {f : α → Markup} {xs : List α} (h : ∀ x ∈ xs, Quiet (f x)) :
    Quiet (each k xs f) := by
  have hall := Tells.each (k := k) h
  rwa [List.flatMap_eq_nil_iff.mpr fun _ _ => rfl] at hall

theorem Tells.each_filter {f : α → Markup} {p : α → Bool} {g : α → List Note} {xs : List α}
    (h : ∀ x ∈ xs, Tells (f x) (if p x then g x else [])) :
    Tells (Markup.each k xs f) ((xs.filter p).flatMap g) := by
  have hflat : (xs.filter p).flatMap g = xs.flatMap fun x => if p x then g x else [] := by
    induction xs with
    | nil => rfl
    | cons x xs ih =>
      rw [List.filter_cons, List.flatMap_cons, ← ih (List.forall_mem_cons.mp h).2]
      split
      · rfl
      · rfl
  rw [hflat]
  exact .each h

theorem Quiet.lines_nil : Quiet (lines []) := .nil

theorem Quiet.lines_cons {s : String} {ls : List (Nat × String)} (hs : Quiet (raw s))
    (hls : Quiet (lines ls)) :
    Quiet (lines ((k, s) :: ls)) := .append (.line hs) hls

theorem Quiet.enclosed {start finish : String} (hs : Quiet (raw start)) (hf : Quiet (raw finish))
    (s : String) :
    Quiet (raw start ++ Markup.text s ++ raw finish) := .append (.append hs (.text s)) hf

theorem Tells.enclosed {l l' : List Char} {note : String → Note}
    (hstart : ∀ rest, Html.notes (l ++ rest) = note (content rest) :: Html.notes rest)
    (hfinish : isQuiet ('<' :: l') = true) (s : String) :
    Tells (raw (String.ofList l) ++ text s ++ raw (String.ofList ('<' :: l')))
    [note (Fragment.escape s)] := by
  refine ⟨fun rest => ?_⟩
  have hcontent : content ((Fragment.escape s).toList ++ ('<' :: l' ++ rest)) =
      Fragment.escape s := by
    rw [content,
      List.takeWhile_append_of_pos fun c hc => bne_iff_ne.mpr (not_special_of_mem_escape hc).1]
    simp
  have htext := (Quiet.text s).notes_eq ('<' :: l' ++ rest)
  rw [chars_text] at htext
  rw [chars_append, chars_append, chars_raw, chars_raw, chars_text, String.toList_ofList,
    String.toList_ofList, List.append_assoc, List.append_assoc, hstart, hcontent, htext,
    notes_of_isQuiet hfinish]
  rfl

theorem Tells.anchored {l : List Char} {kind : Kind}
    (hstart : ∀ rest, Html.notes (l ++ rest) = .start kind (value rest) :: Html.notes rest)
    {m : Markup} (hm : chars m ++ "id=\"".toList = l) (anchor : String) :
    Tells (m ++ attr "id" anchor ++ raw ">") [.start kind anchor] := by
  refine ⟨fun rest => ?_⟩
  have hvalue : value ((Fragment.escape anchor).toList ++ '"' :: '>' :: rest) = anchor := by
    rw [value,
      List.takeWhile_append_of_pos fun c hc => bne_iff_ne.mpr (not_special_of_mem_escape hc).2.2.1]
    simp [unescape_escape]
  have hrest : Html.notes ((Fragment.escape anchor).toList ++ '"' :: '>' :: rest) =
      Html.notes rest := by
    have htext := (Quiet.text anchor).notes_eq ('"' :: '>' :: rest)
    rw [chars_text] at htext
    rw [htext]
    rfl
  have hchars : chars (m ++ attr "id" anchor ++ raw ">") ++ rest =
      l ++ ((Fragment.escape anchor).toList ++ '"' :: '>' :: rest) := by
    rw [chars_append, chars_append, chars_attr, chars_raw, ← hm]
    simp
  rw [hchars, hstart, hvalue, hrest]
  rfl

end

/-! ## quiet parts of a page -/

theorem quiet_keywordSpan {word : String} (h : word = "async " ∨ word = "def" ∨ word = "class") :
    Quiet (keywordSpan word) := by
  rcases h with rfl | rfl | rfl
  · show Quiet (raw "<span class=\"keyword\">async </span>")
    apply Quiet.literal
    rfl
  · show Quiet (raw "<span class=\"keyword\">def</span>")
    apply Quiet.literal
    rfl
  · show Quiet (raw "<span class=\"keyword\">class</span>")
    apply Quiet.literal
    rfl

theorem quiet_docsPart (indent : Nat) (docs : Option String) : Quiet (docsPart indent docs) := by
  refine .optional (.append (.append (.line ?_) (.line (.enclosed ?_ ?_ _))) (.line ?_))
  all_goals
    apply Quiet.literal
    rfl

theorem quiet_codeCell (s : String) : Quiet (codeCell s) := by
  refine .enclosed ?_ ?_ s
  all_goals
    apply Quiet.literal
    rfl

theorem quiet_table {α : Type} (indent : Nat) (rows : List α) {cells : α → List Markup}
    (h : ∀ r ∈ rows, ∀ c ∈ cells r, Quiet c) : Quiet (table indent rows cells) := by
  refine .append (.append ?head (.each fun r hr => .append (.append (.line ?_) ?row) (.line ?_)))
    ?foot
  case head | foot =>
    repeat refine .lines_cons (by apply Quiet.literal; rfl) ?_
    exact .lines_nil
  case row =>
    have hcells := h r hr
    generalize cells r = cs at hcells
    induction cs with
    | nil => exact .nil
    | cons c cs ih =>
      rw [List.forall_mem_cons] at hcells
      exact .append (.line hcells.1) (ih hcells.2)
  all_goals
    apply Quiet.literal
    rfl

theorem quiet_parametersPart (indent : Nat) {rank : String} (hrank : rank = "h4" ∨ rank = "h5")
    (ps : List ParameterDoc) : Quiet (parametersPart indent rank ps) := by
  have hheading : Quiet (raw ("<" ++ rank ++ ">Parameters</" ++ rank ++ ">")) := by
    rcases hrank with rfl | rfl
    · show Quiet (raw "<h4>Parameters</h4>")
      apply Quiet.literal
      rfl
    · show Quiet (raw "<h5>Parameters</h5>")
      apply Quiet.literal
      rfl
  refine .optional (.append (.append (.lines_cons ?_ (.lines_cons hheading .lines_nil))
    (quiet_table _ _ fun p _ => List.forall_mem_cons.mpr
      ⟨quiet_codeCell _, List.forall_mem_cons.mpr
        ⟨quiet_codeCell _, List.forall_mem_singleton.mpr (.enclosed ?_ ?_ _)⟩⟩)) (.line ?_))
  all_goals
    apply Quiet.literal
    rfl

theorem quiet_variablesPart (vs : List PropertyDoc) : Quiet (variablesPart vs) := by
  refine .optional (.append (.append (.lines_cons ?_ (.lines_cons ?_ .lines_nil))
    (quiet_table _ _ fun v _ => List.forall_mem_cons.mpr
      ⟨quiet_codeCell _, List.forall_mem_cons.mpr
        ⟨quiet_codeCell _, List.forall_mem_singleton.mpr (quiet_codeCell _)⟩⟩)) (.line ?_))
  all_goals
    apply Quiet.literal
    rfl

theorem quiet_parameterText (p : ParameterDoc) : Quiet (parameterText p) := by
  refine .append (.append (.text _) ?_) ?_
  all_goals
    split
    · refine .append ?_ (.text _)
      apply Quiet.literal
      rfl
    · exact .nil

theorem quiet_parameterList (ps : List ParameterDoc) : Quiet (parameterList ps) := by
  fun_induction parameterList ps with
  | case1 => exact .nil
  | case2 p => exact quiet_parameterText p
  | case3 p ps _ ih =>
    refine .append (.append (quiet_parameterText p) ?_) ih
    apply Quiet.literal
    rfl

theorem quiet_signaturePart (indent : Nat) {nameClass : String}
    (hname : nameClass = "method-name" ∨ nameClass = "function-name") (f : FunctionDoc) :
    Quiet (signaturePart indent nameClass f) := by
  have hspan : Quiet (raw ("<span class=\"" ++ nameClass ++ "\">")) := by
    rcases hname with rfl | rfl
    · show Quiet (raw "<span class=\"method-name\">")
      apply Quiet.literal
      rfl
    · show Quiet (raw "<span class=\"function-name\">")
      apply Quiet.literal
      rfl
  refine .append (.append (.append (.line (.ite (quiet_keywordSpan (.inl rfl)) .nil))
    (.line (quiet_keywordSpan (.inr (.inl rfl)))))
    (.line (.append (.append (.append (.append hspan (.text _)) ?_) (quiet_parameterList _)) ?_)))
      (.line ?returns)
  case returns =>
    split
    · refine .enclosed ?_ ?_ _
      all_goals
        apply Quiet.literal
        rfl
    · exact .nil
  all_goals
    apply Quiet.literal
    rfl

theorem quiet_checkbox (indent : Nat) (id kind title : String) (checked : Bool) :
    Quiet (checkbox indent id kind title checked) := by
  refine .append (.append (.append (.append (.line ?_) (.line (.attr (by decide) _)))
    (.line (.attr (by decide) _))) (.line (.attr (by decide) _)))
      (.line (.append (.ite ?_ .nil) ?_))
  all_goals
    apply Quiet.literal
    rfl

theorem quiet_boxPart (editable : Bool) (indent : Nat) (id kind title : String) (checked : Bool) :
    Quiet (boxPart editable indent id kind title checked) := by
  refine .optional (.append (.append (.line ?_) (quiet_checkbox ..)) (.line ?_))
  all_goals
    apply Quiet.literal
    rfl

theorem quiet_link (url : String) {m : Markup} (hm : Quiet m) : Quiet (link url m) := by
  refine .append (.append (.append (.append ?_ (.attr (by decide) _)) ?_) hm) ?_
  all_goals
    apply Quiet.literal
    rfl

theorem quiet_checkedLink (editable : Bool) (indent : Nat) (id kind title url : String)
    (checked : Bool) {m : Markup} (hm : Quiet m) :
    Quiet (checkedLink editable indent (fun n => checkbox n id kind title checked)
      fun n => line n (link url m)) := by
  refine .append (.append (.gap _) (.ite (.append (.append (.append (.line ?_) (quiet_checkbox ..))
    (.line (quiet_link url hm))) (.line ?_)) (.line (quiet_link url hm)))) (.gap _)
  all_goals
    apply Quiet.literal
    rfl

theorem quiet_callText (name : String) : Quiet (text name ++ raw "()") := by
  refine .append (.text name) ?_
  apply Quiet.literal
  rfl

theorem quiet_listItem {m : Markup} (hm : Quiet m) (indent : Nat) :
    Quiet (line indent (raw "<li>") ++ m ++ line indent (raw "</li>")) := by
  refine .append (.append (.line ?_) hm) (.line ?_)
  all_goals
    apply Quiet.literal
    rfl

theorem quiet_classLinks (s : SiteSettings) (c : ClassDoc) : Quiet (classLinks s c) := by
  have hmethods : Quiet (each 24 c.methods (methodLink s c)) :=
    .each fun f _ => .optional (quiet_listItem
      (quiet_checkedLink _ _ _ _ _ _ _ (quiet_callText _)) 28)
  refine .append (.append (.append (.append (.append (.line ?_)
    (quiet_checkedLink _ _ _ _ _ _ _ (.text _))) (.line ?_)) hmethods) (.line ?_)) (.line ?_)
  all_goals
    apply Quiet.literal
    rfl

theorem quiet_functionLink (s : SiteSettings) (f : FunctionDoc) : Quiet (functionLink s f) :=
  quiet_listItem (quiet_checkedLink _ _ _ _ _ _ _ (quiet_callText _)) 16

theorem quiet_documentHead (base : String) {title : Markup} (h : Quiet title) :
    Quiet (documentHead base title) := by
  refine .append (.append (.append (.append ?_ ?head) (.line (.append (.append ?_ h) ?_)))
    (.line (.append (.append ?_ (.attr (by decide) _)) ?_))) (.line ?_)
  case head =>
    repeat refine .lines_cons (by apply Quiet.literal; rfl) ?_
    exact .lines_nil
  all_goals
    apply Quiet.literal
    rfl

theorem quiet_documentEnd (base : String) : Quiet (documentEnd base) := by
  refine .append (.append (.line ?_) (.line (.append (.append ?_ (.attr (by decide) _)) ?_)))
    (.lines_cons ?_ (.lines_cons ?_ .lines_nil))
  all_goals
    apply Quiet.literal
    rfl

theorem quiet_moduleHeader (s : SiteSettings) (m : ModuleDoc) : Quiet (moduleHeader s m) := by
  refine .append (.append (.append (.append (.lines_cons ?_ (.lines_cons ?_ .lines_nil))
    (.append (.append (.gap _) (.ite (.append (.append (.append (.line ?_) (quiet_checkbox ..))
      (.line (.text _))) (.line ?_)) (.line (.text _)))) (.gap _))) (.line ?_))
        (.line (.enclosed ?_ ?_ _))) (.line ?_)
  all_goals
    apply Quiet.literal
    rfl

end Apidoc.Html

/-! ## what is told of a component -/

namespace Apidoc.SiteSettings

open Html

/-- the components on the page of a module with their anchors, in order -/
def listing (s : SiteSettings) (m : ModuleDoc) : List (Component × String) :=
  (.module m, "") ::
    ((s.shownClasses m).flatMap fun c =>
      (.classDef c, classAnchor c) :: (c.methods.filter s.lists).map
        fun f => (.method f, methodAnchor c f)) ++
    (s.shownFunctions m).map fun f => (.function f, functionAnchor f)

def shownDescription (s : SiteSettings) : Component → Data
  | .module m => s.moduleDescription m
  | .classDef c => s.describe c.toHeader
  | c => (s.description? c.id).getD .null

def shownSource (s : SiteSettings) : Component → Option String
  | .method f => if s.includeSource then shown f.source else none
  | .function f => if s.includeSource then shown f.source else none
  | _ => none

def account (s : SiteSettings) (p : Component × String) : Account where
  kind := p.1.kind
  anchor := p.2
  descriptions :=
    if (s.shownDescription p.1).isTrue then [Fragment.escape
      (s.shownDescription p.1).display] else []
  sources := (s.shownSource p.1).toList.map fun t => Fragment.escape (Fragment.escapeCode t)

end Apidoc.SiteSettings

namespace Apidoc.Html

open Markup SiteSettings

theorem tells_descriptionPart (indent : Nat) (d : Option Data) : Tells (descriptionPart indent d)
    ((if (d.getD .null).isTrue then [Fragment.escape (d.getD .null).display] else []).map
      .description) := by
  have h : Tells (descriptionPart indent d)
      (if (d.getD .null).isTrue then [Note.description
        (Fragment.escape (d.getD .null).display)] else []) := by
    refine .optional (.line ?_)
    apply Tells.enclosed
    · exact fun _ => rfl
    · rfl
  rwa [apply_ite (List.map Note.description)]

theorem tells_sourcePart (indent : Nat) (withSource : Bool) (source : Option String) :
    Tells (sourcePart indent withSource source)
    ((if withSource then shown source else none).toList.map fun t =>
      .source (Fragment.escape (Fragment.escapeCode t))) := by
  have h : Tells (sourcePart indent withSource source) (if withSource && (shown source).isSome then
      [Note.source (Fragment.escape (Fragment.escapeCode (source.getD "")))] else []) := by
    refine .optional (.after (Quiet.before (.lines_cons ?_ (.lines_cons ?_ .lines_nil))
      (.line ?code)) (.line ?_))
    case code =>
      apply Tells.enclosed
      · exact fun _ => rfl
      · rfl
    all_goals
      apply Quiet.literal
      rfl
  convert h using 1
  cases withSource with
  | false => rfl
  | true =>
    cases source with
    | none => rfl
    | some t => by_cases ht : t = "" <;> simp [shown, Option.filter, ht]

theorem tells_bodyPart (s : SiteSettings) (indent : Nat) {rank : String}
    (hrank : rank = "h4" ∨ rank = "h5") (f : FunctionDoc) {p : Component × String}
    (hd : s.shownDescription p.1 = (s.description? f.id).getD .null)
    (hsource : s.shownSource p.1 = if s.includeSource then shown f.source else none) :
    Tells (bodyPart s indent rank f)
      ((s.account p).descriptions.map .description ++ (s.account p).sources.map .source) := by
  have hdescription := Quiet.before (.gap 0) (tells_descriptionPart indent (s.description? f.id))
  have hquiet :=
    (((hdescription.after (.gap 0)).after (quiet_docsPart indent f.docs)).after (.gap 0)).after
    (quiet_parametersPart indent hrank f.parameters)
  have h := (hquiet.after (.gap 0)).append (tells_sourcePart indent s.includeSource f.source)
  rw [account, hd, hsource, List.map_map]
  exact h

theorem tells_blockStart {s : SiteSettings} {name id : String} {kind : Kind}
    (h : name = "method" ∧ kind = .method ∨ name = "function" ∧ kind = .function)
    (anchor : String) :
    Tells (raw "<div " ++ attr "class" (markedClass s name id) ++ raw " " ++
      attr "id" anchor ++ raw ">")
      [.start kind anchor] := by
  rw [markedClass]
  rcases h with ⟨rfl, rfl⟩ | ⟨rfl, rfl⟩ <;> split
  · refine .anchored (l := "<div class=\"method excluded\" id=\"".toList) (fun _ => rfl)
      (by rfl) anchor
  · refine .anchored (l := "<div class=\"method\" id=\"".toList) (fun _ => rfl) (by rfl) anchor
  · refine .anchored (l := "<div class=\"function excluded\" id=\"".toList) (fun _ => rfl)
      (by rfl) anchor
  · refine .anchored (l := "<div class=\"function\" id=\"".toList) (fun _ => rfl) (by rfl) anchor

theorem tells_methodBlock (s : SiteSettings) (c : ClassDoc) (f : MethodDoc) :
    Tells (methodBlock s c f)
    (if s.lists f then (s.account (.method f, methodAnchor c f)).notes else []) := by
  refine .optional
    (.after (Tells.cons ?start (tells_bodyPart s 24 (.inr rfl) f.toFunctionDoc rfl rfl)) (.line ?_))
  case start =>
    refine .after
      (.after (.after (.after (.after (.after (.line (tells_blockStart (.inl ⟨rfl, rfl⟩) _))
        (.line ?_)) (quiet_boxPart ..)) (.line (.ite ?_ .nil))) (.line (.ite ?_ .nil)))
          (quiet_signaturePart 28 (.inl rfl) _))
      (.line ?_)
    all_goals
      apply Quiet.literal
      rfl
  apply Quiet.literal
  rfl

theorem tells_functionBlock (s : SiteSettings) (f : FunctionDoc) :
    Tells (functionBlock s f) (s.account (.function f, functionAnchor f)).notes := by
  refine .after (Tells.cons ?start (tells_bodyPart s 16 (.inl rfl) f rfl rfl)) (.line ?_)
  case start =>
    refine .after (.after (.after (.after (.line (tells_blockStart (.inr ⟨rfl, rfl⟩) _)) (.line ?_))
      (quiet_boxPart ..)) (quiet_signaturePart 20 (.inr rfl) f)) (.line ?_)
    all_goals
      apply Quiet.literal
      rfl
  apply Quiet.literal
  rfl

theorem tells_classSection (s : SiteSettings) (c : ClassDoc) : Tells (classSection s c)
    (((.classDef c, classAnchor c) :: (c.methods.filter s.lists).map
      fun f => (.method f, methodAnchor c f)).flatMap
      fun p => (s.account p).notes) := by
  have hstart : Tells (raw "<section class=\"class-section\" " ++
    attr "id" (classAnchor c) ++ raw ">")
      [.start .classDef (classAnchor c)] :=
    .anchored (l := "<section class=\"class-section\" id=\"".toList) (fun _ => rfl) (by rfl) _
  have hbases : Quiet (optional 16 (!c.bases.isEmpty)
      (line 16 (raw "<span class=\"bases\">(" ++ text (", ".intercalate c.bases) ++
        raw ")</span>"))) := by
    refine .optional (.line (.enclosed ?_ ?_ _))
    all_goals
      apply Quiet.literal
      rfl
  have hname : Quiet (keywordSpan "class" ++ raw " " ++ text c.name) := by
    refine .append (.append (quiet_keywordSpan (.inr (.inr rfl))) ?_) (.text _)
    apply Quiet.literal
    rfl
  have hclass : (s.account (.classDef c, classAnchor c)).notes =
    [.start .classDef (classAnchor c)] ++
      (s.account (.classDef c, classAnchor c)).descriptions.map .description := by
    rw [Account.notes, account]
    exact congrArg _ (List.append_nil _)
  rw [List.flatMap_cons, List.flatMap_map, hclass]
  refine .after (.append ?_ (.each_filter fun f _ => tells_methodBlock s c f)) ?closing
  refine .after
    (.after (.after (.after (.after (.after (.append ?_ (tells_descriptionPart 12 _)) (.gap 0))
      (quiet_docsPart ..)) (.gap 0)) (quiet_variablesPart _)) (.gap 0)) ?heading
  refine .after
    (.after (.after (.after (.after (.after (.after (.line hstart) (.line ?_)) (quiet_boxPart ..))
      (.line hname)) hbases) (.line ?_)) (.gap 0)) (.gap 12)
  case closing | heading =>
    repeat refine .lines_cons (by apply Quiet.literal; rfl) ?_
    exact .lines_nil
  all_goals
    apply Quiet.literal
    rfl

theorem tells_functionsSection (s : SiteSettings) (m : ModuleDoc) :
    Tells (optional 8 (!(s.shownFunctions m).isEmpty)
      (lines [(8, "<section class=\"functions-section\">"), (12, "<h2>Functions</h2>")] ++
        each 12 (s.shownFunctions m) (functionBlock s) ++ line 8 (raw "</section>")))
      ((s.shownFunctions m).flatMap fun f =>
        (s.account (.function f, functionAnchor f)).notes) := by
  have h : Tells (optional 8 (!(s.shownFunctions m).isEmpty)
      (lines [(8, "<section class=\"functions-section\">"), (12, "<h2>Functions</h2>")] ++
        each 12 (s.shownFunctions m) (functionBlock s) ++ line 8 (raw "</section>")))
      (if !(s.shownFunctions m).isEmpty then
        (s.shownFunctions m).flatMap fun f =>
          (s.account (.function f, functionAnchor f)).notes else []) := by
    refine .optional (.after (Quiet.before (.lines_cons ?_ (.lines_cons ?_ .lines_nil))
      (.each fun f _ => tells_functionBlock s f)) (.line ?_))
    all_goals
      apply Quiet.literal
      rfl
  cases hfs : s.shownFunctions m with
  | nil => rwa [hfs] at h
  | cons f fs => rwa [hfs] at h

theorem tells_moduleDescription (s : SiteSettings) (m : ModuleDoc) {start : Markup}
    (hstart : Tells start [.start .module ""]) :
    Tells (start ++ optional 12 (s.moduleDescription m).isTrue
      (line 12 (raw "<p>" ++ text (s.moduleDescription m).display ++ raw "</p>")))
      (s.account (.module m, "")).notes := by
  have hdescription : Tells (optional 12 (s.moduleDescription m).isTrue
      (line 12 (raw "<p>" ++ text (s.moduleDescription m).display ++ raw "</p>")))
      (if (s.moduleDescription m).isTrue then
        [Note.description (Fragment.escape (s.moduleDescription m).display)] else []) := by
    refine .optional (.line ?_)
    apply Tells.enclosed
    · exact fun _ => rfl
    · rfl
  have hnotes : (s.account (.module m, "")).notes = .start .module "" ::
    (if (s.moduleDescription m).isTrue then
      [Note.description (Fragment.escape (s.moduleDescription m).display)] else []) := by
    rw [Account.notes, account]
    refine congrArg _ ((List.append_nil _).trans ?_)
    rw [apply_ite (List.map Note.description)]
    rfl
  rw [hnotes]
  exact .cons hstart hdescription

/-- The page of a module says of the components that are listed on it what it should, and says
nothing else. -/
theorem accountsOf_modulePage (s : SiteSettings) (m : ModuleDoc) :
    accountsOf (modulePage s m).render = (s.listing m).map s.account := by
  have htitle : Quiet (text m.name ++ raw " - " ++ text s.title) := by
    refine .append (.append (.text _) ?_) (.text _)
    apply Quiet.literal
    rfl
  have hcontrols : Quiet (editControls []) := by
    refine .append (.append ?_ .nil) (.line ?_)
    · repeat refine .lines_cons (by apply Quiet.literal; rfl) ?_
      exact .lines_nil
    · apply Quiet.literal
      rfl
  have hfunctions : Quiet (optional 16 (!(s.shownFunctions m).isEmpty)
      (line 16 (raw "<li class=\"functions-header\">Functions</li>") ++
        each 16 (s.shownFunctions m) (functionLink s))) := by
    refine .optional (.append (.line ?_) (.each fun f _ => quiet_functionLink s f))
    apply Quiet.literal
    rfl
  have hstart : Tells (raw "<section class=\"module-description\">") [.start .module ""] := by
    refine ⟨fun rest => ?_⟩
    rw [chars_raw]
    rfl
  have hpage : Tells (modulePage s m) ((s.listing m).flatMap fun p => (s.account p).notes) := by
    rw [listing, List.flatMap_append, List.flatMap_cons, List.flatMap_assoc, List.flatMap_map]
    unfold modulePage
    refine .after ?_ (quiet_documentEnd "../")
    refine .append (.after ?_ (.gap 0)) (tells_functionsSection s m)
    refine .append (.after ?_ (.gap 0)) (.each fun c _ => tells_classSection s c)
    refine .after (.after (tells_moduleDescription s m (Quiet.before ?_ (.line hstart)))
      (quiet_docsPart ..)) (.line ?_)
    · refine .append
        (.append (.append (.append (.append (.append (.append (.append (.append (.append (.append
        (quiet_documentHead "../" htitle) (.line (.append (.append ?_ (.ite ?_ .nil)) ?_))) ?nav)
        (.line (.enclosed ?_ ?_ _))) (.line ?_)) (.optional hcontrols)) ?list)
          (.each fun c _ => quiet_classLinks s c))
        hfunctions) ?main) (quiet_moduleHeader s m)) (.gap 0)
      case nav | list | main =>
        repeat refine .lines_cons (by apply Quiet.literal; rfl) ?_
        exact .lines_nil
      all_goals
        apply Quiet.literal
        rfl
    · apply Quiet.literal
      rfl
  have hrest := hpage.notes_eq []
  rw [List.append_nil] at hrest
  rw [accountsOf, toList_render, hrest, notes, List.append_nil, ← List.flatMap_map, accounts_notes]

end Apidoc.Html
