import Apidoc.Page.Module
import Apidoc.Proofs.Page.Frame

/-!
# The anchors of a module's page

A page has an anchor for each class section, for each method block in it and for each function
block, in this order.  Nothing that is shown of a component adds another one.
-/

namespace Apidoc

open Markup Html

/-! ## pieces without marked tags -/

theorem keywordSpan_shows {word : String} (h : word = "async " ∨ word = "def" ∨ word = "class") :
    Shows (keywordSpan word) [] := by
  rcases h with rfl | rfl | rfl
  · show Shows (raw "<span class=\"keyword\">async </span>") []
    apply Reads.literal
    rfl
  · show Shows (raw "<span class=\"keyword\">def</span>") []
    apply Reads.literal
    rfl
  · show Shows (raw "<span class=\"keyword\">class</span>") []
    apply Reads.literal
    rfl

theorem descriptionPart_shows (indent : Nat) (d : Option Data) :
    Shows (descriptionPart indent d) [] := by
  refine .optional_nil (.line (.enclosed ?_ ?_ _))
  all_goals
    apply Reads.literal
    rfl

theorem docsPart_shows (indent : Nat) (docs : Option String) : Shows (docsPart indent docs) [] := by
  refine .optional_nil (Shows.before (Shows.before (.line ?_)
    (.line (.enclosed ?_ ?_ _))) (.line ?_))
  all_goals
    apply Reads.literal
    rfl

theorem codeCell_shows (s : String) : Shows (codeCell s) [] := by
  refine .enclosed ?_ ?_ _
  all_goals
    apply Reads.literal
    rfl

theorem table_shows {α : Type} (indent : Nat) (rows : List α) {cells : α → List Markup}
    (h : ∀ r ∈ rows, ∀ c ∈ cells r, Shows c []) : Shows (table indent rows cells) [] := by
  have hcells : ∀ r ∈ rows, Shows ((cells r).flatMap (line (indent + 12))) [] := by
    intro r hr
    have hc : Shows ((cells r).flatMap (line (indent + 12))) ((cells r).flatMap fun _ => []) :=
      .flatMap fun c hc => .line (h r hr c hc)
    rwa [List.flatMap_eq_nil_iff.mpr fun _ _ => rfl] at hc
  have hrows : Shows (each (indent + 4) rows (fun r =>
      line (indent + 8) (raw "<tr>") ++ (cells r).flatMap (line (indent + 12)) ++
        line (indent + 8) (raw "</tr>"))) (rows.flatMap fun _ => []) := by
    refine .each fun r hr => Shows.before (Shows.before (.line ?_) (hcells r hr)) (.line ?_)
    all_goals
      apply Reads.literal
      rfl
  rw [List.flatMap_eq_nil_iff.mpr fun _ _ => rfl] at hrows
  refine Shows.before (Shows.before ?_ hrows) ?_
  all_goals
    repeat refine .lines_skip (by apply Reads.literal; rfl) ?_
    exact .lines_nil

theorem parametersPart_shows (indent : Nat) {rank : String} (hrank : rank = "h4" ∨ rank = "h5")
    (ps : List ParameterDoc) : Shows (parametersPart indent rank ps) [] := by
  have hheading : Shows (raw ("<" ++ rank ++ ">Parameters</" ++ rank ++ ">")) [] := by
    rcases hrank with rfl | rfl
    · show Shows (raw "<h4>Parameters</h4>") []
      apply Reads.literal
      rfl
    · show Shows (raw "<h5>Parameters</h5>") []
      apply Reads.literal
      rfl
  have hdefault (p : ParameterDoc) :
      Shows (raw "<td>" ++ text (orElseText p.default "-") ++ raw "</td>") [] := by
    refine .enclosed ?_ ?_ _
    all_goals
      apply Reads.literal
      rfl
  refine .optional_nil
    (Shows.before (Shows.before (.lines_skip ?_ (.lines_skip hheading .lines_nil))
      (table_shows _ _ fun p _ c hc => ?_)) (.line ?_))
  · apply Reads.literal
    rfl
  · simp only [List.mem_cons, List.not_mem_nil, or_false] at hc
    rcases hc with rfl | rfl | rfl
    · exact codeCell_shows _
    · exact codeCell_shows _
    · exact hdefault p
  · apply Reads.literal
    rfl

theorem sourcePart_shows (indent : Nat) (withSource : Bool) (source : Option String) :
    Shows (sourcePart indent withSource source) [] := by
  refine .optional_nil (Shows.before (Shows.before (.lines_skip ?_ (.lines_skip ?_ .lines_nil))
    (.line (.enclosed ?_ ?_ _))) (.line ?_))
  all_goals
    apply Reads.literal
    rfl

theorem parameterText_shows (p : ParameterDoc) : Shows (parameterText p) [] := by
  unfold parameterText
  refine Shows.before (Shows.before (.text _) ?_) ?_
  all_goals
    split
    · refine Shows.before ?_ (.text _)
      apply Reads.literal
      rfl
    · exact .nil

theorem parameterList_shows (ps : List ParameterDoc) : Shows (parameterList ps) [] := by
  induction ps with
  | nil => exact .nil
  | cons p ps ih =>
    cases ps with
    | nil => exact parameterText_shows p
    | cons q qs =>
      refine Shows.before (Shows.before (parameterText_shows p) ?_) ih
      apply Reads.literal
      rfl

theorem signaturePart_shows (indent : Nat) {nameClass : String}
    (hname : nameClass = "method-name" ∨ nameClass = "function-name") (f : FunctionDoc) :
    Shows (signaturePart indent nameClass f) [] := by
  have hasync : Shows (if f.isAsync then keywordSpan "async " else []) [] := by
    split
    · exact keywordSpan_shows (.inl rfl)
    · exact .nil
  have hspan : Shows (raw ("<span class=\"" ++ nameClass ++ "\">")) [] := by
    rcases hname with rfl | rfl
    · show Shows (raw "<span class=\"method-name\">") []
      apply Reads.literal
      rfl
    · show Shows (raw "<span class=\"function-name\">") []
      apply Reads.literal
      rfl
  have hreturns (t : String) : Shows (raw "<span class=\"return-type\"> -&gt; " ++ text t ++
      raw "</span>") [] := by
    refine Shows.before (Shows.before ?_ (.text t)) ?_
    all_goals
      apply Reads.literal
      rfl
  unfold signaturePart
  refine Shows.before (Shows.before (Shows.before (.line hasync)
    (.line (keywordSpan_shows (.inr (.inl rfl)))))
      (.line (Shows.before (Shows.before (Shows.before (Shows.before hspan (.text _)) ?_)
        (parameterList_shows _)) ?_))) (.line ?_)
  · apply Reads.literal
    rfl
  · apply Reads.literal
    rfl
  · split
    · exact hreturns _
    · exact .nil

theorem boxPart_shows (editable : Bool) (indent : Nat) (id kind title : String) (checked : Bool) :
    Shows (boxPart editable indent id kind title checked) [] := by
  refine .optional_nil (Shows.before (Shows.before (.line ?_) (checkbox_shows ..)) (.line ?_))
  all_goals
    apply Reads.literal
    rfl

theorem bodyPart_shows (s : SiteSettings) (indent : Nat) {rank : String}
    (hrank : rank = "h4" ∨ rank = "h5") (f : FunctionDoc) :
    Shows (bodyPart s indent rank f) [] := by
  have hdescription := Shows.before (.gap 0) (descriptionPart_shows indent (s.description? f.id))
  have hdocs := Shows.before (Shows.before hdescription (.gap 0)) (docsPart_shows indent f.docs)
  have hparameters := Shows.before (Shows.before hdocs (.gap 0))
    (parametersPart_shows indent hrank f.parameters)
  exact Shows.before (Shows.before hparameters (.gap 0))
    (sourcePart_shows indent s.includeSource f.source)

theorem variablesPart_shows (vs : List PropertyDoc) : Shows (variablesPart vs) [] := by
  refine .optional_nil (Shows.before (Shows.before (.lines_skip ?_ (.lines_skip ?_ .lines_nil))
    (table_shows _ _ fun v _ c hc => ?_)) (.line ?_))
  case refine_3 =>
    simp only [List.mem_cons, List.not_mem_nil, or_false] at hc
    rcases hc with rfl | rfl | rfl
    all_goals exact codeCell_shows _
  all_goals
    apply Reads.literal
    rfl

/-! ## contents -/

def anchorLink (anchor : String) : Tag := .of "a" [("href", "#" ++ anchor)]

def SiteSettings.lists (s : SiteSettings) (m : MethodDoc) : Bool := s.editable || s.shows m.id

def methodLinkTags (s : SiteSettings) (c : ClassDoc) (m : MethodDoc) : List Tag :=
  if s.lists m then [anchorLink (methodAnchor c m)] else []

def classLinkTags (s : SiteSettings) (c : ClassDoc) : List Tag :=
  anchorLink (classAnchor c) :: c.methods.flatMap (methodLinkTags s c)

theorem listItem_shows {m : Markup} {ts : List Tag} (h : Shows m ts) (indent : Nat) :
    Shows (line indent (raw "<li>") ++ m ++ line indent (raw "</li>")) ts := by
  refine Shows.after (Shows.before (.line ?_) h) (.line ?_)
  all_goals
    apply Reads.literal
    rfl

theorem callText_shows (name : String) : Shows (text name ++ raw "()") [] := by
  refine Shows.before (.text name) ?_
  apply Reads.literal
  rfl

theorem methodLink_shows (s : SiteSettings) (c : ClassDoc) (m : MethodDoc) :
    Shows (methodLink s c m) (methodLinkTags s c m) :=
  .optional (listItem_shows (checkedLink_shows s.editable 32 (fun n => checkbox_shows n ..)
    fun _ => .line (link_shows _ (callText_shows m.name))) 28)

theorem functionLink_shows (s : SiteSettings) (f : FunctionDoc) :
    Shows (functionLink s f) [anchorLink (functionAnchor f)] :=
  listItem_shows (checkedLink_shows s.editable 20 (fun n => checkbox_shows n ..)
    fun _ => .line (link_shows _ (callText_shows f.name))) 16

theorem classLinks_shows (s : SiteSettings) (c : ClassDoc) :
    Shows (classLinks s c) (classLinkTags s c) := by
  have hclass : Shows (checkedLink s.editable 20
    (fun n => checkbox n c.id "class" c.name (s.shows c.id))
      fun n => line n (link ("#" ++ classAnchor c) (text c.name))) [anchorLink (classAnchor c)] :=
    checkedLink_shows s.editable 20 (fun n => checkbox_shows n ..) fun _ => .line
      (link_shows _ (.text _))
  refine Shows.after
    (Shows.after (Shows.append (Shows.after (Shows.before (.line ?_) hclass) (.line ?_))
      (.each fun m _ => methodLink_shows s c m)) (.line ?_)) (.line ?_)
  all_goals
    apply Reads.literal
    rfl

/-! ## sections -/

def methodTag (s : SiteSettings) (c : ClassDoc) (m : MethodDoc) : Tag :=
  .of "div" [("class", markedClass s "method" m.id), ("id", methodAnchor c m)]

def methodTags (s : SiteSettings) (c : ClassDoc) (m : MethodDoc) : List Tag :=
  if s.lists m then [methodTag s c m] else []

def classTag (c : ClassDoc) : Tag :=
  .of "section" [("class", "class-section"), ("id", classAnchor c)]

def classTags (s : SiteSettings) (c : ClassDoc) : List Tag :=
  [classTag c] ++ c.methods.flatMap (methodTags s c)

def functionTag (s : SiteSettings) (f : FunctionDoc) : Tag :=
  .of "div" [("class", markedClass s "function" f.id), ("id", functionAnchor f)]

theorem blockStart_shows (cls anchor : String) :
    Shows (raw "<div " ++ attr "class" cls ++ raw " " ++ attr "id" anchor ++ raw ">")
      [.of "div" [("class", cls), ("id", anchor)]] := by
  have hopen : Reads .text (raw "<div ") [] (.inside (.of "div" [])) := by
    apply Reads.literal
    rfl
  exact (((hopen.before .attr_class).before (.space _)).before .attr_id).before
    (.close_marked (Tag.isMarked_of_id rfl))

theorem decorator_shows (b : Bool) {mark : String} (h : Shows (raw mark) []) :
    Shows (if b then raw mark else []) [] := by
  cases b
  · exact .nil
  · exact h

theorem methodBlock_shows (s : SiteSettings) (c : ClassDoc) (m : MethodDoc) :
    Shows (methodBlock s c m) (methodTags s c m) := by
  refine .optional ?_
  refine Shows.after (Shows.after ?_ (bodyPart_shows s 24 (.inr rfl) m.toFunctionDoc)) (.line ?_)
  refine Shows.after (Shows.after (Shows.after (Shows.after ?_ (.line (decorator_shows _ ?_)))
    (.line (decorator_shows _ ?_))) (signaturePart_shows 28 (.inl rfl) m.toFunctionDoc)) (.line ?_)
  refine Shows.after (Shows.after (.line (blockStart_shows ..)) (.line ?_)) (boxPart_shows ..)
  all_goals
    apply Reads.literal
    rfl

theorem functionBlock_shows (s : SiteSettings) (f : FunctionDoc) :
    Shows (functionBlock s f) [functionTag s f] := by
  refine Shows.after (Shows.after ?_ (bodyPart_shows s 16 (.inl rfl) f)) (.line ?_)
  refine Shows.after (Shows.after ?_ (signaturePart_shows 20 (.inr rfl) f)) (.line ?_)
  refine Shows.after (Shows.after (.line (blockStart_shows ..)) (.line ?_)) (boxPart_shows ..)
  all_goals
    apply Reads.literal
    rfl

theorem classSection_shows (s : SiteSettings) (c : ClassDoc) :
    Shows (classSection s c) (classTags s c) := by
  have hstart : Shows (raw "<section class=\"class-section\" " ++
    attr "id" (classAnchor c) ++ raw ">")
      [classTag c] := by
    have hopen : Reads .text (raw "<section class=\"class-section\" ") []
        (.inside (.of "section" [("class", "class-section")])) := by
      apply Reads.literal
      rfl
    exact (hopen.before .attr_id).before (.close_marked (Tag.isMarked_of_id rfl))
  have hbases : Shows (optional 16 (!c.bases.isEmpty)
      (line 16 (raw "<span class=\"bases\">(" ++ text (", ".intercalate c.bases) ++
        raw ")</span>"))) [] := by
    refine .optional_nil (.line (.enclosed ?_ ?_ _))
    all_goals
      apply Reads.literal
      rfl
  have hname : Shows (keywordSpan "class" ++ raw " " ++ text c.name) [] := by
    refine Shows.before (Shows.before (keywordSpan_shows (.inr (.inr rfl))) ?_) (.text _)
    apply Reads.literal
    rfl
  unfold classSection classTags
  refine Shows.after ?_ ?closing
  refine Shows.append ?_ (.each fun m _ => methodBlock_shows s c m)
  refine Shows.after (Shows.after (Shows.after (Shows.after ?_ (.gap 0))
    (variablesPart_shows _)) (.gap 0))
    ?heading
  refine Shows.after (Shows.after (Shows.after (Shows.after (Shows.after ?_ (.gap 0)) (.gap 12))
    (descriptionPart_shows ..)) (.gap 0)) (docsPart_shows ..)
  refine Shows.after (Shows.after (Shows.after (Shows.after (Shows.after (.line hstart) (.line ?_))
    (boxPart_shows ..)) (.line hname)) hbases) (.line ?_)
  case closing | heading =>
    repeat refine .lines_skip (by apply Reads.literal; rfl) ?_
    exact .lines_nil
  all_goals
    apply Reads.literal
    rfl

/-! ## the page -/

theorem moduleHeader_shows (s : SiteSettings) (m : ModuleDoc) : Shows (moduleHeader s m) [] := by
  have htitle : Shows (either 16 s.editable
      (line 16 (raw "<label class=\"header-checkbox-label\">") ++
        checkbox 20 m.id "module" m.name (s.shows m.id) ++
          line 20 (text (s.moduleTitle m).display) ++
        line 16 (raw "</label>"))
      (line 16 (text (s.moduleTitle m).display))) (if s.editable then [] else []) := by
    refine .either (Shows.before (Shows.before (Shows.before (.line ?_) (checkbox_shows ..))
      (.line (.text _))) (.line ?_)) (.line (.text _))
    all_goals
      apply Reads.literal
      rfl
  rw [ite_self] at htitle
  unfold moduleHeader
  refine Shows.before (Shows.before (Shows.before (Shows.before ?header htitle) (.line ?_))
    (.line (.enclosed ?_ ?_ _))) (.line ?_)
  case header =>
    repeat refine .lines_skip (by apply Reads.literal; rfl) ?_
    exact .lines_nil
  all_goals
    apply Reads.literal
    rfl

def SiteSettings.shownClasses (s : SiteSettings) (m : ModuleDoc) : List ClassDoc :=
  m.classes.filter fun c => s.shows c.id

def SiteSettings.shownFunctions (s : SiteSettings) (m : ModuleDoc) : List FunctionDoc :=
  m.functions.filter fun f => s.shows f.id

def moduleHeadTags (s : SiteSettings) (m : ModuleDoc) : List Tag :=
  [styleLink "../"] ++ [.of "a" [("href", "../index.html"), ("class", "back-link")]] ++
    (if s.editable then controlTags else []) ++ (s.shownClasses m).flatMap (classLinkTags s) ++
    (s.shownFunctions m).flatMap fun f => [anchorLink (functionAnchor f)]

def sectionTags (s : SiteSettings) (m : ModuleDoc) : List Tag :=
  (s.shownClasses m).flatMap (classTags s) ++ (s.shownFunctions m).flatMap fun f =>
    [functionTag s f]

theorem functionsSection_shows (s : SiteSettings) (m : ModuleDoc) :
    Shows (optional 8 (!(s.shownFunctions m).isEmpty)
      (lines [(8, "<section class=\"functions-section\">"), (12, "<h2>Functions</h2>")] ++
        each 12 (s.shownFunctions m) (functionBlock s) ++ line 8 (raw "</section>")))
      ((s.shownFunctions m).flatMap fun f => [functionTag s f]) := by
  refine .optional_list
    (Shows.after (Shows.before ?start (.each fun f _ => functionBlock_shows s f)) (.line ?_))
  case start =>
    repeat refine .lines_skip (by apply Reads.literal; rfl) ?_
    exact .lines_nil
  apply Reads.literal
  rfl

theorem functionLinks_shows (s : SiteSettings) (m : ModuleDoc) :
    Shows (optional 16 (!(s.shownFunctions m).isEmpty)
      (line 16 (raw "<li class=\"functions-header\">Functions</li>") ++
        each 16 (s.shownFunctions m) (functionLink s)))
      ((s.shownFunctions m).flatMap fun f => [anchorLink (functionAnchor f)]) := by
  refine .optional_list (Shows.before (.line ?_) (.each fun f _ => functionLink_shows s f))
  apply Reads.literal
  rfl

theorem modulePage_shows (s : SiteSettings) (m : ModuleDoc) :
    Shows (modulePage s m) (moduleHeadTags s m ++ sectionTags s m) := by
  have htitle : Shows (text m.name ++ raw " - " ++ text s.title) [] := by
    refine Shows.before (Shows.before (.text _) ?_) (.text _)
    apply Reads.literal
    rfl
  have hdescription (d : Data) :
      Shows (optional 12 d.isTrue (line 12 (raw "<p>" ++ text d.display ++ raw "</p>"))) [] := by
    refine .optional_nil (.line (.enclosed ?_ ?_ _))
    all_goals
      apply Reads.literal
      rfl
  unfold modulePage moduleHeadTags sectionTags
  rw [← List.append_assoc]
  -- the sections, from the end of the page
  refine Shows.after ?_ (documentEnd_shows "../")
  refine Shows.append (Shows.after ?_ (.gap 0)) (functionsSection_shows s m)
  refine Shows.append (Shows.after ?_ (.gap 0)) (.each fun c _ => classSection_shows s c)
  refine Shows.after (Shows.after (Shows.after (Shows.after (Shows.after ?_ (.gap 0)) (.line ?_))
    (hdescription _)) (docsPart_shows ..)) (.line ?_)
  -- the contents
  refine Shows.after (Shows.after ?_ ?main) (moduleHeader_shows s m)
  refine Shows.append (Shows.append ?_ (.each fun c _ => classLinks_shows s c))
    (functionLinks_shows s m)
  refine Shows.after (Shows.append ?_ (.optional (editControls_shows .nil))) ?list
  refine Shows.after (Shows.after (Shows.append ?_ ?nav) (.line (.enclosed ?_ ?_ _))) (.line ?_)
  exact Shows.after (documentHead_shows "../" htitle) (bodyStart_shows s.editable)
  case main | list =>
    repeat refine .lines_skip (by apply Reads.literal; rfl) ?_
    exact .lines_nil
  case nav =>
    refine .lines_skip ?_ (.lines_skip ?_ (.lines_mark ?_ .lines_nil))
    all_goals
      apply Reads.literal
      rfl
  all_goals
    apply Reads.literal
    rfl

/-! ## anchors and documented components -/

/-- a class and its methods that are on a page, each with its anchor -/
def SiteSettings.classBlocks (s : SiteSettings) (c : ClassDoc) : List (Kind × String) :=
  (.classDef, classAnchor c) :: (c.methods.filter s.lists).map fun m => (.method, methodAnchor c m)

/-- the components of a module that are on its page, each with its anchor -/
def SiteSettings.pageBlocks (s : SiteSettings) (m : ModuleDoc) : List (Kind × String) :=
  (s.shownClasses m).flatMap s.classBlocks ++
    (s.shownFunctions m).map fun f => (.function, functionAnchor f)

theorem markedClass_eq (s : SiteSettings) (name id : String) :
    markedClass s name id = name ∨ markedClass s name id = name ++ " excluded" := by
  unfold markedClass
  split
  · exact .inr rfl
  · exact .inl String.append_empty

theorem block?_methodTag (s : SiteSettings) (c : ClassDoc) (m : MethodDoc) :
    (methodTag s c m).block? = some (.method, some (methodAnchor c m)) := by
  rw [methodTag]
  rcases markedClass_eq s "method" m.id with h | h
  · rw [h, Tag.block?_of_classed _ rfl]
  · rw [h, Tag.block?_of_classed _ rfl]

theorem block?_functionTag (s : SiteSettings) (f : FunctionDoc) :
    (functionTag s f).block? = some (.function, some (functionAnchor f)) := by
  rw [functionTag]
  rcases markedClass_eq s "function" f.id with h | h
  · rw [h, Tag.block?_of_classed _ rfl]
  · rw [h, Tag.block?_of_classed _ rfl]

theorem block?_classTag (c : ClassDoc) :
    (classTag c).block? = some (.classDef, some (classAnchor c)) :=
  Tag.block?_of_classed _ rfl

/-- A class and its methods have their anchors in the tags that start their sections. -/
theorem filterMap_classTags (s : SiteSettings) (c : ClassDoc) :
    (classTags s c).filterMap Tag.block? = (s.classBlocks c).map fun b => (b.1, some b.2) := by
  have hmethods : (c.methods.flatMap (methodTags s c)).filterMap Tag.block? =
      (c.methods.filter s.lists).map fun m => (Kind.method, some (methodAnchor c m)) := by
    induction c.methods with
    | nil => rfl
    | cons m ms ih =>
      rw [List.flatMap_cons, List.filterMap_append, ih, methodTags, List.filter_cons]
      cases s.lists m
      · rfl
      · rw [if_pos rfl, if_pos rfl, List.filterMap_cons, block?_methodTag]
        rfl
  rw [classTags, List.filterMap_append, hmethods, SiteSettings.classBlocks, List.map_cons,
    List.map_map, List.filterMap_cons, block?_classTag]
  rfl

theorem eq_anchorLink_of_mem {s : SiteSettings} {c : ClassDoc} {t : Tag}
    (h : t ∈ classLinkTags s c) : ∃ anchor, t = anchorLink anchor := by
  rw [classLinkTags, List.mem_cons, List.mem_flatMap] at h
  rcases h with rfl | ⟨m, _, hm⟩
  · exact ⟨_, rfl⟩
  · rw [methodLinkTags] at hm
    split at hm
    · exact ⟨_, List.mem_singleton.mp hm⟩
    · cases hm

def controlAnchors : List String := ["select-all-btn", "deselect-all-btn", "export-selections-btn"]

theorem mem_moduleHeadTags {s : SiteSettings} {m : ModuleDoc} {t : Tag}
    (h : t ∈ moduleHeadTags s m) :
    ∃ name attrs, t = .of name attrs ∧ name ≠ "section" ∧ name ≠ "div" := by
  have hlink (anchor : String) : ∃ name attrs, anchorLink anchor = .of name attrs ∧
    name ≠ "section" ∧ name ≠ "div" :=
    ⟨_, _, rfl, by decide, by decide⟩
  simp only [moduleHeadTags, List.mem_append, List.mem_flatMap, List.mem_singleton] at h
  rcases h with (((h | h) | h) | ⟨c, _, h⟩) | ⟨f, _, h⟩
  · exact ⟨_, _, h, by decide, by decide⟩
  · exact ⟨_, _, h, by decide, by decide⟩
  · split at h
    · simp only [controlTags, List.mem_cons, List.not_mem_nil, or_false] at h
      rcases h with h | h | h <;> exact ⟨_, _, h, by decide, by decide⟩
    · cases h
  · obtain ⟨anchor, rfl⟩ := eq_anchorLink_of_mem h
    exact hlink anchor
  · rw [h]
    exact hlink _

theorem blocks_modulePage (s : SiteSettings) (m : ModuleDoc) :
    blocks (modulePage s m).render = (s.pageBlocks m).map fun b => (b.1, some b.2) := by
  have hhead : (moduleHeadTags s m).filterMap Tag.block? = [] := by
    rw [List.filterMap_eq_nil_iff]
    intro t ht
    obtain ⟨name, attrs, rfl, hname⟩ := mem_moduleHeadTags ht
    exact Tag.block?_of hname attrs
  have hfunctions : ((s.shownFunctions m).flatMap fun f => [functionTag s f]).filterMap Tag.block? =
      (s.shownFunctions m).map fun f => (Kind.function, some (functionAnchor f)) := by
    rw [← List.map_eq_flatMap, List.filterMap_map, ← List.filterMap_eq_map]
    exact congrArg (List.filterMap · _) (funext fun f => block?_functionTag s f)
  rw [blocks_of_shows (modulePage_shows s m), List.filterMap_append, hhead, List.nil_append,
    sectionTags, List.filterMap_append, hfunctions, SiteSettings.pageBlocks, List.map_append,
    List.map_map, List.filterMap_flatMap, List.map_flatMap]
  simp only [filterMap_classTags]
  rfl

/-- The tags that start sections and blocks have no anchors but those of the components they
document. -/
theorem flatMap_values_sectionTags (s : SiteSettings) (m : ModuleDoc) :
    (sectionTags s m).flatMap (fun t => t.values "id") = (s.pageBlocks m).map (·.2) := by
  have hmethods (c : ClassDoc) : (c.methods.flatMap (methodTags s c)).flatMap
    (fun t => t.values "id") =
      (c.methods.filter s.lists).map (methodAnchor c) := by
    induction c.methods with
    | nil => rfl
    | cons m ms ih =>
      rw [List.flatMap_cons, List.flatMap_append, ih, methodTags, List.filter_cons]
      cases s.lists m
      · rfl
      · rw [if_pos rfl, if_pos rfl, List.flatMap_singleton, methodTag, Tag.values_of]
        rfl
  have hclass (c : ClassDoc) :
      (classTags s c).flatMap (fun t => t.values "id") = (s.classBlocks c).map (·.2) := by
    rw [classTags, List.flatMap_append, hmethods, List.flatMap_singleton, classTag, Tag.values_of,
      SiteSettings.classBlocks, List.map_cons, List.map_map]
    rfl
  have hfunction (f : FunctionDoc) : (functionTag s f).values "id" = [functionAnchor f] := by
    rw [functionTag, Tag.values_of]
    rfl
  rw [sectionTags, SiteSettings.pageBlocks, List.flatMap_append, List.flatMap_assoc,
    List.flatMap_assoc, List.map_append, List.map_map, List.map_flatMap]
  simp only [hclass, List.flatMap_singleton, hfunction, ← List.map_eq_flatMap]
  rfl

theorem anchors_modulePage (s : SiteSettings) (m : ModuleDoc) :
    anchors (modulePage s m).render =
      (if s.editable then controlAnchors else []) ++ (s.pageBlocks m).map (·.2) := by
  have hlink (anchor : String) : (anchorLink anchor).values "id" = [] := by
    rw [anchorLink, Tag.values_of]
    rfl
  have hclass (c : ClassDoc) : (classLinkTags s c).flatMap (fun t => t.values "id") = [] := by
    rw [List.flatMap_eq_nil_iff]
    intro t ht
    obtain ⟨anchor, rfl⟩ := eq_anchorLink_of_mem ht
    exact hlink anchor
  have hcontrols : controlTags.flatMap (fun t => t.values "id") = controlAnchors := by
    simp only [controlTags, List.flatMap_cons, List.flatMap_nil, Tag.values_of]
    rfl
  have hstart : (styleLink "../").values "id" = [] ∧
      (Tag.of "a" [("href", "../index.html"), ("class", "back-link")]).values "id" = [] := by
    rw [styleLink, Tag.values_of, Tag.values_of]
    exact ⟨rfl, rfl⟩
  rw [anchors_of_shows (modulePage_shows s m), List.flatMap_append, flatMap_values_sectionTags]
  congr 1
  simp only [moduleHeadTags, List.flatMap_append, List.flatMap_assoc, List.flatMap_singleton, hlink,
    hclass, hstart, List.nil_append, List.flatMap_eq_nil_iff.mpr fun _ _ => rfl, List.append_nil]
  cases s.editable
  · rfl
  · exact hcontrols

end Apidoc
