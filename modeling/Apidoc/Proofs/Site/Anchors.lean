import Apidoc.Proofs.Component.Exports
import Apidoc.Proofs.Site.PageNames
import Apidoc.Proofs.Site.Search

/-!
# Anchors that are met once

An anchor is made of names: of the name of a class or a function, or of a class and one of its
methods with a hyphen between.  No name of a class holds a hyphen, so that an anchor tells what it
was made of.  Two elements of a page share one if and only if they document components of one kind
and one name, methods of classes with one name.

* `ModuleDoc.Distinct`          no two such components have one name;
* `nodup_anchors_iff`           then, and only then, the anchors of a page are distinct;
* `Site.anchors_distinct_iff`   as they are read from the page that is written.
-/

namespace Apidoc

open Html Syntax

/-- No two classes, no two methods of one class and no two functions have one name. -/
structure ModuleDoc.Distinct (m : ModuleDoc) : Prop where
  classes : (m.classes.map (·.name)).Nodup
  methods : ∀ c ∈ m.classes, (c.methods.map (·.name)).Nodup
  functions : (m.functions.map (·.name)).Nodup

instance (m : ModuleDoc) : Decidable m.Distinct :=
  decidable_of_iff ((m.classes.map (·.name)).Nodup ∧
    (∀ c ∈ m.classes, (c.methods.map (·.name)).Nodup) ∧
    (m.functions.map (·.name)).Nodup)
    ⟨fun h => ⟨h.1, h.2.1, h.2.2⟩, fun h => ⟨h.classes, h.methods, h.functions⟩⟩

/-! ## names without a hyphen -/

theorem hyphen_not_mem_class {includePrivate : Bool} {path name text : String} {m : ModuleDoc}
    (h : readSource includePrivate path name text = .ok m) {c : ClassDoc} (hc : c ∈ m.classes) :
    '-' ∉ c.name.toList := by
  unfold readSource at h
  dsimp only at h
  split at h
  · cases h
  next ss hss =>
  have hlisted := readModule_listedFrom (ok_of_mapError h)
  have hmem : (Kind.classDef, c.name) ∈ m.definitions :=
    List.mem_append_left _ (List.mem_append_left _ (List.mem_map_of_mem hc))
  obtain ⟨s, hs, hdefined⟩ :=
    List.mem_flatMap.1 (List.mem_of_mem_filter (hlisted.definitions.mem_iff.1 hmem))
  unfold Stmt.definitions at hdefined
  split at hdefined
  · obtain ⟨-, hname⟩ := Prod.mk.inj (List.mem_singleton.1 hdefined)
    rw [hname]
    exact parseModule_named hss hs
  · cases (Prod.mk.inj (List.mem_singleton.1 hdefined)).1
  · obtain ⟨id, -, heq⟩ := List.mem_map.1 hdefined
    cases (Prod.mk.inj heq).1
  · cases (Prod.mk.inj (List.mem_singleton.1 hdefined)).1
  · cases hdefined

/-! ## anchors of a class -/

theorem nodup_map_congr {α β γ : Type} {f : α → β} {g : α → γ} (h : ∀ x y, f x = f y ↔ g x = g y)
    (xs : List α) : (xs.map f).Nodup ↔ (xs.map g).Nodup := by
  unfold List.Nodup
  rw [List.pairwise_map, List.pairwise_map]
  simp only [ne_eq, h]

def classAnchors (c : ClassDoc) : List String := classAnchor c :: c.methods.map (methodAnchor c)

theorem methodAnchor_inj {c d : ClassDoc} (hc : '-' ∉ c.name.toList) (hd : '-' ∉ d.name.toList)
    {f g : MethodDoc} :
    methodAnchor c f = methodAnchor d g ↔ c.name = d.name ∧ f.name = g.name := by
  rw [methodAnchor_eq, methodAnchor_eq]
  constructor
  · exact fun h => cut_inj rfl hc hd (Kind.anchor_inj h).2
  · rintro ⟨hclass, hmethod⟩
    rw [hclass, hmethod]

theorem classAnchor_ne_methodAnchor (c d : ClassDoc) (f : MethodDoc) :
    classAnchor c ≠ methodAnchor d f := by
  rw [classAnchor_eq, methodAnchor_eq]
  intro h
  cases (Kind.anchor_inj h).1

theorem nodup_classAnchors_iff {c : ClassDoc} (hc : '-' ∉ c.name.toList) :
    (classAnchors c).Nodup ↔ (c.methods.map (·.name)).Nodup := by
  have hown : classAnchor c ∉ c.methods.map (methodAnchor c) := by
    rw [List.mem_map]
    rintro ⟨f, -, heq⟩
    exact classAnchor_ne_methodAnchor c c f heq.symm
  rw [classAnchors, List.nodup_cons, and_iff_right hown]
  exact nodup_map_congr (fun f g => (methodAnchor_inj hc hc).trans (and_iff_right rfl)) _

theorem disjoint_classAnchors_iff {c d : ClassDoc} (hc : '-' ∉ c.name.toList)
    (hd : '-' ∉ d.name.toList) :
    List.Disjoint (classAnchors c) (classAnchors d) ↔ c.name ≠ d.name := by
  constructor
  · intro hdisjoint hname
    refine hdisjoint List.mem_cons_self ?_
    rw [classAnchor_eq, hname]
    exact List.mem_cons_self
  · intro hname a ha hb
    rcases List.mem_cons.1 ha with rfl | ha
    · rcases List.mem_cons.1 hb with hb | hb
      · rw [classAnchor_eq, classAnchor_eq] at hb
        exact hname (Kind.anchor_inj hb).2
      · obtain ⟨g, -, heq⟩ := List.mem_map.1 hb
        exact classAnchor_ne_methodAnchor c d g heq.symm
    · obtain ⟨f, -, rfl⟩ := List.mem_map.1 ha
      rcases List.mem_cons.1 hb with hb | hb
      · exact classAnchor_ne_methodAnchor d c f hb.symm
      · obtain ⟨g, -, heq⟩ := List.mem_map.1 hb
        exact hname ((methodAnchor_inj hd hc).1 heq).1.symm

/-! ## anchors of a page -/

theorem anchors_blocks (s : SiteSettings) (m : ModuleDoc) :
    (blocks (modulePage s m).render).filterMap (·.2) = (s.pageBlocks m).map (·.2) := by
  rw [blocks_modulePage, List.filterMap_map]
  exact congrFun List.filterMap_eq_map _

theorem links_modulePage (s : SiteSettings) (m : ModuleDoc) :
    links (modulePage s m).render = "../index.html" :: (s.pageBlocks m).map fun b =>
      "#" ++ b.2 := by
  have hlink (a : String) : (anchorLink a).targets = ["#" ++ a] := targets_link _
  have hmethods (c : ClassDoc) : (c.methods.flatMap (methodLinkTags s c)).flatMap Tag.targets =
      (c.methods.filter s.lists).map fun f => "#" ++ methodAnchor c f := by
    induction c.methods with
    | nil => rfl
    | cons f fs ih =>
      rw [List.flatMap_cons, List.flatMap_append, ih, methodLinkTags, List.filter_cons]
      cases s.lists f
      · rfl
      · rw [if_pos rfl, if_pos rfl, List.flatMap_singleton, hlink]
        rfl
  have hclass (c : ClassDoc) :
      (classLinkTags s c).flatMap Tag.targets = (s.classBlocks c).map fun b => "#" ++ b.2 := by
    rw [classLinkTags, List.flatMap_cons, hlink, hmethods, SiteSettings.classBlocks, List.map_cons,
      List.map_map]
    rfl
  have hsections : (sectionTags s m).flatMap Tag.targets = [] := by
    refine List.flatMap_eq_nil_iff.2 fun t ht => ?_
    rcases List.mem_append.1 ht with ht | ht
    · obtain ⟨c, -, ht⟩ := List.mem_flatMap.1 ht
      rcases List.mem_append.1 ht with ht | ht
      · rw [List.mem_singleton.1 ht]
        rfl
      · obtain ⟨f, -, ht⟩ := List.mem_flatMap.1 ht
        rw [methodTags] at ht
        split at ht
        · rw [List.mem_singleton.1 ht]
          rfl
        · cases ht
    · obtain ⟨f, -, ht⟩ := List.mem_flatMap.1 ht
      rw [List.mem_singleton.1 ht]
      rfl
  have hstart : ([styleLink "../"] ++
    [Tag.of "a" [("href", "../index.html"), ("class", "back-link")]] ++
      if s.editable then controlTags else []).flatMap Tag.targets = ["../index.html"] := by
    cases s.editable <;> rfl
  rw [links_of_shows (modulePage_shows s m), List.flatMap_append, hsections, List.append_nil,
    moduleHeadTags, List.flatMap_append, List.flatMap_append, hstart, List.flatMap_assoc,
    List.flatMap_assoc, SiteSettings.pageBlocks, List.map_append, List.map_flatMap, List.map_map]
  simp only [hclass, List.flatMap_singleton, hlink, ← List.map_eq_flatMap]
  rfl

theorem SiteSettings.anchors_pageBlocks {s : SiteSettings} (hall : s.selections = [])
    (m : ModuleDoc) :
    (s.pageBlocks m).map (·.2) = m.classes.flatMap classAnchors ++
      m.functions.map functionAnchor := by
  have hshows (id : String) : s.shows id = true := by rw [shows, hall]; rfl
  have hlists (f : MethodDoc) : s.lists f = true := by rw [lists, hshows, Bool.or_true]
  have hclass (c : ClassDoc) : (s.classBlocks c).map (·.2) = classAnchors c := by
    rw [classBlocks, List.filter_eq_self.2 fun f _ => hlists f, List.map_cons, List.map_map]
    rfl
  rw [pageBlocks, shownClasses, shownFunctions, List.filter_eq_self.2 fun c _ => hshows c.id,
    List.filter_eq_self.2 fun f _ => hshows f.id, List.map_append, List.map_map, List.map_flatMap]
  simp only [hclass]
  rfl

theorem nodup_anchors_iff {m : ModuleDoc} (hclass : ∀ c ∈ m.classes, '-' ∉ c.name.toList) :
    (m.classes.flatMap classAnchors ++ m.functions.map functionAnchor).Nodup ↔ m.Distinct := by
  have hapart : List.Disjoint (m.classes.flatMap classAnchors)
      (m.functions.map functionAnchor) := by
    intro a ha hb
    obtain ⟨c, -, ha⟩ := List.mem_flatMap.1 ha
    obtain ⟨f, -, rfl⟩ := List.mem_map.1 hb
    rw [functionAnchor_eq] at ha
    rcases List.mem_cons.1 ha with ha | ha
    · rw [classAnchor_eq] at ha
      cases (Kind.anchor_inj ha).1
    · obtain ⟨g, -, heq⟩ := List.mem_map.1 ha
      rw [methodAnchor_eq] at heq
      cases (Kind.anchor_inj heq).1
  have hfunctions : (m.functions.map functionAnchor).Nodup ↔ (m.functions.map (·.name)).Nodup := by
    refine nodup_map_congr (fun f g => ?_) _
    rw [functionAnchor_eq, functionAnchor_eq]
    exact ⟨fun h => (Kind.anchor_inj h).2, fun h => by rw [h]⟩
  have hclasses : m.classes.Pairwise (fun c d => List.Disjoint (classAnchors c) (classAnchors d)) ↔
      (m.classes.map (·.name)).Nodup := by
    unfold List.Nodup
    rw [List.pairwise_map]
    exact List.Pairwise.iff_of_mem fun hc hd => disjoint_classAnchors_iff (hclass _ hc)
      (hclass _ hd)
  rw [List.nodup_append', List.nodup_flatMap, hfunctions]
  constructor
  · rintro ⟨⟨hmethods, hpairs⟩, hnames, -⟩
    exact ⟨hclasses.1 hpairs, fun c hc => (nodup_classAnchors_iff (hclass c hc)).1
      (hmethods c hc), hnames⟩
  · rintro ⟨hnames, hmethods, hfunctions⟩
    exact ⟨⟨fun c hc => (nodup_classAnchors_iff (hclass c hc)).2 (hmethods c hc),
      hclasses.2 hnames⟩, hfunctions, hapart⟩

namespace Site

/-- **When an anchor is met once.** On the page of a module that was read from a source text,
without selections, the elements of classes, methods and functions have distinct anchors if and only
if no two classes, no two methods of one class and no two functions have one name.  Then the
contents of the page and the search index lead to one element each. -/
theorem anchors_distinct_iff {site : Site} (hall : site.settings.selections = [])
    {includePrivate : Bool} {path name text : String} {m : ModuleDoc}
    (hread : readSource includePrivate path name text = .ok m) (hm : m ∈ site.modules) :
    ∃ page, (pageFile m.path, page) ∈ site.pages ∧
      (((blocks page).filterMap (·.2)).Nodup ↔ m.Distinct) ∧
      (m.Distinct → ∀ a, "#" ++ a ∈ links page ∨
        (∃ e ∈ moduleSearch site.settings (site.settings.finds (componentIndex site.modules)) m,
          e.url = pageUrl m.path ++ "#" ++ a) →
        ((blocks page).filterMap (·.2)).count a = 1) := by
  have hnodup : ((site.settings.pageBlocks m).map (·.2)).Nodup ↔ m.Distinct := by
    rw [SiteSettings.anchors_pageBlocks hall]
    exact nodup_anchors_iff fun c hc => hyphen_not_mem_class hread hc
  refine ⟨_, page_mem (shownModules_eq hall ▸ hm), ?_⟩
  rw [anchors_blocks, links_modulePage]
  refine ⟨hnodup, fun hdistinct a ha => List.count_eq_one_of_mem (hnodup.2 hdistinct) ?_⟩
  rcases ha with hlink | ⟨e, he, hurl⟩
  · rcases List.mem_cons.1 hlink with hback | hlink
    · -- the link back to the index page is none to an anchor
      have hhead := congrArg String.toList hback
      rw [String.toList_append] at hhead
      cases (List.cons.inj hhead).1
    · obtain ⟨b, hb, heq⟩ := List.mem_map.1 hlink
      rw [← (String.append_right_inj _).1 heq]
      exact List.mem_map_of_mem hb
  · rw [moduleSearch_found hm] at he
    rcases url_of_mem_moduleSearch he with hself | ⟨b, hb, hfragment⟩
    · -- the module itself is found at the top of the page
      have hlength := congrArg String.length (hself.symm.trans hurl)
      rw [String.length_append, String.length_append] at hlength
      have hmark : "#".length = 1 := rfl
      omega
    · rw [hfragment, String.append_right_inj] at hurl
      rwa [← hurl]

/-- names that would make one anchor if a hyphen were an underscore, and a function called like a
class -/
def likeText : String :=
  "class A:\n    def b_c(self): ...\nclass A_b:\n    def c(self): ...\ndef A(): ...\n"

theorem likeText_anchors :
    ∃ m page, readSource false "like.py" "like" likeText = .ok m ∧ m.Distinct ∧
    (pageFile m.path, page) ∈ (ofModules [m] []).pages ∧ ((blocks page).filterMap (·.2)).Nodup := by
  have heval : (readSource false "like.py" "like" likeText).toOption.any
      (fun m => decide m.Distinct) = true := by
    decide +kernel
  cases h : readSource false "like.py" "like" likeText with
  | error e =>
    rw [h] at heval
    cases heval
  | ok m =>
    rw [h] at heval
    have hdistinct := of_decide_eq_true heval
    have hsite : (ofModules [m] []).settings.selections = [] ∧ m ∈ (ofModules [m] []).modules :=
      ⟨rfl, List.mem_singleton.2 rfl⟩
    obtain ⟨page, hpage, hnodup, -⟩ := anchors_distinct_iff hsite.1 h hsite.2
    exact ⟨m, page, rfl, hdistinct, hpage, hnodup.2 hdistinct⟩

def boxText : String :=
  "class Box:\n    @property\n    def size(self): ...\n    @size.setter\n    def size(self, n): ...\n" ++
  "    @size.deleter\n    def size(self): ...\n"

/-- The methods that set and delete a property share their anchor. -/
theorem boxText_anchors : ∃ m page, readSource false "box.py" "box" boxText = .ok m ∧
    (pageFile m.path, page) ∈ (ofModules [m] []).pages ∧
    (blocks page).filterMap (·.2) = ["class-Box", "method-Box-size", "method-Box-size"] ∧
    ¬ ((blocks page).filterMap (·.2)).Nodup := by
  have heval : (readSource false "box.py" "box" boxText).toOption.any (fun m =>
      m.classes.flatMap classAnchors ++ m.functions.map functionAnchor ==
        ["class-Box", "method-Box-size", "method-Box-size"]) = true := by decide +kernel
  cases h : readSource false "box.py" "box" boxText with
  | error e =>
    rw [h] at heval
    cases heval
  | ok m =>
    rw [h] at heval
    have hanchors := eq_of_beq heval
    rw [← SiteSettings.anchors_pageBlocks (s := (ofModules [m] []).settings) rfl,
      ← anchors_blocks] at hanchors
    refine ⟨m, _, rfl, page_mem (List.mem_singleton.2 rfl), hanchors, ?_⟩
    rw [hanchors]
    decide

end Site

end Apidoc
