import Apidoc.Page.Index
import Apidoc.Proofs.Page.Frame

/-!
# The links of the index page

Every link of the index page stands in the table of contents: one for each entry that is listed, and
one for each listed entry below it.
-/

namespace Apidoc

open Markup Html

/-! ## entries -/

/-- Whether an entry is listed on the index page. -/
def isOnIndex (editable : Bool) (s : Selections) (id : String) : Bool := editable || s.includes id

def childTags (editable : Bool) (s : Selections) (path : String) (h : Heading) : List Tag :=
  if isOnIndex editable s h.id then [.of "a" [("href", entryUrl path h)]] else []

def entryTags (editable : Bool) (s : Selections) (e : Entry) : List Tag :=
  if isOnIndex editable s e.id then
    .of "a" [("href", pageUrl e.heading.path)] ::
      e.children.flatMap fun c => childTags editable s e.heading.path c.heading
  else []

theorem itemStart_shows (h : Heading) (included : Bool) :
    Shows (raw "<li " ++ attr "class" (entryClass h included) ++ raw ">") [] := by
  have hopen : Reads .text (raw "<li ") [] (.inside (.of "li" [])) := by
    apply Reads.literal
    rfl
  exact (hopen.before .attr_class).before (.close_unmarked (Tag.isMarked_of (by decide) _))

theorem itemEnd_shows : Shows (raw "</li>") [] := by
  apply Reads.literal
  rfl

theorem childItem_shows (editable : Bool) (s : Selections) (path : String) (h : Heading) :
    Shows (childItem editable s path h) (childTags editable s path h) := by
  have hlink (n : Nat) : Shows
      (line n (raw "<a " ++ attr "href" (entryUrl path h) ++ raw ">") ++ line (n + 4)
        (text h.title) ++
        line n (raw "</a>")) [.of "a" [("href", entryUrl path h)]] :=
    ((Reads.line (linkStart_shows _)).after (.line (.text _))).after (.line linkEnd_shows)
  unfold childItem childTags isOnIndex
  refine (Reads.gap 28).before (.optional ?_)
  exact ((Reads.line (itemStart_shows ..)).before
    (checkedLink_shows editable 32 (fun n => checkbox_shows n ..) hlink)).after
      (.line itemEnd_shows)

theorem childList_shows (editable : Bool) (s : Selections) (path : String) (es : List Entry) :
    Shows (optional 20 (!es.isEmpty)
      (line 20 (raw "<ul class=\"toc-children\">") ++
        each 24 es (fun c => childItem editable s path c.heading) ++ line 20 (raw "</ul>")))
      (es.flatMap fun c => childTags editable s path c.heading) := by
  refine .optional_list (Shows.after (Shows.before (.line ?_)
    (.each fun c _ => childItem_shows editable s path c.heading)) (.line ?_))
  all_goals
    apply Reads.literal
    rfl

theorem entryItem_shows (editable : Bool) (s : Selections) (e : Entry) :
    Shows (entryItem editable s e) (entryTags editable s e) := by
  have hgaps :
    Shows (if Text.isSuffix ".py".toList (Text.substitute (fun c => c == '/' || c == '\\') '_'
      e.heading.path.toList) then gap 24 ++ gap 20 else []) [] := by
    split
    · exact (Reads.gap 24).before (.gap 20)
    · exact .nil
  have hlink (n : Nat) : Shows (line n (link (pageUrl e.heading.path) (text e.heading.title)))
      [.of "a" [("href", pageUrl e.heading.path)]] := .line (link_shows _ (.text _))
  unfold entryItem entryTags isOnIndex
  refine (Reads.gap 16).before (.optional ?_)
  exact (((((Reads.line (itemStart_shows ..)).before (.gap 20)).before (.gap 20)).before
    hgaps).before
    (checkedLink_shows editable 20 (fun n => checkbox_shows n ..) hlink)).append
      (childList_shows editable s e.heading.path e.children) |>.after (.line itemEnd_shows)

/-! ## the page -/

set_option maxRecDepth 2000 in
theorem indexIntroduction_shows (editable : Bool) : Shows (indexIntroduction editable) [] := by
  have h : Shows (indexIntroduction editable) (if editable then [] else []) := by
    refine .either ?_ ?_
    · refine .lines_skip ?_ (.lines_skip ?_ (.lines_skip ?_ .lines_nil))
      all_goals
        apply Reads.literal
        rfl
    · refine .lines_skip ?_ .lines_nil
      apply Reads.literal
      rfl
  rwa [ite_self] at h

def indexHeadTags (editable : Bool) : List Tag :=
  [styleLink ""] ++ [.of "input" [("type", "text"), ("id", "search-input"),
    ("placeholder", "Search...")]] ++
    if editable then controlTags else []

def indexTailTags : List Tag :=
  [.of "div" [("id", "search-results"), ("class", "search-results"), ("style", "display: none;")],
   .of "ul" [("id", "results-list")]]

theorem heading_shows (title : String) : Shows (raw "<h1>" ++ text title ++ raw "</h1>") [] := by
  refine .enclosed ?_ ?_ _
  all_goals
    apply Reads.literal
    rfl

theorem indexPage_shows (title stamp : String) (editable : Bool) (entries : List Entry)
    (s : Selections) :
    Shows (indexPage title stamp editable entries s)
      (indexHeadTags editable ++ entries.flatMap (entryTags editable s) ++ indexTailTags) := by
  unfold indexPage indexHeadTags indexTailTags
  -- what follows the table of contents, from the end of the page
  refine Shows.after ?_ (documentEnd_shows "")
  refine Shows.append ?_ ?results
  refine Shows.after (Shows.after ?_ ?stats) (.line ?count)
  refine Shows.after (Shows.after (Shows.after ?_ ?overview) (indexIntroduction_shows editable))
    (.gap 0)
  refine Shows.after (Shows.after (Shows.after (Shows.after ?_ ?main) (.line (heading_shows title)))
    (.line ?stamp)) (.optional_nil (.line ?badge))
  refine Shows.append ?_ (.each fun e _ => entryItem_shows editable s e)
  -- what precedes it
  refine Shows.after (Shows.append ?_ (.optional (editControls_shows (.line ?hint)))) ?toc
  refine Shows.append ?_ ?search
  refine Shows.after (Shows.after ?_ ?nav) (.line (heading_shows title))
  exact (documentHead_shows "" (.text title)).after (bodyStart_shows editable)
  case results =>
    refine .lines_skip ?_ (.lines_skip ?_ (.lines_mark ?_ (.lines_skip ?_ (.lines_mark ?_
      (.lines_skip ?_ .lines_nil)))))
    all_goals
      apply Reads.literal
      rfl
  case search =>
    refine .lines_skip ?_ (.lines_mark ?_ (.lines_skip ?_ (.lines_skip ?_ .lines_nil)))
    all_goals
      apply Reads.literal
      rfl
  case count | stamp =>
    refine .enclosed ?_ ?_ _
    all_goals
      apply Reads.literal
      rfl
  case badge | hint =>
    apply Reads.literal
    rfl
  all_goals
    repeat refine .lines_skip (by apply Reads.literal; rfl) ?_
    exact .lines_nil

/-! ## the links -/

def entryLinks (editable : Bool) (s : Selections) (e : Entry) : List String :=
  if isOnIndex editable s e.id then
    pageUrl e.heading.path :: (e.children.filter fun c => isOnIndex editable s c.id).map fun c =>
      entryUrl e.heading.path c.heading
  else []

theorem targets_link (url : String) : (Tag.of "a" [("href", url)]).targets = [url] := by
  rw [Tag.targets, Tag.values_of]
  rfl

theorem targets_entryTags (editable : Bool) (s : Selections) (e : Entry) :
    (entryTags editable s e).flatMap Tag.targets = entryLinks editable s e := by
  have hchildren (es : List Entry) :
      (es.flatMap fun c => childTags editable s e.heading.path c.heading).flatMap Tag.targets
        = (es.filter fun c => isOnIndex editable s c.id).map fun c =>
          entryUrl e.heading.path c.heading := by
    induction es with
    | nil => rfl
    | cons c es ih =>
      rw [List.flatMap_cons, List.flatMap_append, ih, List.filter_cons, childTags]
      by_cases h : isOnIndex editable s c.id = true
      · rw [if_pos h, if_pos (show isOnIndex editable s c.heading.id = true from h),
          List.flatMap_singleton, targets_link]
        rfl
      · rw [if_neg h, if_neg (show ¬ isOnIndex editable s c.heading.id = true from h)]
        rfl
  unfold entryTags entryLinks
  split
  · rw [List.flatMap_cons, targets_link, hchildren]
    rfl
  · rfl

theorem links_indexPage (title stamp : String) (editable : Bool) (entries : List Entry)
    (s : Selections) :
    links (indexPage title stamp editable entries s).render =
      entries.flatMap (entryLinks editable s) := by
  have hhead : (indexHeadTags editable).flatMap Tag.targets = [] := by
    cases editable <;> rfl
  have htail : indexTailTags.flatMap Tag.targets = [] := by rfl
  rw [links_of_shows (indexPage_shows ..), List.flatMap_append, List.flatMap_append, hhead, htail,
    List.append_nil, List.nil_append, List.flatMap_assoc]
  congr 1
  funext e
  exact targets_entryTags editable s e

end Apidoc
