import Apidoc.Page.Script

/-!
# What the script of a page exports

On an editable page the script puts the selections that were made there into a file.  It fills in
templates, some for the start of the file and some for each selection.

* `Export.fill`       a template with values for its names;
* `Export.text`       the file for some selections at some time;
* `Export.text_eq`    its lines.
-/

namespace Apidoc.Export

/-- A template with line ends for their escapes, and values for the names in braces after a dollar
sign; `name` holds the start of a name, the last character first. -/
def fill (values : List (String × String)) : Option (List Char) → List Char → List Char
  | none, '\\' :: 'n' :: cs => '\n' :: fill values none cs
  | none, '$' :: '\x7b' :: cs => fill values (some []) cs
  | none, c :: cs => c :: fill values none cs
  | some name, '\x7d' :: cs =>
    ((values.lookup (String.ofList name.reverse)).getD "").toList ++ fill values none cs
  | some name, c :: cs => fill values (some (c :: name)) cs
  | _, [] => []

def fillAll (values : List (String × String)) (templates : List String) : List Char :=
  templates.flatMap fun t => fill values none t.toList

def truthText (b : Bool) : String := if b then "true" else "false"

/-- The file that the script writes at a time for some ids, each included or not. -/
def text (now : String) (selections : List (String × Bool)) : String :=
  String.ofList (fillAll [("now", now)] (titleTemplate :: openingTemplates) ++
    selections.flatMap fun p => fillAll [("id", p.1), ("data.included", truthText p.2)]
      entryTemplates)

/-! ## templates -/

variable {values : List (String × String)} {cs rest : List Char}

theorem fill_text (h : cs.all (fun c => c != '\\' && c != '$') = true) (rest : List Char) :
    fill values none (cs ++ rest) = cs ++ fill values none rest := by
  induction cs with
  | nil => rfl
  | cons c cs ih =>
    rw [List.all_cons, Bool.and_eq_true, Bool.and_eq_true, bne_iff_ne, bne_iff_ne] at h
    rw [List.cons_append, fill.eq_3 _ _ _ (fun _ e => absurd e h.1.1) (fun _ e => absurd e h.1.2),
      ih h.2]
    rfl

theorem fill_name {name : List Char} (h : '\x7d' ∉ name) (rest : List Char) :
    fill values none ('$' :: '\x7b' :: (name ++ '\x7d' :: rest)) =
      ((values.lookup (String.ofList name)).getD "").toList ++ fill values none rest := by
  have hname (start : List Char) : fill values (some start) (name ++ '\x7d' :: rest) =
      ((values.lookup (String.ofList (start.reverse ++ name))).getD "").toList ++
        fill values none rest := by
    induction name generalizing start with
    | nil => rw [List.nil_append, fill, List.append_nil]
    | cons c name ih =>
      rw [List.mem_cons, not_or] at h
      rw [List.cons_append, fill.eq_5 _ _ _ _ (fun e => h.1 e.symm), ih h.2, List.reverse_cons,
        List.append_assoc]
      rfl
  exact hname []

theorem fill_line {t : String} (rest : List Char) (ht : t.toList = cs ++ '\\' :: 'n' :: rest)
    (h : cs.all (fun c => c != '\\' && c != '$') = true) :
    fill values none t.toList = cs ++ '\n' :: fill values none rest := by
  rw [ht, fill_text h, fill]

/-! ## lines -/

def comments : List String :=
  ["# DocuAgent Selections", "# Generated from editable documentation mode",
   "# To use: place in .docuagent/selections.yaml and run: docuagent generate --use-selections"]

/-- Every line is ended. -/
def ended (lines : List String) : List Char := lines.flatMap fun l => l.toList ++ ['\n']

def field (key : String) (value : List Char) : List Char := key.toList ++ ':' :: value

def lines (now : String) (below : List Char) : List Char :=
  field "version" " \"1.0\"".toList ++ '\n' ::
    (field "updated_at" (' ' :: '"' :: (now.toList ++ ['"'])) ++
    '\n' :: (field "metadata" " \x7b\x7d".toList ++ '\n' :: field "selections" below))

def entryBody (b : Bool) : List Char :=
  '\n' :: ("    included: ".toList ++ (truthText b).toList ++
    '\n' :: ("    custom_title: null".toList ++ '\n' :: "    custom_description: null".toList))

def entryLines : List (String × Bool) → List Char
  | [] => []
  | [p] => field p.1 (entryBody p.2)
  | p :: ps => field p.1 (entryBody p.2) ++ '\n' :: ' ' :: ' ' :: entryLines ps

def body (selections : List (String × Bool)) : List Char :=
  if selections.isEmpty then [] else '\n' :: ' ' :: ' ' :: entryLines selections

theorem fillAll_entry (id : String) (b : Bool) :
    fillAll [("id", id), ("data.included", truthText b)] entryTemplates =
      ' ' :: ' ' :: (field id (entryBody b) ++ ['\n']) := by
  have hid : fill [("id", id), ("data.included", truthText b)] none "  $\x7bid\x7d:\\n".toList =
      ' ' :: ' ' :: (id.toList ++ [':', '\n']) := by
    rw [show "  $\x7bid\x7d:\\n".toList =
      "  ".toList ++ '$' :: '\x7b' :: ("id".toList ++ '\x7d' :: ":\\n".toList) from rfl,
      fill_text (by decide), fill_name (by decide)]
    rfl
  have hincluded : fill [("id", id), ("data.included", truthText b)] none
      "    included: $\x7bdata.included\x7d\\n".toList =
      "    included: ".toList ++ ((truthText b).toList ++ ['\n']) := by
    rw [show "    included: $\x7bdata.included\x7d\\n".toList =
      "    included: ".toList ++ '$' :: '\x7b' ::
        ("data.included".toList ++ '\x7d' :: "\\n".toList) from rfl,
      fill_text (by decide), fill_name (by decide)]
    rfl
  have htitle : fill [("id", id), ("data.included", truthText b)] none
    "    custom_title: null\\n".toList =
      "    custom_title: null".toList ++ ['\n'] :=
        fill_line [] (by decide +kernel) (by decide +kernel)
  have hdescription : fill [("id", id), ("data.included", truthText b)] none
    "    custom_description: null\\n".toList =
      "    custom_description: null".toList ++ ['\n'] :=
        fill_line [] (by decide +kernel) (by decide +kernel)
  simp only [fillAll, entryTemplates, List.flatMap_cons, List.flatMap_nil, hid, hincluded, htitle,
    hdescription, field, entryBody, List.append_assoc, List.cons_append, List.nil_append]

theorem fillAll_opening (now : String) :
    fillAll [("now", now)] (titleTemplate :: openingTemplates) = ended comments ++ '\n' ::
      lines now ['\n'] := by
  have hnow : fill [("now", now)] none "updated_at: \"$\x7bnow\x7d\"\\n".toList =
      field "updated_at" (' ' :: '"' :: (now.toList ++ ['"'])) ++ ['\n'] := by
    rw [show "updated_at: \"$\x7bnow\x7d\"\\n".toList =
      "updated_at: \"".toList ++ '$' :: '\x7b' ::
        ("now".toList ++ '\x7d' :: "\"\\n".toList) from rfl,
      fill_text (by decide), fill_name (by decide)]
    show "updated_at: \"".toList ++ (now.toList ++ ['"', '\n']) =
      "updated_at: \"".toList ++ (now.toList ++ ['"']) ++ ['\n']
    rw [List.append_assoc, List.append_assoc]
    rfl
  have htitle : fill [("now", now)] none "# DocuAgent Selections\\n".toList =
      "# DocuAgent Selections".toList ++ ['\n'] :=
        fill_line [] (by decide +kernel) (by decide +kernel)
  have horigin : fill [("now", now)] none "# Generated from editable documentation mode\\n".toList =
      "# Generated from editable documentation mode".toList ++ ['\n'] :=
    fill_line [] (by decide +kernel) (by decide +kernel)
  have huse : fill [("now", now)] none
      "# To use: place in .docuagent/selections.yaml and run: docuagent generate --use-selections\\n\\n".toList =
      "# To use: place in .docuagent/selections.yaml and run: docuagent generate --use-selections".toList ++
        ['\n', '\n'] := fill_line ['\\', 'n'] (by decide +kernel) (by decide +kernel)
  have hversion : fill [("now", now)] none "version: \"1.0\"\\n".toList =
    field "version" " \"1.0\"".toList ++ ['\n'] :=
    fill_line [] (by decide +kernel) (by decide +kernel)
  have hmetadata : fill [("now", now)] none "metadata: \x7b\x7d\\n".toList =
      field "metadata" " \x7b\x7d".toList ++ ['\n'] :=
    fill_line [] (by decide +kernel) (by decide +kernel)
  have hselections : fill [("now", now)] none "selections:\\n".toList = field "selections" ['\n'] :=
    (fill_line [] (by decide +kernel) (by decide +kernel) : _ = "selections:".toList ++ ['\n'])
  unfold fillAll titleTemplate openingTemplates ended comments lines
  simp only [List.flatMap_cons, List.flatMap_nil]
  rw [hnow, htitle, horigin, huse, hversion, hmetadata, hselections]
  -- the texts of the lines are not looked at any more
  generalize "# DocuAgent Selections".toList = title
  generalize "# Generated from editable documentation mode".toList = origin
  generalize
    "# To use: place in .docuagent/selections.yaml and run: docuagent generate --use-selections".toList = use
  generalize field "version" " \"1.0\"".toList = version
  generalize field "updated_at" (' ' :: '"' :: (now.toList ++ ['"'])) = updated
  generalize field "metadata" " \x7b\x7d".toList = metadata
  generalize field "selections" ['\n'] = selections
  simp

theorem flatMap_entries (selections : List (String × Bool)) :
    '\n' :: (selections.flatMap fun p => fillAll [("id", p.1), ("data.included", truthText p.2)]
      entryTemplates) =
      body selections ++ ['\n'] := by
  have hlines (p : String × Bool) (ps : List (String × Bool)) :
      ((p :: ps).flatMap fun p => fillAll [("id", p.1), ("data.included", truthText p.2)]
        entryTemplates) =
        ' ' :: ' ' :: (entryLines (p :: ps) ++ ['\n']) := by
    induction ps generalizing p with
    | nil => simp [fillAll_entry, entryLines]
    | cons q ps ih =>
      have hcons : entryLines (p :: q :: ps) =
          field p.1 (entryBody p.2) ++ '\n' :: ' ' :: ' ' :: entryLines (q :: ps) := rfl
      rw [List.flatMap_cons, ih q, fillAll_entry, hcons]
      simp only [List.append_assoc, List.cons_append, List.nil_append]
  cases selections with
  | nil => rfl
  | cons p ps =>
    rw [hlines]
    rfl

theorem lines_append (now : String) (below cs : List Char) :
    lines now (below ++ cs) = lines now below ++ cs := by
  have hlast : field "selections" (below ++ cs) = field "selections" below ++ cs := by
    rw [field, field, List.append_assoc, List.cons_append]
  unfold lines
  rw [hlast]
  generalize field "version" " \"1.0\"".toList = version
  generalize field "metadata" " \x7b\x7d".toList = metadata
  simp

theorem text_eq (now : String) (selections : List (String × Bool)) :
    (text now selections).toList = ended comments ++ '\n' ::
      (lines now (body selections) ++ ['\n']) := by
  rw [text, String.toList_ofList, fillAll_opening, List.append_assoc, List.cons_append,
    ← lines_append, List.singleton_append, flatMap_entries, lines_append]

end Apidoc.Export
