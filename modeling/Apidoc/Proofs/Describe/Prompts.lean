import Apidoc.Describe.Prompt
import Apidoc.Proofs.Text.Cut
import Apidoc.Proofs.Text.Words

/-!
# Reading prompts

What a prompt asks for stands in its lines.

* `Prompt.listed`, `Prompt.question?`   the components that are read from the lines of a prompt;
* `Prompt.Listable`                     no text of a component looks like the start of another one;
* `Prompt.lists_batchPrompt`            a batch is listed in order, and listable components are read
                                        back;
* `Prompt.asks_describePrompt`          so is a component that is asked for on its own.
-/

namespace Apidoc.Prompt

variable {c : Component} {cs : List Component}

/-! ## lines -/

def linesOf (text : String) : List (List Char) := Text.splitOn '\n' text.toList

theorem linesOf_lines (p : String) (ps : List String) :
    linesOf (lines (p :: ps)) = (p :: ps).flatMap linesOf := by
  rw [linesOf, lines, String.toList_intercalate, List.map_cons]
  exact (Text.splitOn_intercalate '\n' _ _).trans (List.flatMap_map String.toList _ (p :: ps))

theorem linesOf_eq {text : String} (h : '\n' ∉ text.toList) : linesOf text = [text.toList] :=
  Text.splitOn_of_not_mem h

theorem linesOf_label {label text : String} (hlabel : '\n' ∉ label.toList)
    (h : '\n' ∉ text.toList) : linesOf (label ++ text) = [label.toList ++ text.toList] := by
  rw [← String.toList_append]
  refine linesOf_eq ?_
  rw [String.toList_append, List.mem_append, not_or]
  exact ⟨hlabel, h⟩

theorem newline_not_mem_kind (k : Kind) : '\n' ∉ k.text.toList := by
  cases k <;> decide

/-! ## lists of components -/

structure Listing where
  id : String
  name : String
  kind : String
  deriving DecidableEq, Repr

def listing (c : Component) : Listing := ⟨c.id, c.header.name, c.kind.text⟩

def idMark : List Char := "- ID: ".toList

/-- the components in some lines, each with three lines of its own -/
def readListings : List (List Char) → List Listing
  | id :: name :: kind :: rest =>
    match Text.dropWord? idMark id, Text.dropWord? "  Name: ".toList name,
      Text.dropWord? "  Type: ".toList kind with
    | some i, some n, some k => ⟨.ofList i, .ofList n, .ofList k⟩ :: readListings rest
    | _, _, _ => readListings (name :: kind :: rest)
  | _ => []

def listed (prompt : String) : List Listing := readListings (linesOf prompt)

theorem readListings_cons {l : List Char} (h : Text.dropWord? idMark l = none)
    (ls : List (List Char)) : readListings (l :: ls) = readListings ls := by
  match ls with
  | [] => rfl
  | [_] => rfl
  | _ :: _ :: _ => rw [readListings, h]

theorem readListings_append {skipped : List (List Char)}
    (h : ∀ l ∈ skipped, Text.dropWord? idMark l = none) (ls : List (List Char)) :
    readListings (skipped ++ ls) = readListings ls := by
  induction skipped with
  | nil => rfl
  | cons l skipped ih =>
    rw [List.forall_mem_cons] at h
    rw [List.cons_append, readListings_cons h.1, ih h.2]

theorem readListings_listing (c : Component) (ls : List (List Char)) :
    readListings ((idMark ++ c.id.toList) :: ("  Name: ".toList ++ c.header.name.toList) ::
      ("  Type: ".toList ++ c.kind.text.toList) :: ls) = listing c :: readListings ls := by
  simp only [readListings, Text.dropWord?_append, String.ofList_toList]
  rfl

/-! ## components that can be read back -/

/-- the texts in which a function is told, besides its name and its documentation -/
def signature : Component → List String
  | .function f => f.parameters.map (·.name) ++ f.returns.toList
  | .method m => m.parameters.map (·.name) ++ m.returns.toList
  | _ => []

/-- No text of the component looks like the start of another one. -/
structure Listable (c : Component) : Prop where
  id : '\n' ∉ c.id.toList
  name : '\n' ∉ c.header.name.toList
  docs : ∀ d ∈ c.header.docs, ¬ '\n' :: idMark <:+: d.toList
  signature : ∀ t ∈ signature c, '\n' ∉ t.toList

theorem mem_line {label text : String} {s : Option String} (h : text ∈ line label s) :
    ∃ t ∈ s, text = label ++ t := by
  obtain ⟨t, ht, rfl⟩ := Option.map_eq_some_iff.mp (Option.mem_toList.mp h)
  exact ⟨t, (Option.mem_filter_iff.mp ht).1, rfl⟩

theorem mem_names {label text : String} {ns : List String} (h : text ∈ names label ns) :
    text = label ++ commas ns := by
  rw [names] at h
  split at h
  · cases h
  · exact List.mem_singleton.mp h

theorem newline_not_mem_commas {ns : List String} (h : ∀ n ∈ ns, '\n' ∉ n.toList) :
    '\n' ∉ (commas ns).toList := by
  rw [commas, String.toList_intercalate]
  induction ns with
  | nil => exact List.not_mem_nil
  | cons n ns ih =>
    rw [List.forall_mem_cons] at h
    cases ns with
    | nil => simpa [List.intercalate] using h.1
    | cons m ns =>
      rw [List.map_cons, List.map_cons, List.intercalate_cons_cons, List.mem_append,
        List.mem_append, not_or, not_or]
      exact ⟨⟨h.1, by decide⟩, ih h.2⟩

theorem not_infix_shorten {text : String} (h : ¬ '\n' :: idMark <:+: text.toList) (n : Nat) :
    ¬ '\n' :: idMark <:+: (shorten n text).toList := by
  rw [shorten]
  split
  · rw [String.toList_append, String.toList_ofList]
    intro (hshort : "\n- ID:".toList ++ [' '] <:+: _)
    -- the word ends with a blank, so the points are no part of it
    have hstart := Text.isInfix_of_last hshort (by decide)
    exact h (hstart.trans (List.take_prefix n _).isInfix)
  · exact h

/-- No line of a text after a label with blanks in front starts a component. -/
theorem unmarked {label text : String} (hblank : label.toList.head? = some ' ')
    (hlabel : '\n' ∉ label.toList) (h : ¬ '\n' :: idMark <:+: text.toList) :
    ∀ l ∈ linesOf (label ++ text), Text.dropWord? idMark l = none := by
  intro l hl
  rw [← Option.not_isSome_iff_eq_none, Text.dropWord?_isSome]
  intro hstart
  rw [linesOf, String.toList_append] at hl
  rcases Text.starts_of_mem_splitOn hl hstart with hfirst | hafter
  · obtain ⟨rest, hrest⟩ := List.head?_eq_some_iff.mp hblank
    rw [hrest, List.cons_append] at hfirst
    exact absurd (List.cons_prefix_cons.mp hfirst).1 (by decide)
  · exact h (Text.isInfix_of_first hafter hlabel)

theorem unmarked_line {label text : String} (hblank : label.toList.head? = some ' ')
    (hlabel : '\n' ∉ label.toList) (h : '\n' ∉ text.toList) :
    ∀ l ∈ linesOf (label ++ text), Text.dropWord? idMark l = none :=
  unmarked hblank hlabel fun hmark => h (hmark.subset List.mem_cons_self)

/-- After the lines with id, name and kind there is none that starts a component. -/
theorem batchLines_eq (c : Component) : ∃ more, batchLines c =
      ("- ID: " ++ c.id) :: ("  Name: " ++ c.header.name) :: ("  Type: " ++ c.kind.text) :: more ∧
    (Listable c → ∀ l ∈ more.flatMap linesOf, Text.dropWord? idMark l = none) := by
  refine ⟨_, rfl, fun hc l hl => ?_⟩
  obtain ⟨text, htext, hl⟩ := List.mem_flatMap.mp hl
  have hfunction (parameters : List ParameterDoc) (returns : Option String)
      (hone : ∀ t ∈ parameters.map (·.name) ++ returns.toList, '\n' ∉ t.toList)
      (h : text ∈ names "  Parameters: " (parameters.map (·.name)) ++ line "  Returns: " returns) :
      Text.dropWord? idMark l = none := by
    rw [List.forall_mem_append] at hone
    rcases List.mem_append.mp h with h | h
    · rw [mem_names h] at hl
      exact unmarked_line rfl (by decide) (newline_not_mem_commas hone.1) l hl
    · obtain ⟨t, ht, rfl⟩ := mem_line h
      exact unmarked_line rfl (by decide) (hone.2 t (Option.mem_toList.mpr ht)) l hl
  rcases List.mem_append.mp htext with h | h
  · obtain ⟨t, ht, rfl⟩ := mem_line h
    obtain ⟨d, hd, rfl⟩ := Option.map_eq_some_iff.mp ht
    exact unmarked rfl (by decide) (not_infix_shorten (hc.docs d hd) 200) l hl
  · cases c with
    | function f => exact hfunction f.parameters f.returns hc.signature h
    | method m => exact hfunction m.parameters m.returns hc.signature h
    | _ => cases h

theorem readListings_batchLines (hc : Listable c) (ls : List (List Char)) :
    readListings (linesOf (lines (batchLines c)) ++ ls) = listing c :: readListings ls := by
  obtain ⟨more, hlines, hmore⟩ := batchLines_eq c
  rw [hlines, linesOf_lines, List.flatMap_cons, List.flatMap_cons, List.flatMap_cons,
    linesOf_label (by decide) hc.id, linesOf_label (by decide) hc.name,
    linesOf_label (by decide) (newline_not_mem_kind _)]
  refine (readListings_listing c _).trans ?_
  rw [List.append_eq, List.append_eq]
  exact congrArg _ (readListings_append (hmore hc) ls)

theorem readListings_batch (h : ∀ c ∈ cs, Listable c) (ls : List (List Char)) :
    readListings ((cs.flatMap fun c => [lines (batchLines c), ""]).flatMap linesOf ++ ls) =
      cs.map listing ++ readListings ls := by
  induction cs with
  | nil => rfl
  | cons c cs ih =>
    rw [List.forall_mem_cons] at h
    rw [List.flatMap_cons, List.flatMap_append, List.flatMap_cons, List.append_assoc,
      List.append_assoc, readListings_batchLines h.1, List.map_cons, List.cons_append, ← ih h.2]
    exact congrArg _ (readListings_cons rfl _)

theorem listed_batchPrompt (h : ∀ c ∈ cs, Listable c) :
    listed (batchPrompt cs) = cs.map listing := by
  rw [listed, batchPrompt, List.cons_append, List.cons_append, linesOf_lines, ← List.cons_append,
    ← List.cons_append, List.flatMap_append, List.flatMap_append, List.append_assoc,
    readListings_append (by decide), readListings_batch h, ← List.append_nil (List.flatMap _ _),
    readListings_append (by decide)]
  exact List.append_nil _

/-! ## what stands in a prompt -/

def opening (c : Component) : String :=
  lines ["- ID: " ++ c.id, "  Name: " ++ c.header.name, "  Type: " ++ c.kind.text]

/-- The components stand in the prompt one after the other, and those that can be read back are what
is listed. -/
structure Lists (prompt : String) (cs : List Component) : Prop where
  shown : ∃ (before after : List Char) (text : Component → List Char),
    (∀ c, (opening c).toList <+: text c) ∧
    prompt.toList = before ++ cs.flatMap text ++ after
  read : (∀ c ∈ cs, Listable c) → listed prompt = cs.map listing

theorem toList_lines_concat (ps : List String) (p : String) :
    (lines (ps ++ [p])).toList = (ps.flatMap fun q => q.toList ++ ['\n']) ++ p.toList := by
  induction ps with
  | nil => exact congrArg String.toList String.intercalate_singleton
  | cons q ps ih =>
    have hne : ps ++ [p] ≠ [] := List.append_ne_nil_of_right_ne_nil ps (List.cons_ne_nil p [])
    rw [List.cons_append, lines, String.intercalate_cons_of_ne_nil hne, String.toList_append,
      String.toList_append, ← lines, ih, List.flatMap_cons, List.append_assoc _ _ p.toList]
    rfl

theorem lines_isPrefix (ps more : List String) :
    (lines ps).toList <+: (lines (ps ++ more)).toList := by
  by_cases hps : ps = []
  · rw [hps]
    exact List.nil_prefix
  by_cases hmore : more = []
  · rw [hmore, List.append_nil]
  · rw [lines, lines, String.intercalate_append_of_ne_nil hps hmore, String.toList_append,
      String.toList_append, List.append_assoc]
    exact List.prefix_append _ _

theorem opening_isPrefix (c : Component) :
    (opening c).toList <+: (lines (batchLines c)).toList := by
  obtain ⟨more, hlines, -⟩ := batchLines_eq c
  rw [hlines]
  exact lines_isPrefix _ more

theorem lists_batchPrompt (cs : List Component) : Lists (batchPrompt cs) cs := by
  let text (c : Component) : List Char := (lines (batchLines c)).toList ++ ['\n'] ++ ['\n']
  have hshown (c : Component) : (opening c).toList <+: text c :=
    (opening_isPrefix c).trans ((List.prefix_append _ _).trans (List.prefix_append _ _))
  have htext : ((cs.flatMap fun c => [lines (batchLines c), ""]).flatMap fun q =>
    q.toList ++ ['\n']) =
      cs.flatMap text := by
    rw [List.flatMap_assoc]
    rfl
  refine ⟨?_, listed_batchPrompt⟩
  rw [batchPrompt, toList_lines_concat, List.flatMap_append, htext]
  exact ⟨_, _, text, hshown, rfl⟩

/-! ## one component -/

structure Question where
  kind : String
  name : String
  place : String
  deriving DecidableEq, Repr

def question (c : Component) : Question :=
  ⟨c.kind.text, c.header.name, c.header.path ++ ":" ++ toString c.header.line⟩

def Question.text (q : Question) : String :=
  lines ["Generate documentation for the following " ++ q.kind ++ ":\n", "Name: " ++ q.name,
    "File: " ++ q.place]

def question? (prompt : String) : Option Question :=
  match linesOf prompt with
  | kind :: _ :: name :: place :: _ => do
    let kind ← Text.dropWord? "Generate documentation for the following ".toList kind
    let name ← Text.dropWord? "Name: ".toList name
    let place ← Text.dropWord? "File: ".toList place
    return ⟨.ofList kind.dropLast, .ofList name, .ofList place⟩
  | _ => none

/-- The prompt starts with the component, and it is read back if its name and its path are on one
line. -/
structure Asks (prompt : String) (c : Component) : Prop where
  shown : (question c).text.toList <+: prompt.toList
  read : '\n' ∉ c.header.name.toList → '\n' ∉ c.header.path.toList → question? prompt =
    some (question c)

theorem linesOf_title (kind : String) (h : '\n' ∉ kind.toList) :
    linesOf ("Generate documentation for the following " ++ kind ++ ":\n") =
      ["Generate documentation for the following ".toList ++ (kind.toList ++ [':']), []] := by
  have hone : '\n' ∉ "Generate documentation for the following ".toList ++
      (kind.toList ++ [':']) := by
    rw [List.mem_append, List.mem_append, not_or, not_or]
    exact ⟨by decide, h, by decide⟩
  have hcut : ("Generate documentation for the following " ++ kind ++ ":\n").toList =
      "Generate documentation for the following ".toList ++ (kind.toList ++ [':']) ++
        '\n' :: [] := by
    rw [String.toList_append, String.toList_append, List.append_assoc, List.append_assoc,
      List.append_assoc]
    rfl
  rw [linesOf, hcut, Text.splitOn_append, Text.splitOn_of_not_mem hone]
  rfl

theorem asks_describePrompt (c : Component) (context : Context) :
    Asks (describePrompt c context) c := by
  obtain ⟨more, hlines⟩ : ∃ more, describePrompt c context =
      lines (("Generate documentation for the following " ++ c.kind.text ++ ":\n") ::
        ("Name: " ++ c.header.name) ::
        ("File: " ++ c.header.path ++ ":" ++ toString c.header.line) :: more) := ⟨_, rfl⟩
  have hfile : "File: " ++ c.header.path ++ ":" ++ toString c.header.line = "File: " ++
      (question c).place := by
    rw [question, String.append_assoc, String.append_assoc, String.append_assoc]
  rw [hlines, hfile]
  refine ⟨lines_isPrefix _ more, fun hname hpath => ?_⟩
  have hplace : '\n' ∉ (question c).place.toList := by
    rw [question, String.toList_append, String.toList_append, List.mem_append, List.mem_append,
      not_or, not_or]
    exact ⟨⟨hpath, by decide⟩, not_mem_toString (by decide) rfl _⟩
  rw [question?, linesOf_lines, List.flatMap_cons, List.flatMap_cons, List.flatMap_cons,
    linesOf_title _ (newline_not_mem_kind _), linesOf_label (by decide) hname,
    linesOf_label (by decide) hplace]
  simp only [List.cons_append, List.nil_append, Text.dropWord?_append, Option.bind_eq_bind,
    Option.bind_some, List.dropLast_concat, String.ofList_toList]
  rfl

end Apidoc.Prompt
