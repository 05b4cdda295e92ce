import Apidoc.Proofs.Data.Yaml.Document

/-!
# Maps from another hand

A map may have been written line by line by something else than the writer of this library.  What
counts is how each key and each value is scanned and read.

* `ValueRead`      the text behind a key, as tokens and as a node;
* `LinesRead`      lines of keys and values, as tokens and as nodes;
* `parse_headed`   a document of such lines under comments.
-/

namespace Apidoc.Yaml

open Blocks (KeyScans NextLine)

variable {indent : Nat} {cs ds V : List Char} {t : Token} {ts us : List Token} {k v : Node}
  {nodes : List (Node × Node)}

/-- The text behind a key is scanned as the tokens, and these are read as the node. -/
structure ValueRead (indent : Nat) (cs : List Char) (ts : List Token) (node : Node) : Prop where
  clean : Clean cs
  apart : Apart cs
  scans : ValueScans indent cs ts
  nodes : ValueNodes ts node

/-- The lines are scanned as the tokens, and these are read as the pairs of nodes. -/
structure LinesRead (indent : Nat) (cs : List Char) (ts : List Token) (nodes : List (Node × Node)) :
    Prop where
  clean : Clean cs
  starts : StartsLine cs
  scans : LinesScan .openMapping indent cs ts
  reads : PairNodes ts nodes

/-! ## values -/

theorem ReadsBack.valueRead {d : Data} (h : ReadsBack indent d ts v) (column : Nat) :
    ValueRead indent (afterKey indent column d) ts v :=
  ⟨h.clean column, fun _ _ _ _ => h.apart column _, h.scans column, h.nodes⟩

theorem LinesRead.below (h : LinesRead (indent + 2) cs ts nodes) :
    ValueRead indent ('\n' :: (spaces (indent + 2) ++ cs)) (.openMapping :: (ts ++ [.closeBlock]))
      (.mapping .mapping nodes) where
  clean := ((Clean.spaces _).append h.clean).cons (.inr rfl)
  apart _ _ _ _ := rfl
  scans := h.scans.below h.starts
  nodes := (nodes_mapping h.reads).valueNodes

/-- Characters that stand for themselves in double quotes, blanks apart. -/
def isInk (c : Char) : Bool := isAsciiText c && c != ' ' && c != '"' && c != '\\'

theorem isInk_iff {c : Char} :
    isInk c = true ↔ isAsciiText c = true ∧ c ≠ ' ' ∧ c ≠ '"' ∧ c ≠ '\\' := by
  simp [isInk, and_assoc]

theorem reads_ink (h : ∀ c ∈ cs, isInk c = true) (rest : List Char) :
    Quoted.Reads true (cs ++ '"' :: rest) (Text.points cs) rest := by
  induction cs with
  | nil => exact Quoted.reads_closing true rest nofun
  | cons c cs ih =>
    rw [List.forall_mem_cons] at h
    obtain ⟨hascii, hspace, hquote, hslash⟩ := isInk_iff.mp h.1
    exact (ih h.2).char (isGap_of_ascii hascii hspace) (fun _ => ⟨hquote, hslash⟩) nofun

theorem valueRead_ink (indent : Nat) (h : ∀ c ∈ cs, isInk c = true) :
    ValueRead indent (' ' :: '"' :: (cs ++ ['"'])) [.scalar cs false] (.scalar .str cs) where
  clean := by
    have hascii : Clean cs := .of_ascii fun c hc => (isInk_iff.mp (h c hc)).1
    exact ((hascii.append (Clean.nil.cons (.inl rfl))).cons (.inl rfl)).cons (.inl rfl)
  apart _ _ _ _ := rfl
  scans := by
    intro b c j text rest allowed hb hc hrest hnext hj
    have hquoted : c.rest = ' ' :: (('"' :: (cs ++ ['"'])) ++ text) := hrest
    obtain ⟨c', hc', hcolumn, hleads⟩ :=
      Blocks.leads_after hquoted hnext (t := .scalar cs false) (b := b) (by omega)
      fun c₁ hc₁ _ => by
        have hbody : (b.scan c₁ allowed).cursor.rest = '"' :: (cs ++ '"' :: text) :=
          hc₁.trans (by simp)
        obtain ⟨x, xs, hxs, hbegins, htoken⟩ := token_quoted true rfl hbody (reads_ink h text)
        exact ⟨x, xs, hxs, hbegins, .inr htoken⟩
    exact ⟨_, c', .refl _, hc', hcolumn, hleads⟩
  nodes := (nodes_scalar cs false).valueNodes

/-! ## lines -/

theorem apart_nil : Apart [] := by
  intro j text rest hnext
  rw [List.nil_append, hnext.line]
  rfl

theorem clean_line (hk : KeyScans cs t) (hV : Clean V) : Clean (cs ++ ':' :: V) :=
  (Clean.of_ascii hk.ascii).append (hV.cons (.inl rfl))

theorem LinesRead.one (hk : KeyScans cs t) (hnode : Nodes [t] k) (hv : ValueRead indent V ts v) :
    LinesRead indent (cs ++ ':' :: V) (.key :: t :: .value :: ts) [(k, v)] where
  clean := clean_line hk hv.clean
  starts := .of_key hk.toKeyToken V
  scans := .one hk hv.scans hv.apart
  reads := by
    have hpairs := PairNodes.cons hnode hv.nodes .nil
    rwa [List.append_nil] at hpairs

/-- A key with nothing behind it, at the end of the lines. -/
theorem LinesRead.bare (indent : Nat) (hk : KeyScans cs t) (hnode : Nodes [t] k) :
    LinesRead indent (cs ++ [':']) [.key, t, .value] [(k, .empty)] where
  clean := clean_line hk .nil
  starts := .of_key hk.toKeyToken []
  scans := .one hk (valueScans_nil indent) apart_nil
  reads n known rest hn := by
    obtain ⟨n, rfl⟩ : ∃ k, n = k + 2 := ⟨n - 2, by simp at hn; omega⟩
    have hkey := readOr_nodes [.key, .value, .closeBlock] (by simp) hnode true known
      (.value :: .closeBlock :: rest) (n := n + 1) (by simp at hn ⊢; omega)
    have hempty : Node.readOr [.key, .value, .closeBlock] true true (n + 1) known
      (.closeBlock :: rest) =
        some (.empty, known, .closeBlock :: rest) := rfl
    have hend := PairNodes.nil known rest (n := n + 1) (by simp)
    simp only [List.cons_append, List.nil_append] at hkey hend ⊢
    rw [Node.pairs]
    simp only [hkey, hempty, hend, Option.bind_eq_bind, Option.bind_some]
    rfl

theorem LinesRead.more (hk : KeyScans cs t) (hnode : Nodes [t] k) (hv : ValueRead indent V ts v)
    (h : LinesRead indent ds us nodes) :
    LinesRead indent ((cs ++ ':' :: V) ++ '\n' :: (spaces indent ++ ds))
      (.key :: t :: .value :: (ts ++ us))
      ((k, v) :: nodes) where
  clean := (clean_line hk hv.clean).append (((Clean.spaces _).append h.clean).cons (.inr rfl))
  starts := by
    rw [List.append_assoc, List.cons_append]
    exact .of_key hk.toKeyToken _
  scans := (LinesScan.one hk hv.scans hv.apart).append h.scans h.starts
  reads := .cons hnode hv.nodes h.reads

/-! ## documents -/

def isComment (l : String) : Bool := l.toList.head? == some '#' && l.toList.all isAsciiText

theorem gap_comment (h : ∀ c ∈ cs, isLineEnd c = false) (rest : List Char) :
    Scan.gap true (cs ++ '\n' :: rest) = ((Scan.gap false rest).1, true) := by
  induction cs with
  | nil => rfl
  | cons c cs ih =>
    rw [List.forall_mem_cons] at h
    rw [List.cons_append, Scan.gap, h.1, if_neg (by decide), if_pos rfl, ih h.2]

theorem gap_heading {ls : List String} (h : ∀ l ∈ ls, isComment l = true) (hcs : Begins cs) :
    Scan.gap false ((ls.flatMap fun l => l.toList ++ ['\n']) ++ '\n' :: cs) = (cs, true) := by
  induction ls with
  | nil => exact Scan.gap_line 0 hcs
  | cons l ls ih =>
    rw [List.forall_mem_cons, isComment, Bool.and_eq_true, List.all_eq_true, beq_iff_eq] at h
    obtain ⟨⟨hhash, hascii⟩, hls⟩ := h
    obtain ⟨l', hl'⟩ : ∃ l', l.toList = '#' :: l' := List.head?_eq_some_iff.mp hhash
    have hline : ∀ c ∈ l', isLineEnd c = false :=
      fun c hc => Cursor.isLineEnd_of_ascii (hascii c (by simp [hl', hc]))
    have hcomment (rest : List Char) : Scan.gap false (l.toList ++ '\n' :: rest) =
        ((Scan.gap false rest).1, true) := by
      rw [hl', List.cons_append, Scan.gap, if_neg (by decide), if_neg (by decide),
        if_neg (by decide), if_pos rfl, gap_comment hline]
    rw [List.flatMap_cons, List.append_assoc, List.append_assoc, List.singleton_append, hcomment,
      ih hls]

theorem clean_heading {ls : List String} (h : ∀ l ∈ ls, isComment l = true) :
    Clean (ls.flatMap fun l => l.toList ++ ['\n']) := by
  intro x hx
  obtain ⟨l, hl, hx⟩ := List.mem_flatMap.mp hx
  have hcomment := h l hl
  rw [isComment, Bool.and_eq_true, List.all_eq_true] at hcomment
  rcases List.mem_append.mp hx with hx | hx
  · exact .inl (hcomment.2 x hx)
  · exact .inr (List.mem_singleton.mp hx)

theorem parse_headed {text : String} {ls : List String} (hls : ∀ l ∈ ls, isComment l = true)
    (h : LinesRead 0 cs ts nodes)
    (htext : text.toList = (ls.flatMap fun l => l.toList ++ ['\n']) ++ '\n' :: (cs ++ ['\n'])) :
    Clean text.toList ∧ parse text = (Node.mapping .mapping nodes).value := by
  have hclean : Clean text.toList := by
    rw [htext]
    exact (clean_heading hls).append ((h.clean.append (Clean.nil.cons (.inr rfl))).cons (.inr rfl))
  refine ⟨hclean, parse_of_tokens ?_ h.reads⟩
  have hmark : (ls.flatMap fun l => l.toList ++ ['\n']).head? ≠ some '\ufeff' := by
    intro hhead
    rcases clean_heading hls _ (List.mem_of_mem_head? hhead) with hascii | hline
    · cases hascii
    · cases hline
  rw [htext] at hclean ⊢
  exact tokens?_headed h.scans h.starts (gap_heading hls (h.starts.begins _)) hmark hclean

end Apidoc.Yaml
