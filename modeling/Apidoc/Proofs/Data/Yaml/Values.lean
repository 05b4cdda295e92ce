import Apidoc.Proofs.Data.Ordered
import Apidoc.Proofs.Data.Yaml.Clean
import Apidoc.Proofs.Data.Yaml.Lines
import Apidoc.Proofs.Data.Yaml.Whole
import Apidoc.Data.Yaml.Reader

/-!
# Values that are read back

A value goes through three forms on its way back from its text: tokens, a node, and the value again.

* `Fits`             values that are written within the width of a line: texts, whole numbers, truth
                     values and nothing, in lists and in maps with keys of text;
* `Nodes`            the tokens of a node, wherever it stands, and `ValueNodes` those of a node
                     behind a key;
* `ReadsBack`        what is written for a value behind a key, in each of the three forms, and
                     `ReadsMarked` behind a mark;
* `Fits.reads`       what fits is read back, behind a key and behind a mark.
-/

namespace Apidoc.Yaml

open Ordered (keyed)
open Plain (Bare)
open Blocks (NextLine KeyScans keyScans_text)

/-- Texts, whole numbers, truth values and nothing, in lists and maps, not so deep that a folded
line would start beyond its own end; behind a key or a mark at the column `indent`. -/
inductive Fits : Nat → Data → Prop
  | null {indent : Nat} (h : indent + 2 < lineWidth) : Fits indent .null
  | bool {indent : Nat} (h : indent + 2 < lineWidth) (b : Bool) : Fits indent (.bool b)
  | int {indent : Nat} (h : indent + 2 < lineWidth) {n : Int}
      (hn : (Nat.toDigits 10 n.natAbs).length ≤ 4300) :
      Fits indent (.int n)
  | str {indent : Nat} (h : indent + 2 < lineWidth) (s : String) : Fits indent (.str s)
  | list {indent : Nat} {xs : List Data} (h : ∀ x ∈ xs, Fits (indent + 2) x) :
      Fits indent (.list xs)
  | object {indent : Nat} {fields : List (String × Data)}
      (hdeep : fields ≠ [] → indent + 4 < lineWidth)
      (hnames : ∀ f ∈ fields, FitsKey f.1) (hkeys : (fields.map (·.1)).Nodup)
      (h : ∀ f ∈ fields, Fits (indent + 2) f.2) :
      Fits indent (.object fields)

/-! ## nodes -/

section

variable {ts us : List Token} {node k v : Node} {xs : List Node} {ps : List (Node × Node)}

/-- The tokens are those of a node. -/
structure Nodes (ts : List Token) (node : Node) : Prop where
  starts : ∀ rest, Node.startsOneOf [.item, .key, .value, .closeBlock] (ts ++ rest) = false
  reads : ∀ (loose : Bool) {n : Nat} (known : Node.Known) (rest : List Token), 2 * ts.length ≤ n →
    Node.read true loose n known (ts ++ rest) = some (node, known, rest)

/-- The tokens are those of a node behind a key.  It may be a list that ends where no item comes. -/
structure ValueNodes (ts : List Token) (node : Node) : Prop where
  starts : ∀ rest, Node.startsOneOf [.key, .value, .closeBlock] (ts ++ rest) = false
  reads : ∀ {n : Nat} (known : Node.Known) (rest : List Token), rest.head? ≠ some .item →
    2 * ts.length + 2 ≤ n →
    Node.read true true n known (ts ++ rest) = some (node, known, rest)

theorem startsOneOf_subset {ends ends' : List Token} (hends : ends ⊆ ends')
    (h : Node.startsOneOf ends' ts = false) : Node.startsOneOf ends ts = false := by
  cases ts with
  | nil => rfl
  | cons t ts =>
    rw [Node.startsOneOf, Bool.eq_false_iff, ne_eq, List.contains_iff_mem] at h ⊢
    exact fun hmem => h (hends hmem)

theorem Nodes.valueNodes (h : Nodes ts node) : ValueNodes ts node :=
  ⟨fun rest => startsOneOf_subset (by simp) (h.starts rest), fun known rest _ hn =>
    h.reads true known rest (by omega)⟩

theorem readOr_nodes (ends : List Token) (hends : ends ⊆ [.item, .key, .value, .closeBlock])
    (h : Nodes ts node) (loose : Bool) {n : Nat} (known : Node.Known) (rest : List Token)
    (hn : 2 * ts.length < n) :
    Node.readOr ends true loose n known (ts ++ rest) = some (node, known, rest) := by
  obtain ⟨n, rfl⟩ : ∃ k, n = k + 1 := ⟨n - 1, by omega⟩
  rw [Node.readOr, startsOneOf_subset hends (h.starts rest), if_neg (by decide),
    h.reads loose known rest (by omega)]

theorem nodes_scalar (text : List Char) (plain : Bool) :
    Nodes [.scalar text plain] (.scalar (if plain then .ofPlain text else .str) text) := by
  refine ⟨fun rest => rfl, fun loose n known rest hn => ?_⟩
  obtain ⟨n, rfl⟩ : ∃ k, n = k + 1 := ⟨n - 1, by simp at hn; omega⟩
  cases plain <;> cases loose <;> rfl

theorem nodes_text (text : List Char) :
    Nodes [.scalar text (isPlain text)] (.scalar .str text) := by
  have hnodes := nodes_scalar text (isPlain text)
  split at hnodes
  · rename_i hplain
    rwa [(bare_of_isPlain hplain).2.2] at hnodes
  · exact hnodes

/-! ## nodes of maps and lists -/

/-- The tokens are those of pairs, up to the end of their block. -/
def PairNodes (ts : List Token) (ps : List (Node × Node)) : Prop :=
  ∀ ⦃n : Nat⦄ (known : Node.Known) (rest : List Token), 2 * ts.length < n →
    Node.pairs n known (ts ++ .closeBlock :: rest) = some (ps, known, rest)

theorem PairNodes.nil : PairNodes [] [] := by
  intro n known rest hn
  obtain ⟨n, rfl⟩ : ∃ k, n = k + 1 := ⟨n - 1, by omega⟩
  rfl

/-- Pairs do not start with an item. -/
theorem head?_of_pairs {n : Nat} {known : Node.Known} {r : List (Node × Node) × Node.Place}
    (h : Node.pairs n known ts = some r) : ts.head? ≠ some .item := by
  intro hhead
  obtain ⟨ts, rfl⟩ := List.head?_eq_some_iff.mp hhead
  cases n with
  | zero => cases h
  | succ n => cases h

theorem PairNodes.cons {t : Token} (hk : Nodes [t] k) (hv : ValueNodes ts v) (h : PairNodes us ps) :
    PairNodes (.key :: t :: .value :: (ts ++ us)) ((k, v) :: ps) := by
  intro n known rest hn
  simp only [List.length_cons, List.length_append] at hn
  obtain ⟨n, rfl⟩ : ∃ k, n = k + 2 := ⟨n - 2, by omega⟩
  have hrest := h known rest (n := n + 1) (by omega)
  have hkey := readOr_nodes [.key, .value, .closeBlock] (by simp) hk true known
    (.value :: (ts ++ (us ++ .closeBlock :: rest))) (n := n + 1) (by simp; omega)
  have hvalue : Node.readOr [.key, .value, .closeBlock] true true (n + 1) known
    (ts ++ (us ++ .closeBlock :: rest)) =
      some (v, known, us ++ .closeBlock :: rest) := by
    rw [Node.readOr, hv.starts, if_neg (by decide),
      hv.reads known _ (head?_of_pairs hrest) (by omega)]
  simp only [List.cons_append, List.nil_append, List.append_assoc] at hkey ⊢
  rw [Node.pairs]
  simp only [hkey, hvalue, hrest, Option.bind_eq_bind, Option.bind_some]
  rfl

theorem nodes_mapping (h : PairNodes ts ps) :
    Nodes (.openMapping :: (ts ++ [.closeBlock])) (.mapping .mapping ps) := by
  refine ⟨fun rest => rfl, fun loose n known rest hn => ?_⟩
  obtain ⟨n, rfl⟩ : ∃ k, n = k + 1 := ⟨n - 1, by simp at hn; omega⟩
  have hpairs := h known rest (n := n) (by simp at hn; omega)
  simp only [List.cons_append, List.append_assoc, List.nil_append]
  cases loose with
  | false => simp [Node.read, Node.properties, Node.isFreshName, hpairs, Node.named,
      Node.name, Node.tagOr]
  | true => simp [Node.read, Node.properties, Node.isFreshName, hpairs, Node.named,
      Node.name, Node.tagOr]

/-- The tokens are those of items, in a block of their own or at the column of a key. -/
structure ItemNodes (ts : List Token) (xs : List Node) : Prop where
  block : ∀ {n : Nat} (known : Node.Known) (rest : List Token), 2 * ts.length < n →
    Node.items n known (ts ++ .closeBlock :: rest) = some (xs, known, rest)
  loose : ∀ {n : Nat} (known : Node.Known) (rest : List Token), rest.head? ≠ some .item →
    2 * ts.length < n →
    Node.looseItems n known (ts ++ rest) = some (xs, known, rest)

theorem ItemNodes.nil : ItemNodes [] [] where
  block {n} known rest hn := by
    obtain ⟨n, rfl⟩ : ∃ k, n = k + 1 := ⟨n - 1, by omega⟩
    rfl
  loose {n} known rest hrest hn := by
    obtain ⟨n, rfl⟩ : ∃ k, n = k + 1 := ⟨n - 1, by omega⟩
    rw [List.nil_append]
    unfold Node.looseItems
    split
    · exact absurd rfl hrest
    · rfl

theorem ItemNodes.cons (hx : Nodes ts v) (h : ItemNodes us xs) :
    ItemNodes (.item :: (ts ++ us)) (v :: xs) where
  block {n} known rest hn := by
    simp only [List.length_cons, List.length_append] at hn
    obtain ⟨n, rfl⟩ : ∃ k, n = k + 1 := ⟨n - 1, by omega⟩
    have hitem :=
      readOr_nodes [.item, .closeBlock] (by simp) hx false known (us ++ .closeBlock :: rest)
      (n := n) (by omega)
    have hrest := h.block known rest (n := n) (by omega)
    simp only [List.cons_append, List.append_assoc]
    rw [Node.items]
    simp only [hitem, hrest, Option.bind_eq_bind, Option.bind_some]
    rfl
  loose {n} known rest hhead hn := by
    simp only [List.length_cons, List.length_append] at hn
    obtain ⟨n, rfl⟩ : ∃ k, n = k + 1 := ⟨n - 1, by omega⟩
    have hitem :=
      readOr_nodes [.item, .key, .value, .closeBlock] (by simp) hx false known (us ++ rest)
      (n := n) (by omega)
    have hrest := h.loose known rest hhead (n := n) (by omega)
    simp only [List.cons_append, List.append_assoc]
    rw [Node.looseItems]
    simp only [hitem, hrest, Option.bind_eq_bind, Option.bind_some]
    rfl

theorem nodes_sequence (h : ItemNodes ts xs) :
    Nodes (.openSequence :: (ts ++ [.closeBlock])) (.sequence .sequence xs) := by
  refine ⟨fun rest => rfl, fun loose n known rest hn => ?_⟩
  obtain ⟨n, rfl⟩ : ∃ k, n = k + 1 := ⟨n - 1, by simp at hn; omega⟩
  have hitems := h.block known rest (n := n) (by simp at hn; omega)
  simp only [List.cons_append, List.append_assoc, List.nil_append]
  cases loose with
  | false => simp [Node.read, Node.properties, Node.isFreshName, hitems, Node.named,
      Node.name, Node.tagOr]
  | true => simp [Node.read, Node.properties, Node.isFreshName, hitems, Node.named,
      Node.name, Node.tagOr]

theorem valueNodes_loose (h : ItemNodes (.item :: ts) xs) :
    ValueNodes (.item :: ts) (.sequence .sequence xs) := by
  refine ⟨fun rest => rfl, fun {n} known rest hhead hn => ?_⟩
  obtain ⟨n, rfl⟩ : ∃ k, n = k + 1 := ⟨n - 1, by omega⟩
  have hitems := h.loose known rest hhead (n := n) (by omega)
  simp only [List.cons_append] at hitems ⊢
  simp [Node.read, Node.properties, Node.isFreshName, hitems, Node.named, Node.name, Node.tagOr]

end

/-! ## texts of values -/

/-- A value is written as a text behind a key, scanned as tokens, and read as a node that stands for
it. -/
structure ReadsBack (indent : Nat) (v : Data) (ts : List Token) (node : Node) : Prop where
  clean : ∀ column, Clean (afterKey indent column v)
  apart : ∀ column rest, endsOr isGap (afterKey indent column v ++ rest) = true
  scans : ∀ column, ValueScans indent (afterKey indent column v) ts
  nodes : ValueNodes ts node
  value : node.value = .ok v

/-- A value is written as a text behind a mark, scanned as tokens, and read as a node that stands
for it. -/
structure ReadsMarked (indent : Nat) (v : Data) (ts : List Token) (node : Node) : Prop where
  clean : Clean (afterMark indent v)
  blank : ∃ cs, afterMark indent v = ' ' :: cs
  scans : MarkScans indent (afterMark indent v) ts
  nodes : Nodes ts node
  value : node.value = .ok v

/-- A value on the line of its key or of its mark. -/
structure Inline (indent : Nat) (v : Data) (ts : List Token) (node : Node) : Prop where
  clean : ∀ column, Clean (afterKey indent column v)
  blank : ∀ column, ∃ cs, afterKey indent column v = ' ' :: cs
  same : afterMark indent v = afterKey indent (indent + 1) v
  scans : ∀ column, ValueScans indent (afterKey indent column v) ts
  nodes : Nodes ts node
  value : node.value = .ok v

theorem Inline.readsBack {indent : Nat} {v : Data} {ts : List Token} {node : Node}
    (h : Inline indent v ts node) : ReadsBack indent v ts node where
  clean := h.clean
  apart column rest := by
    obtain ⟨cs, hcs⟩ := h.blank column
    rw [hcs]
    rfl
  scans := h.scans
  nodes := h.nodes.valueNodes
  value := h.value

theorem Inline.readsMarked {indent : Nat} {v : Data} {ts : List Token} {node : Node}
    (h : Inline indent v ts node) : ReadsMarked indent v ts node where
  clean := h.same ▸ h.clean _
  blank := h.same ▸ h.blank _
  scans := h.same ▸ (h.scans _).markScans
  nodes := h.nodes
  value := h.value

/-! ## scalars -/

theorem inline_str {indent : Nat} (h : indent + 2 < lineWidth) (s : String) :
    Inline indent (.str s) [.scalar s.toList (isPlain s.toList)] (.scalar .str s.toList) where
  clean column := (Clean.stringText _ _ _).cons (.inl rfl)
  blank _ := ⟨_, rfl⟩
  same := rfl
  scans column := by
    intro b c j text rest allowed hb hc hrest hnext hj
    have hbelow : b.Below (indent + 2) := ⟨by omega, by omega, h⟩
    obtain ⟨c', hc', hcolumn, hleads⟩ :=
      Blocks.leads_string hbelow hrest hnext (by omega) (by omega)
    exact ⟨_, c', .refl _, hc', hcolumn, hleads⟩
  nodes := nodes_text s.toList
  value := by rw [Node.value, Tag.value, String.ofList_toList]

theorem inline_form {indent : Nat} (h : indent + 2 < lineWidth) {v : Data}
    {cs : List Char} {t : Tag} (hcs : Bare cs) (hstart : startsStructure cs = false)
    (ht : Tag.ofPlain cs = t) (hv : t.value cs = .ok v)
    (hform : ∀ column, afterKey indent column v = ' ' :: wrap (some (indent + 2)) false
      (column + 1) none cs) (hsame : afterMark indent v = afterKey indent (indent + 1) v) :
    Inline indent v [.scalar cs true] (.scalar t cs) where
  clean column := by
    rw [hform]
    exact (Clean.wrap _ _ _ _ (.of_ascii hcs.ascii)).cons (.inl rfl)
  blank column := ⟨_, hform column⟩
  same := hsame
  scans column := by
    intro b c j text rest allowed hb hc hrest hnext hj
    rw [hform] at hrest
    have hbelow : b.Below (indent + 2) := ⟨by omega, by omega, h⟩
    obtain ⟨c', hc', hcolumn, hleads⟩ :=
      Blocks.leads_form hbelow hcs hstart hrest hnext (by omega) (by omega)
    exact ⟨_, c', .refl _, hc', hcolumn, hleads⟩
  nodes := ht ▸ nodes_scalar cs true
  value := by rw [Node.value, hv]

theorem inline_null {indent : Nat} (h : indent + 2 < lineWidth) :
    Inline indent .null [.scalar "null".toList true] (.scalar .null "null".toList) :=
  inline_form h ⟨by decide, List.all_eq_true.mp rfl, by decide, by decide, by decide⟩ (by decide)
    (by decide) rfl
    (fun _ => rfl) rfl

theorem inline_bool {indent : Nat} (h : indent + 2 < lineWidth) (b : Bool) :
    Inline indent (.bool b) [.scalar (if b then "true" else "false").toList true]
      (.scalar .bool (if b then "true" else "false").toList) := by
  cases b with
  | false =>
    exact inline_form h ⟨by decide, List.all_eq_true.mp rfl, by decide, by decide, by decide⟩
      (by decide) (by decide) rfl
      (fun _ => rfl) rfl
  | true =>
    exact inline_form h ⟨by decide, List.all_eq_true.mp rfl, by decide, by decide, by decide⟩
      (by decide) (by decide) rfl
      (fun _ => rfl) rfl

theorem inline_int {indent : Nat} (h : indent + 2 < lineWidth) {n : Int}
    (hn : (Nat.toDigits 10 n.natAbs).length ≤ 4300) :
    Inline indent (.int n) [.scalar (toString n).toList true]
    (.scalar .int (toString n).toList) := by
  have hdigits := decimal_toDigits n.natAbs
  refine inline_form h ?_ ?_ (ofPlain_toString n) (intValue_toString n hn) (fun _ => rfl) rfl
  · rw [toList_toString]
    exact hdigits.bare_signed n
  · rw [toList_toString]
    exact hdigits.startsStructure_signed n

/-! ## values of maps -/

theorem pairValues_nil : Node.pairValues [] = .ok ([], []) := by
  rw [Node.pairValues]

/-- A key that is neither the one of a merge nor the one of a default value. -/
theorem pairValues_own {tag : Tag} {text : List Char} {k v : Data} {node : Node}
    {nodes : List (Node × Node)} {pairs : Pairs} (htag : tag ≠ .merge ∧ tag ≠ .default)
    (hk : tag.value text = .ok k) (hkey : isKey k = true) (hv : node.value = .ok v)
    (hpairs : Node.pairValues nodes = .ok ([], pairs)) :
    Node.pairValues ((.scalar tag text, node) :: nodes) = .ok ([], (k, v) :: pairs) := by
  rw [Node.pairValues.eq_4 _ _ _ (fun _ e => htag.1 (Node.scalar.inj e).1)
    (fun _ e => htag.2 (Node.scalar.inj e).1), Node.value, hk]
  simp only [bind, Except.bind, hkey, Bool.not_true, Bool.false_eq_true, if_false, hv, hpairs]
  rfl

theorem pairValues_cons {k : String} {v : Data} {node : Node} {nodes : List (Node × Node)}
    {fields : List (String × Data)} (hv : node.value = .ok v)
    (hfields : Node.pairValues nodes = .ok ([], keyed fields)) :
    Node.pairValues ((.scalar .str k.toList, node) :: nodes) = .ok ([], keyed ((k, v) :: fields)) :=
  pairValues_own ⟨nofun, nofun⟩ (by rw [Tag.value, String.ofList_toList]) rfl hv hfields

theorem value_mapping {nodes : List (Node × Node)} {fields : List (String × Data)}
    (hkeys : (fields.map (·.1)).Nodup) (h : Node.pairValues nodes = .ok ([], keyed fields)) :
    (Node.mapping .mapping nodes).value = .ok (.object fields) := by
  rw [Node.value, h]
  show Except.ok (Data.map (Ordered.ofList ([] ++ keyed fields))) = _
  rw [List.nil_append, Ordered.ofList_keyed, Ordered.ofList_eq_self hkeys]
  rfl

theorem values_cons {v : Data} {vs : List Data} {node : Node} {nodes : List Node}
    (hv : node.value = .ok v) (hvs : Node.values nodes = .ok vs) :
    Node.values (node :: nodes) = .ok (v :: vs) := by
  rw [Node.values, hv, hvs]
  rfl

/-! ## empty maps and lists -/

/-- A value that is written as brackets with nothing between them. -/
theorem inline_brackets {indent : Nat} {v : Data} {x y : Char} {o e : Token} {node : Node}
    (hopen : ∀ (s : Scan) cs, s.token x cs = s.openFlow o)
    (hclose : ∀ (s : Scan) cs, s.token y cs = s.closeFlow e) (hx : ∀ cs, Begins (x :: cs))
    (hy : ∀ cs, Begins (y :: cs)) (hform : ∀ column, afterKey indent column v = [' ', x, y])
    (hsame : afterMark indent v = afterKey indent (indent + 1) v) (hnodes : Nodes [o, e] node)
    (hvalue : node.value = .ok v) : Inline indent v [o, e] node where
  clean column := by
    rw [hform]
    exact ((Clean.nil.cons (.inl (hy [] y rfl).1)).cons (.inl (hx [] x rfl).1)).cons (.inl rfl)
  blank column := ⟨_, hform column⟩
  same := hsame
  scans column := by
    intro b c j text rest allowed hb hc hrest hnext hj
    rw [hform] at hrest
    have hindent : b.indent ≤ c.column := by omega
    obtain ⟨c', hc', hcolumn, hleads⟩ :=
      Blocks.leads_brackets hopen hclose hx hy hrest hnext hindent
    exact ⟨_, c', .refl _, hc', hcolumn, hleads⟩
  nodes := hnodes
  value := hvalue

theorem inline_emptyMap (indent : Nat) :
    Inline indent (.map []) [.openBrace, .closeBrace] (.mapping .mapping []) := by
  refine inline_brackets Scan.token_openBrace Scan.token_closeBrace
    (begins_cons rfl (by decide) (by decide)) (begins_cons rfl (by decide) (by decide))
    (fun _ => rfl) rfl ⟨fun _ => rfl, fun loose n known rest hn => ?_⟩ ?_
  · obtain ⟨n, rfl⟩ : ∃ k, n = k + 2 := ⟨n - 2, by simp at hn; omega⟩
    cases loose <;> rfl
  · rw [Node.value, pairValues_nil]
    rfl

theorem inline_emptyList (indent : Nat) :
    Inline indent (.list []) [.openBracket, .closeBracket] (.sequence .sequence []) := by
  refine inline_brackets Scan.token_openBracket Scan.token_closeBracket
    (begins_cons rfl (by decide) (by decide)) (begins_cons rfl (by decide) (by decide))
    (fun _ => rfl) rfl ⟨fun _ => rfl, fun loose n known rest hn => ?_⟩ ?_
  · obtain ⟨n, rfl⟩ : ∃ k, n = k + 2 := ⟨n - 2, by simp at hn; omega⟩
    cases loose <;> rfl
  · rw [Node.value, Node.values]
    rfl

/-! ## maps -/

/-- The lines of one field: its key and its value are on one line, or each of them has a mark and a
line of its own. -/
structure FieldReads (indent : Nat) (k : String) (v : Data) (cs : List Char) (ts : List Token)
    (node : Node) : Prop where
  lines : ∀ ps, pairLines indent true ((.str k, v) :: ps) = cs ++ pairLines indent false ps
  clean : Clean cs
  starts : StartsLine cs
  scans : LinesScan .openMapping indent cs
    (.key :: .scalar k.toList (isPlain k.toList) :: .value :: ts)
  nodes : ValueNodes ts node
  value : node.value = .ok v

section

variable {indent : Nat} {k : String} {v : Data} {ts us : List Token} {node : Node} {cs : List Char}

theorem not_mem_of_isSimpleKey (hk : isSimpleKey (.str k) = true) : '\n' ∉ k.toList := by
  intro hmem
  simp only [isSimpleKey, Bool.and_eq_true, Bool.not_eq_true', List.any_eq_false] at hk
  exact hk.2 '\n' hmem rfl

theorem ReadsBack.fieldReads (hv : ReadsBack indent v ts node) (hk : isSimpleKey (.str k) = true)
    (hfits : FitsKey k) : ∃ cs, FieldReads indent k v cs ts node := by
  have hkey := keyScans_text (not_mem_of_isSimpleKey hk) (hfits hk)
  let column := indent + (stringText none 0 k.toList).length + 1
  refine ⟨stringText none 0 k.toList ++ ':' :: afterKey indent column v,
    ⟨fun ps => ?_, ?_, .of_key hkey.toKeyToken _,
    .one hkey (hv.scans column) fun _ _ _ _ => hv.apart column _, hv.nodes, hv.value⟩⟩
  · rw [pairLines, if_pos rfl, if_pos hk, List.nil_append]
    rfl
  · exact (Clean.stringText _ _ _).append ((hv.clean _).cons (.inl rfl))

theorem ReadsMarked.fieldReads (hv : ReadsMarked indent v ts node)
    (hk : isSimpleKey (.str k) = false) (hdeep : indent + 2 < lineWidth) :
    ∃ cs, FieldReads indent k v cs ts node := by
  have hkey := (inline_str hdeep k).readsMarked
  obtain ⟨K, hK⟩ := hkey.blank
  obtain ⟨V, hV⟩ := hv.blank
  have hfirst : LinesScan .openMapping indent ('?' :: ' ' :: K)
    [.key, .scalar k.toList (isPlain k.toList)] :=
    .mark (by decide) (hK ▸ hkey.scans)
  have hsecond : LinesScan .openMapping indent (':' :: ' ' :: V) (.value :: ts) :=
    .mark (by decide) (hV ▸ hv.scans)
  have hcolon : StartsLine (':' :: ' ' :: V) := .of_mark (by decide) V
  refine ⟨_, ⟨fun ps => ?_, ?_, ?_, hfirst.append hsecond hcolon, hv.nodes.valueNodes, hv.value⟩⟩
  · rw [pairLines, if_pos rfl, if_neg (by rw [hk]; decide), List.nil_append, hK, hV]
    simp [newline]
  · have hfirst : Clean ('?' :: ' ' :: K) := (hK ▸ hkey.clean).cons (.inl rfl)
    have hsecond : Clean (':' :: ' ' :: V) := (hV ▸ hv.clean).cons (.inl rfl)
    exact hfirst.append (((Clean.spaces _).append hsecond).cons (.inr rfl))
  · have hmark : StartsLine ('?' :: ' ' :: K) := .of_mark (by decide) K
    exact hmark.append _

structure PairsReadBack (indent : Nat) (fields : List (String × Data)) (ts : List Token)
    (ps : List (Node × Node)) : Prop where
  clean : Clean (pairLines indent true (keyed fields))
  starts : StartsLine (pairLines indent true (keyed fields))
  scans : LinesScan .openMapping indent (pairLines indent true (keyed fields)) ts
  nodes : PairNodes ts ps
  values : Node.pairValues ps = .ok ([], keyed fields)

theorem pairLines_next (indent : Nat) (f : String × Data) (fields : List (String × Data)) :
    pairLines indent false (keyed (f :: fields)) =
      '\n' :: (spaces indent ++ pairLines indent true (keyed (f :: fields))) := by
  show pairLines indent false ((.str f.1, f.2) :: keyed fields) =
    '\n' :: (spaces indent ++ pairLines indent true ((.str f.1, f.2) :: keyed fields))
  rw [pairLines, pairLines]
  simp [newline]

theorem exists_pairs {fields : List (String × Data)} (hne : fields ≠ [])
    (h : ∀ f ∈ fields, ∃ cs ts node, FieldReads indent f.1 f.2 cs ts node) :
    ∃ ts nodes, PairsReadBack indent fields ts nodes := by
  induction fields with
  | nil => exact absurd rfl hne
  | cons f fields ih =>
    obtain ⟨k, v⟩ := f
    rw [List.forall_mem_cons] at h
    obtain ⟨cs, ts, node, hfield⟩ := h.1
    have hlines : pairLines indent true (keyed ((k, v) :: fields)) = cs ++ pairLines indent false
      (keyed fields) :=
      hfield.lines _
    cases fields with
    | nil =>
      rw [show pairLines indent false (keyed []) = [] from rfl, List.append_nil] at hlines
      have hvalues : Node.pairValues [(.scalar .str k.toList, node)] = .ok ([], keyed [(k, v)]) :=
        pairValues_cons hfield.value pairValues_nil
      refine ⟨_, _, ⟨?_, ?_, ?_, .cons (nodes_text _) hfield.nodes .nil, hvalues⟩⟩
      · exact hlines ▸ hfield.clean
      · exact hlines ▸ hfield.starts
      · rw [hlines, List.append_nil]
        exact hfield.scans
    | cons g fields =>
      obtain ⟨us, nodes, hmore⟩ := ih (List.cons_ne_nil _ _) h.2
      rw [pairLines_next] at hlines
      refine ⟨_, _, ⟨?_, ?_, ?_, .cons (nodes_text _) hfield.nodes hmore.nodes,
        pairValues_cons hfield.value hmore.values⟩⟩
      · rw [hlines]
        exact hfield.clean.append (((Clean.spaces _).append hmore.clean).cons (.inr rfl))
      · rw [hlines]
        exact hfield.starts.append _
      · rw [hlines]
        exact hfield.scans.append hmore.scans hmore.starts

variable {f : String × Data} {fields : List (String × Data)} {nodes : List (Node × Node)}

theorem PairsReadBack.readsBack (h : PairsReadBack (indent + 2) (f :: fields) ts nodes)
    (hkeys : ((f :: fields).map (·.1)).Nodup) :
    ReadsBack indent (.object (f :: fields)) (.openMapping :: (ts ++ [.closeBlock]))
    (.mapping .mapping nodes) where
  clean column := by
    show Clean (pairLines (indent + 2) false (keyed (f :: fields)))
    rw [pairLines_next]
    exact ((Clean.spaces _).append h.clean).cons (.inr rfl)
  apart column rest := by
    show endsOr isGap (pairLines (indent + 2) false (keyed (f :: fields)) ++ rest) = true
    rw [pairLines_next]
    rfl
  scans column := by
    show ValueScans indent (pairLines (indent + 2) false (keyed (f :: fields))) _
    rw [pairLines_next]
    exact h.scans.below h.starts
  nodes := (nodes_mapping h.nodes).valueNodes
  value := value_mapping hkeys h.values

theorem PairsReadBack.readsMarked (h : PairsReadBack (indent + 2) (f :: fields) ts nodes)
    (hkeys : ((f :: fields).map (·.1)).Nodup) :
    ReadsMarked indent (.object (f :: fields)) (.openMapping :: (ts ++ [.closeBlock]))
    (.mapping .mapping nodes) where
  clean := h.clean.cons (.inl rfl)
  blank := ⟨_, rfl⟩
  scans := h.scans.tight h.starts
  nodes := nodes_mapping h.nodes
  value := value_mapping hkeys h.values

end

/-! ## lists -/

structure ItemsReadBack (indent : Nat) (xs : List Data) (ts : List Token) (ns : List Node) :
    Prop where
  clean : Clean (itemLines indent true xs)
  starts : StartsLine (itemLines indent true xs)
  scans : LinesScan .openSequence indent (itemLines indent true xs) (.item :: ts)
  nodes : ItemNodes (.item :: ts) ns
  values : Node.values ns = .ok xs

section

variable {indent : Nat} {x : Data} {xs : List Data} {ts : List Token} {nodes : List Node}

theorem itemLines_next (indent : Nat) (x : Data) (xs : List Data) :
    itemLines indent false (x :: xs) = '\n' ::
      (spaces indent ++ itemLines indent true (x :: xs)) := by
  rw [itemLines, itemLines]
  simp [newline]

theorem exists_items (hne : xs ≠ []) (h : ∀ x ∈ xs, ∃ ts node, ReadsMarked indent x ts node) :
    ∃ ts nodes, ItemsReadBack indent xs ts nodes := by
  induction xs with
  | nil => exact absurd rfl hne
  | cons x xs ih =>
    rw [List.forall_mem_cons] at h
    obtain ⟨ts, node, hx⟩ := h.1
    obtain ⟨V, hV⟩ := hx.blank
    have hclean : Clean ('-' :: ' ' :: V) := (hV ▸ hx.clean).cons (.inl rfl)
    have hstart : StartsLine ('-' :: ' ' :: V) := .of_mark (by decide) V
    have hscan : LinesScan .openSequence indent ('-' :: ' ' :: V) (.item :: ts) :=
      .mark (by decide) (hV ▸ hx.scans)
    have hlines : itemLines indent true (x :: xs) = ('-' :: ' ' :: V) ++
        itemLines indent false xs := by
      rw [itemLines, if_pos rfl, List.nil_append, hV]
    cases xs with
    | nil =>
      rw [show itemLines indent false [] = [] from rfl, List.append_nil] at hlines
      refine ⟨ts, [node], ⟨hlines ▸ hclean, hlines ▸ hstart, hlines ▸ hscan, ?_,
        values_cons hx.value ?_⟩⟩
      · have hnodes := ItemNodes.cons hx.nodes .nil
        rwa [List.append_nil] at hnodes
      · rw [Node.values]
    | cons y ys =>
      obtain ⟨us, nodes, hmore⟩ := ih (List.cons_ne_nil _ _) h.2
      rw [itemLines_next] at hlines
      refine ⟨ts ++ .item :: us, node :: nodes,
        ⟨?_, ?_, ?_, .cons hx.nodes hmore.nodes, values_cons hx.value hmore.values⟩⟩
      · rw [hlines]
        exact hclean.append (((Clean.spaces _).append hmore.clean).cons (.inr rfl))
      · rw [hlines]
        exact hstart.append _
      · rw [hlines]
        exact hscan.append hmore.scans hmore.starts

theorem value_sequence (h : Node.values nodes = .ok xs) :
    (Node.sequence .sequence nodes).value = .ok (.list xs) := by
  rw [Node.value, h]
  rfl

/-- Behind a key the items of a list stand at its column. -/
theorem ItemsReadBack.readsBack (h : ItemsReadBack indent (x :: xs) ts nodes) :
    ReadsBack indent (.list (x :: xs)) (.item :: ts) (.sequence .sequence nodes) where
  clean column := by
    show Clean (itemLines indent false (x :: xs))
    rw [itemLines_next]
    exact ((Clean.spaces _).append h.clean).cons (.inr rfl)
  apart column rest := by
    show endsOr isGap (itemLines indent false (x :: xs) ++ rest) = true
    rw [itemLines_next]
    rfl
  scans column := by
    show ValueScans indent (itemLines indent false (x :: xs)) _
    rw [itemLines_next]
    exact h.scans.loose h.starts
  nodes := valueNodes_loose h.nodes
  value := value_sequence h.values

theorem ItemsReadBack.readsMarked (h : ItemsReadBack (indent + 2) (x :: xs) ts nodes) :
    ReadsMarked indent (.list (x :: xs)) (.openSequence :: (.item :: ts ++ [.closeBlock]))
    (.sequence .sequence nodes) where
  clean := h.clean.cons (.inl rfl)
  blank := ⟨_, rfl⟩
  scans := h.scans.tight h.starts
  nodes := nodes_sequence h.nodes
  value := value_sequence h.values

end

/-! ## all values -/

def Reads (indent : Nat) (v : Data) : Prop :=
  (∃ ts node, ReadsBack indent v ts node) ∧ ∃ ts node, ReadsMarked indent v ts node

theorem Inline.reads {indent : Nat} {v : Data} {ts : List Token} {node : Node}
    (h : Inline indent v ts node) : Reads indent v :=
  ⟨⟨_, _, h.readsBack⟩, _, _, h.readsMarked⟩

theorem Reads.fieldReads {indent : Nat} {k : String} {v : Data} (h : Reads indent v)
    (hk : FitsKey k) (hdeep : indent + 2 < lineWidth) :
    ∃ cs ts node, FieldReads indent k v cs ts node := by
  obtain ⟨⟨ts, node, hkey⟩, us, node', hmark⟩ := h
  by_cases hsimple : isSimpleKey (.str k) = true
  · obtain ⟨cs, hfield⟩ := hkey.fieldReads hsimple hk
    exact ⟨cs, ts, node, hfield⟩
  · obtain ⟨cs, hfield⟩ := hmark.fieldReads (Bool.eq_false_iff.mpr hsimple) hdeep
    exact ⟨cs, us, node', hfield⟩

/-- What fits is read back, there and at every column before. -/
theorem Fits.reads {indent : Nat} {v : Data} (h : Fits indent v) : ∀ i ≤ indent, Reads i v := by
  induction h with
  | null h => exact fun i hi => (inline_null (by omega)).reads
  | bool h b => exact fun i hi => (inline_bool (by omega) b).reads
  | int h hn => exact fun i hi => (inline_int (by omega) hn).reads
  | str h s => exact fun i hi => (inline_str (by omega) s).reads
  | @list indent xs _ ih =>
    intro i hi
    cases xs with
    | nil => exact (inline_emptyList i).reads
    | cons x xs =>
      -- behind a key the items stand at its column, behind a mark further in
      obtain ⟨ts, nodes, hloose⟩ :=
        exists_items (List.cons_ne_nil x xs) fun y hy => (ih y hy i (by omega)).2
      obtain ⟨us, nodes', htight⟩ :=
        exists_items (List.cons_ne_nil x xs) fun y hy => (ih y hy (i + 2) (by omega)).2
      exact ⟨⟨_, _, hloose.readsBack⟩, _, _, htight.readsMarked⟩
  | @object indent fields hdeep hnames hkeys _ ih =>
    intro i hi
    cases fields with
    | nil => exact (inline_emptyMap i).reads
    | cons f fields =>
      have hdeep := hdeep (List.cons_ne_nil f fields)
      obtain ⟨ts, nodes, hpairs⟩ : ∃ ts nodes, PairsReadBack (i + 2) (f :: fields) ts nodes :=
        exists_pairs (List.cons_ne_nil f fields) fun g hg =>
          (ih g hg (i + 2) (by omega)).fieldReads (hnames g hg) (by omega)
      exact ⟨⟨_, _, hpairs.readsBack hkeys⟩, _, _, hpairs.readsMarked hkeys⟩

end Apidoc.Yaml
