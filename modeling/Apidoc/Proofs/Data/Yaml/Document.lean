import Apidoc.Proofs.Data.Yaml.Values

/-!
# Documents that are read back

* `FitsDocument`     maps that are written as documents;
* `parse_document`   such a map is read back from the document it is written as;
* `Fits.sorted`      with its keys sorted a value is written and read back as well.
-/

namespace Apidoc.Yaml

open Ordered (keyed)
open Scan (Leads)

/-! ## documents -/

/-- A map that is written as a document. -/
structure FitsDocument (fields : List (String × Data)) : Prop where
  nonempty : fields ≠ []
  names : ∀ f ∈ fields, FitsKey f.1
  keys : (fields.map (·.1)).Nodup
  fits : ∀ f ∈ fields, Fits 0 f.2

variable {fields : List (String × Data)}

theorem FitsDocument.pairs (h : FitsDocument fields) :
    ∃ ts nodes, PairsReadBack 0 fields ts nodes :=
  exists_pairs h.nonempty fun f hf => ((h.fits f hf).reads 0 (Nat.le_refl 0)).fieldReads
    (h.names f hf) (by decide)

theorem toList_document (hne : fields ≠ []) :
    (document (keyed fields)).toList = pairLines 0 true (keyed fields) ++ ['\n'] := by
  cases fields with
  | nil => exact absurd rfl hne
  | cons f fields => exact String.toList_ofList

theorem FitsDocument.clean (h : FitsDocument fields) : Clean (document (keyed fields)).toList := by
  obtain ⟨ts, nodes, hpairs⟩ := h.pairs
  rw [toList_document h.nonempty]
  exact hpairs.clean.append (Clean.nil.cons (.inr rfl))

def Blocks.none : Blocks := ⟨-1, [], []⟩

theorem run_end {a : Blocks} {c : Cursor} {n : Nat} {ts : List Token} (hrest : c.rest = [])
    (hcolumn : c.column = 0) (hends : a.EndsAs ((Blocks.none.enter .openMapping 0).add ts))
    (hn : 0 < n) :
    (Scan.run n (a.scan c true)).map (fun s => s.tokens.reverse) =
      some (.openMapping :: (ts ++ [.closeBlock])) := by
  obtain ⟨n, rfl⟩ : ∃ k, n = k + 1 := ⟨n - 1, by omega⟩
  have hgap : (a.scan c true).skipGap = a.scan c true := by
    refine Scan.skipGap_begins ?_
    show Begins c.rest
    rw [hrest]
    exact nofun
  have hline : (a.scan c true).unwind (a.scan c true).cursor.column =
      ((Blocks.none.enter .openMapping 0).add ts).scan c true := by
    show (a.scan c true).unwind c.column = _
    rw [hcolumn]
    exact (hends c true 0 (Int.le_refl 0)).trans (Blocks.unwind_stay (Int.le_refl 0) c true)
  have hclose : (((Blocks.none.enter .openMapping 0).add ts).scan c true).unwind (-1) =
      (Blocks.none.add (.openMapping :: (ts ++ [.closeBlock]))).scan c true := by
    have hdeeper : Blocks.none.indent < (0 : Nat) := by decide
    exact (Blocks.endsAs_enter hdeeper .openMapping ts c true (-1) (Int.le_refl (-1))).trans
      (Blocks.unwind_stay (Int.le_refl (-1)) c true)
  have hexpire : (a.scan c true).expire = some (a.scan c true) := rfl
  rw [Scan.run]
  simp only [hgap, hexpire, Option.bind_eq_bind, Option.bind_some, hline]
  rw [show (((Blocks.none.enter .openMapping 0).add ts).scan c true).cursor.rest = [] from hrest]
  simp only [Scan.close, hclose]
  simp [Scan.forget, Scan.place?, Blocks.scan, Blocks.add, Blocks.none, Scan.allow]

theorem run_lines {c : Cursor} {cs : List Char} {n : Nat} {ts : List Token}
    (h : LinesScan .openMapping 0 cs ts) (hrest : c.rest = cs ++ ['\n']) (hcolumn : c.column = 0)
    (hn : c.rest.length < n) :
    (Scan.run n (Blocks.none.scan c true)).map (fun s => s.tokens.reverse) =
      some (.openMapping :: (ts ++ [.closeBlock])) := by
  have habove : Blocks.none.indent ≤ (0 : Nat) := by decide
  have hunwind : (Blocks.none.scan c true).unwind c.column = Blocks.none.scan c true := by
    rw [hcolumn]
    exact Blocks.unwind_stay habove c true
  obtain ⟨a, c', hends, hc', hcolumn', hleads⟩ :=
    h hcolumn habove hunwind hrest Blocks.nextLine_end (Nat.le_refl 0)
  obtain ⟨m, hm, hrun⟩ := hleads n hn
  rw [hrun]
  exact run_end hc' hcolumn' hends (by omega)

theorem tokens?_lines {cs : List Char} {ts : List Token} (h : LinesScan .openMapping 0 cs ts)
    (hclean : Clean (cs ++ ['\n'])) :
    tokens? (cs ++ ['\n']) = some (.openMapping :: (ts ++ [.closeBlock])) := by
  rw [tokens?, if_pos hclean.all_isAllowed]
  exact run_lines (c := ⟨cs ++ ['\n'], 0, 0, 0⟩) h rfl rfl (Nat.lt_add_of_pos_right (by decide))

/-- Lines of comments and empty lines before the first key. -/
theorem tokens?_headed {heading cs : List Char} {ts : List Token}
    (h : LinesScan .openMapping 0 cs ts) (hstart : StartsLine cs)
    (hheading : Scan.gap false (heading ++ '\n' :: (cs ++ ['\n'])) = (cs ++ ['\n'], true))
    (hmark : heading.head? ≠ some '\ufeff') (hclean : Clean (heading ++ '\n' :: (cs ++ ['\n']))) :
    tokens? (heading ++ '\n' :: (cs ++ ['\n'])) = some (.openMapping :: (ts ++ [.closeBlock])) := by
  let c : Cursor := ⟨heading ++ '\n' :: (cs ++ ['\n']), 0, 0, 0⟩
  have hsplit : c.rest = (heading ++ ['\n']) ++ (cs ++ ['\n']) := by simp [c]
  have hrest : (c.moveTo (cs ++ ['\n'])).rest = cs ++ ['\n'] := Cursor.rest_moveTo hsplit
  have hcolumn : (c.moveTo (cs ++ ['\n'])).column = 0 := Cursor.column_moveTo (c := c) rfl
  have hskip : (Blocks.none.scan c true).skipGap =
      Blocks.none.scan (c.moveTo (cs ++ ['\n'])) true := by
    refine (Scan.skipGap_eq (s := Blocks.none.scan c true) ?_ hheading).trans (if_pos ⟨rfl, rfl⟩)
    show (heading ++ '\n' :: (cs ++ ['\n'])).head? ≠ _
    cases heading with
    | nil => exact nofun
    | cons x heading => exact hmark
  have hleads : Leads (Blocks.none.scan c true)
      (Blocks.none.scan (c.moveTo (cs ++ ['\n'])) true) := by
    refine Scan.leads_skipGap hskip (Scan.skipGap_begins ?_) ?_
    · show Begins (c.moveTo (cs ++ ['\n'])).rest
      rw [hrest]
      exact hstart.begins _
    · show (c.moveTo (cs ++ ['\n'])).rest.length ≤ c.rest.length
      rw [hrest, hsplit]
      simp
      omega
  obtain ⟨m, hm, hrun⟩ := hleads (c.rest.length + 2) (Nat.lt_add_of_pos_right (by decide))
  rw [tokens?, if_pos hclean.all_isAllowed, show Scan.run _ (Scan.start _) = _ from hrun]
  exact run_lines h hrest hcolumn hm

theorem parse_of_tokens {text : String} {ts : List Token} {nodes : List (Node × Node)}
    (htokens : tokens? text.toList = some (.openMapping :: (ts ++ [.closeBlock])))
    (hnodes : PairNodes ts nodes) :
    parse text = (Node.mapping .mapping nodes).value := by
  have hnode : Node.document? (.openMapping :: (ts ++ [.closeBlock])) =
      some (some (.mapping .mapping nodes)) := by
    have hread := (nodes_mapping hnodes).reads false ⟨Node.defaultHandles, []⟩ []
      (n := 2 * (ts.length + 1 + 1) + 2) (by simp)
    rw [List.append_nil] at hread
    simp [Node.document?, Node.startsDocument, Node.isDocumentEnd, hread]
  rw [parse, htokens, Option.bind_some, hnode]

theorem parse_document (h : FitsDocument fields) :
    parse (document (keyed fields)) = .ok (.object fields) := by
  obtain ⟨ts, nodes, hpairs⟩ := h.pairs
  have hclean := h.clean
  rw [toList_document h.nonempty] at hclean
  rw [parse_of_tokens ((toList_document h.nonempty).symm ▸
    tokens?_lines hpairs.scans hclean) hpairs.nodes]
  exact value_mapping h.keys hpairs.values

/-! ## sorted keys -/

def sortFields {α : Type} (fields : List (String × α)) : List (String × α) :=
  fields.mergeSort fun p q => p.1 ≤ q.1

theorem perm_sortFields {α : Type} (fields : List (String × α)) : (sortFields fields).Perm fields :=
  List.mergeSort_perm fields _

theorem sortFields_eq_nil {α : Type} {fields : List (String × α)} :
    sortFields fields = [] ↔ fields = [] := by
  rw [← List.length_eq_zero_iff, (perm_sortFields fields).length_eq, List.length_eq_zero_iff]

theorem map_sortFields {α β : Type} (f : α → β) (fields : List (String × α)) :
    (sortFields fields).map (fun p => (p.1, f p.2)) =
      sortFields (fields.map fun p => (p.1, f p.2)) :=
  List.map_mergeSort fun _ _ _ _ => rfl

theorem sortedPairs_keyed (fields : List (String × Data)) :
    sortedPairs (keyed fields) = keyed (fields.map fun f => (f.1, sorted f.2)) := by
  induction fields with
  | nil => rfl
  | cons f fields ih =>
    show (Data.str f.1, sorted f.2) :: sortedPairs (keyed fields) = _
    rw [ih]
    rfl

theorem sortPairs_keyed (fields : List (String × Data)) :
    sortPairs (keyed fields) = keyed (sortFields fields) := by
  have hcomparable : ((keyed fields).all fun p => (keyed fields).all fun q => comparable p.1 q.1) =
      true := by
    simp [keyed, comparable]
  rw [sortPairs, if_pos hcomparable, sortFields, keyed, keyed]
  symm
  exact List.map_mergeSort fun _ _ _ _ => rfl

theorem sorted_object (fields : List (String × Data)) :
    sorted (.object fields) = .object (sortFields (fields.map fun f => (f.1, sorted f.2))) := by
  show sorted (.map (keyed fields)) = _
  rw [sorted, sortedPairs_keyed, sortPairs_keyed]
  rfl

theorem sorted_list (xs : List Data) : sorted (.list xs) = .list (xs.map sorted) := by
  have hitems : sortedItems xs = xs.map sorted := by
    induction xs with
    | nil => rfl
    | cons x xs ih => rw [sortedItems, ih, List.map_cons]
  rw [sorted, hitems]

theorem keys_sortFields {fields : List (String × Data)} (g : Data → Data)
    (hkeys : (fields.map (·.1)).Nodup) :
    ((sortFields (fields.map fun f => (f.1, g f.2))).map (·.1)).Nodup := by
  have hperm := (perm_sortFields (fields.map fun f => (f.1, g f.2))).map (·.1)
  rw [List.map_map] at hperm
  exact hperm.nodup_iff.mpr hkeys

theorem mem_sortFields {fields : List (String × Data)} {g : Data → Data} {f : String × Data}
    (h : f ∈ sortFields (fields.map fun f => (f.1, g f.2))) :
    ∃ f' ∈ fields, f = (f'.1, g f'.2) := by
  rw [(perm_sortFields _).mem_iff] at h
  obtain ⟨f', hf', rfl⟩ := List.mem_map.mp h
  exact ⟨f', hf', rfl⟩

theorem Fits.sorted {indent : Nat} {v : Data} (h : Fits indent v) : Fits indent (sorted v) := by
  induction h with
  | null h => exact .null h
  | bool h b => exact .bool h b
  | int h hn => exact .int h hn
  | str h s => exact .str h s
  | @list indent xs _ ih =>
    rw [sorted_list]
    refine .list fun x hx => ?_
    obtain ⟨y, hy, rfl⟩ := List.mem_map.mp hx
    exact ih y hy
  | @object indent fields hdeep hnames hkeys _ ih =>
    rw [sorted_object]
    refine .object (fun hne => hdeep fun hnil => hne ?_) (fun f hf => ?_)
      (keys_sortFields _ hkeys) fun f hf => ?_
    · rw [sortFields_eq_nil, hnil, List.map_nil]
    · obtain ⟨f', hf', rfl⟩ := mem_sortFields hf
      exact hnames f' hf'
    · obtain ⟨f', hf', rfl⟩ := mem_sortFields hf
      exact ih f' hf'

theorem FitsDocument.sorted (h : FitsDocument fields) :
    FitsDocument (sortFields (fields.map fun f => (f.1, Yaml.sorted f.2))) := by
  refine ⟨fun hnil => h.nonempty ?_, fun f hf => ?_, keys_sortFields _ h.keys, fun f hf => ?_⟩
  · exact List.map_eq_nil_iff.mp (sortFields_eq_nil.mp hnil)
  · obtain ⟨f', hf', rfl⟩ := mem_sortFields hf
    exact h.names f' hf'
  · obtain ⟨f', hf', rfl⟩ := mem_sortFields hf
    exact (h.fits f' hf').sorted

end Apidoc.Yaml
