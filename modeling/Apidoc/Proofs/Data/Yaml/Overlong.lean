import Apidoc.Proofs.Data.Yaml.Document

/-!
# Keys that are not found again

A key is looked for at most 1024 characters before its colon.  One that is written longer cannot be
read, and neither can a document that has it among its keys.

* `Scan.Stuck`           a scan that fails before the end of the text;
* `Blocks.stuck_key`     a key that is too long, with its colon;
* `LinesStuck`           lines in which a scan is stuck, and `ValueStuck` the text behind a key;
* `linesStuck_pairs`     the lines of fields, if the name of one of them does not fit;
* `clean_document`       such fields are written in ASCII all the same;
* `parse_overlong`       a document with such a map under one of its names.
-/

namespace Apidoc.Yaml

open Ordered (keyed)
open Scan (Leads)
open Blocks (NextLine KeyToken KeyScans)

/-! ## scans -/

namespace Scan

variable {s t : Scan}

/-- However much fuel there is for what is left of the text, the scan fails. -/
def Stuck (s : Scan) : Prop := ∀ n, s.cursor.rest.length < n → run n s = none

theorem Leads.stuck (h : Leads s t) (ht : Stuck t) : Stuck s := by
  intro n hn
  obtain ⟨m, hm, hrun⟩ := h n hn
  exact hrun.trans (ht m hm)

end Scan

open Scan (Stuck)

namespace Blocks

variable {a b : Blocks} {c c' : Cursor} {t : Token} {cs rest : List Char}

/-- A colon too far from the start of a scalar.  The scalar had to be a key, or there is none before
the colon. -/
theorem stuck_colon (hrest : c'.rest = ':' :: rest) (hafter : endsOr isGap rest = true)
    (hindex : c.index + 1024 < c'.index) (hindent : b.indent ≤ c'.column) :
    Stuck (b.keyed c c' t) := by
  intro n hn
  obtain ⟨n, rfl⟩ : ∃ k, n = k + 1 := ⟨n - 1, by omega⟩
  have hgap : (b.keyed c c' t).skipGap = b.keyed c c' t := by
    refine Scan.skipGap_begins ?_
    show Begins c'.rest
    rw [hrest]
    exact begins_cons rfl (by decide) (by decide) _
  rw [Scan.run, hgap]
  by_cases hrequired : b.indent = c.column
  · have hexpire : (b.keyed c c' t).expire = .none := by
      simp [Scan.expire, keyed, holding, places, scan, add, hindex, hrequired]
    rw [hexpire]
    rfl
  · have hexpire : (b.keyed c c' t).expire = some ((b.add [t]).scan c' false) := by
      simp [Scan.expire, keyed, holding, places, scan, add, hindex, hrequired]
    have hunwind : ((b.add [t]).scan c' false).unwind c'.column = (b.add [t]).scan c' false :=
      unwind_stay (b := b.add [t]) hindent c' false
    have hvalue : ((b.add [t]).scan c' false).value = .none := rfl
    have htoken : ((b.add [t]).scan c' false).token ':' rest = .none :=
      (Scan.token_colon _ hafter).trans hvalue
    simp only [hexpire, Option.bind_eq_bind, Option.bind_some]
    rw [show ((b.add [t]).scan c' false).cursor.column = c'.column from rfl, hunwind,
      show ((b.add [t]).scan c' false).cursor.rest = ':' :: rest from hrest]
    simp only [htoken, Option.bind_none]

theorem stuck_key (hk : KeyToken cs t) (hlong : 1024 < cs.length)
    (hrest : c.rest = cs ++ ':' :: rest) (hafter : endsOr isGap rest = true)
    (hunwind : (a.scan c true).unwind c.column = b.scan c true) (hindent : b.indent ≤ c.column) :
    Stuck (a.scan c true) := by
  have hmove := Cursor.moveTo_inline hrest hk.ascii
  refine (leads_scalar hk hrest hafter hunwind).stuck
    (stuck_colon (Cursor.rest_moveTo hrest) hafter ?_ ?_)
  · rw [hmove]
    exact Nat.add_lt_add_left hlong c.index
  · rw [hmove]
    show b.indent ≤ ((c.column + _ : Nat) : Int)
    omega

end Blocks

/-! ## lines -/

variable {indent : Nat} {cs ds V : List Char} {o t : Token} {ts : List Token}

/-- From the colon of a key at the column `indent` on, a scan is stuck in the text. -/
def ValueStuck (indent : Nat) (cs : List Char) : Prop :=
  ∀ ⦃b : Blocks⦄ ⦃c : Cursor⦄ ⦃j : Nat⦄ ⦃text rest : List Char⦄ (allowed : Bool),
    b.indent = indent →
    c.rest = cs ++ text → NextLine j text rest → j ≤ indent → Stuck (b.scan c allowed)

/-- From the first key on, a scan is stuck in the lines. -/
def LinesStuck (indent : Nat) (cs : List Char) : Prop :=
  ∀ ⦃a b : Blocks⦄ ⦃c : Cursor⦄ ⦃j : Nat⦄ ⦃text rest : List Char⦄, c.column = indent →
    b.indent ≤ indent →
    (a.scan c true).unwind c.column = b.scan c true → c.rest = cs ++ text →
    NextLine j text rest → j ≤ indent →
    Stuck (a.scan c true)

namespace LinesStuck

theorem of_key (hk : KeyToken cs t) (hlong : 1024 < cs.length) (hapart : Apart V) :
    LinesStuck indent (cs ++ ':' :: V) := by
  intro a b c j text rest hcolumn hindent hunwind hrest hnext _
  rw [List.append_assoc, List.cons_append] at hrest
  exact Blocks.stuck_key hk hlong hrest (hapart hnext) hunwind (by omega)

theorem of_value (hk : KeyScans cs t) (hV : ValueStuck indent V) (hapart : Apart V) :
    LinesStuck indent (cs ++ ':' :: V) := by
  intro a b c j text rest hcolumn hindent hunwind hrest hnext hj
  rw [List.append_assoc, List.cons_append] at hrest
  obtain ⟨c', hc', _, hkey⟩ := Blocks.leads_key hk hrest (hapart hnext) hunwind (by omega)
  rw [hcolumn] at hkey
  exact hkey.stuck (hV false (Blocks.indent_enter hindent _) hc' hnext hj)

/-- What comes after the lines does not matter. -/
theorem append (h : LinesStuck indent cs) (hstart : StartsLine ds) :
    LinesStuck indent (cs ++ '\n' :: (spaces indent ++ ds)) := by
  intro a b c j text rest hcolumn hindent hunwind hrest _ _
  simp only [List.append_assoc, List.cons_append] at hrest
  exact h hcolumn hindent hunwind hrest (hstart.nextLine indent text) (Nat.le_refl _)

theorem after (hcs : LinesScan .openMapping indent cs ts) (h : LinesStuck indent ds)
    (hstart : StartsLine ds) : LinesStuck indent (cs ++ '\n' :: (spaces indent ++ ds)) := by
  intro a b c j text rest hcolumn hindent hunwind hrest hnext hj
  simp only [List.append_assoc, List.cons_append] at hrest
  obtain ⟨a', c', hends, hc', hcolumn', hleads⟩ :=
    hcs hcolumn hindent hunwind hrest (hstart.nextLine indent text) (Nat.le_refl _)
  have hindent' : ((b.enter .openMapping indent).add ts).indent = indent :=
    Blocks.indent_enter hindent _
  refine hleads.stuck (h hcolumn' (Int.le_of_eq hindent') ?_ hc' hnext hj)
  rw [hends c' true _ (by omega)]
  exact Blocks.unwind_stay (by omega) c' true

theorem below (h : LinesStuck (indent + 2) cs) (hstart : StartsLine cs) :
    ValueStuck indent ('\n' :: (spaces (indent + 2) ++ cs)) := by
  intro b c j text rest allowed hb hrest hnext hj
  have hline : NextLine (indent + 2) c.rest (cs ++ text) := by
    rw [hrest, List.cons_append, List.append_assoc]
    exact hstart.nextLine _ text
  obtain ⟨c', hc', hcolumn', hleads⟩ := Blocks.leads_line hline b allowed (Blocks.passing_nil _)
  exact hleads.stuck (h hcolumn' (by omega)
    (Blocks.unwind_stay (by omega) c' true) hc' hnext (by omega))

end LinesStuck

/-! ## fields -/

variable {k : String} {v : Data} {f : String × Data} {fields : List (String × Data)}

theorem startsLine_pairs (indent : Nat) (f : String × Data) (fields : List (String × Data)) :
    StartsLine (pairLines indent true (keyed (f :: fields))) := by
  show StartsLine (pairLines indent true ((.str f.1, f.2) :: keyed fields))
  rw [pairLines, if_pos rfl, List.nil_append]
  split
  · rename_i hk
    exact (StartsLine.of_key (Blocks.keyToken_text (not_mem_of_isSimpleKey hk)) _).append _
  · have hmark (V : List Char) : StartsLine ('?' :: ' ' :: V) := .of_mark (by decide) V
    exact (((hmark _).append _).append _).append _

/-- What is written after the line of a field does not matter. -/
theorem LinesStuck.append_pairs (h : LinesStuck indent cs) (fields : List (String × Data)) :
    LinesStuck indent (cs ++ pairLines indent false (keyed fields)) := by
  cases fields with
  | nil =>
    rw [show pairLines indent false (keyed []) = [] from rfl, List.append_nil]
    exact h
  | cons f fields =>
    rw [pairLines_next]
    exact h.append (startsLine_pairs indent f fields)

theorem linesStuck_cons {node : Node} (hfield : FieldReads indent k v cs ts node)
    (h : LinesStuck indent (pairLines indent true (keyed (f :: fields)))) :
    LinesStuck indent (pairLines indent true (keyed ((k, v) :: f :: fields))) := by
  show LinesStuck indent (pairLines indent true ((.str k, v) :: keyed (f :: fields)))
  rw [hfield.lines, pairLines_next]
  exact .after hfield.scans h (startsLine_pairs indent f fields)

theorem linesStuck_name (hk : ¬ FitsKey k) (hv : Reads indent v) (fields : List (String × Data)) :
    LinesStuck indent (pairLines indent true (keyed ((k, v) :: fields))) := by
  simp only [FitsKey, Classical.not_imp, Nat.not_le] at hk
  obtain ⟨⟨_, _, hv⟩, _⟩ := hv
  show LinesStuck indent (pairLines indent true ((.str k, v) :: keyed fields))
  rw [pairLines, if_pos rfl, if_pos hk.1, List.nil_append]
  refine .append_pairs (.of_key (Blocks.keyToken_text (not_mem_of_isSimpleKey hk.1)) hk.2
    fun _ _ _ _ => ?_) fields
  exact hv.apart _ _

/-- The fields of a map, if the name of one of them does not fit. -/
theorem linesStuck_pairs (hdeep : indent + 2 < lineWidth) (hv : ∀ f ∈ fields, Reads indent f.2)
    (hlong : ∃ f ∈ fields, ¬ FitsKey f.1) :
    LinesStuck indent (pairLines indent true (keyed fields)) := by
  induction fields with
  | nil =>
    obtain ⟨_, hf, _⟩ := hlong
    cases hf
  | cons f fields ih =>
    rw [List.forall_mem_cons] at hv
    by_cases hk : FitsKey f.1
    · obtain ⟨cs, ts, node, hfield⟩ := hv.1.fieldReads hk hdeep
      obtain ⟨g, hg, hlong⟩ := hlong
      have hg : g ∈ fields := (List.mem_cons.mp hg).resolve_left fun e => hlong (e ▸ hk)
      cases fields with
      | nil => cases hg
      | cons _ _ => exact linesStuck_cons hfield (ih hv.2 ⟨g, hg, hlong⟩)
    · exact linesStuck_name hk hv.1 fields

theorem linesStuck_object {inner : List (String × Data)} (hk : isSimpleKey (.str k) = true)
    (hfits : FitsKey k) (hdeep : indent + 4 < lineWidth) (hv : ∀ f ∈ inner, Reads (indent + 2) f.2)
    (hlong : ∃ f ∈ inner, ¬ FitsKey f.1) (fields : List (String × Data)) :
    LinesStuck indent (pairLines indent true (keyed ((k, .object inner) :: fields))) := by
  have hlines := linesStuck_pairs hdeep hv hlong
  have hkey := Blocks.keyScans_text (not_mem_of_isSimpleKey hk) (hfits hk)
  show LinesStuck indent (pairLines indent true ((.str k, .object inner) :: keyed fields))
  rw [pairLines, if_pos rfl, if_pos hk, List.nil_append]
  cases inner with
  | nil =>
    obtain ⟨_, hf, _⟩ := hlong
    cases hf
  | cons f inner =>
    have hafter (column : Nat) : afterKey indent column (.object (f :: inner)) =
        '\n' :: (spaces (indent + 2) ++ pairLines (indent + 2) true (keyed (f :: inner))) :=
      pairLines_next (indent + 2) f inner
    dsimp only
    rw [hafter]
    exact .append_pairs (.of_value hkey (hlines.below (startsLine_pairs _ f inner))
      fun _ _ _ _ => rfl) fields

/-! ## characters -/

/-- Behind a key and behind a mark the value is written in ASCII, but for line ends. -/
structure WrittenClean (indent : Nat) (v : Data) : Prop where
  key : ∀ column, Clean (afterKey indent column v)
  mark : Clean (afterMark indent v)

theorem Reads.writtenClean (h : Reads indent v) : WrittenClean indent v := by
  obtain ⟨⟨_, _, hkey⟩, _, _, hmark⟩ := h
  exact ⟨hkey.clean, hmark.clean⟩

/-- Whether or not the names fit. -/
theorem clean_pairs (h : ∀ f ∈ fields, WrittenClean indent f.2) (stays : Bool) :
    Clean (pairLines indent stays (keyed fields)) := by
  induction fields generalizing stays with
  | nil => exact .nil
  | cons f fields ih =>
    rw [List.forall_mem_cons] at h
    show Clean (pairLines indent stays ((.str f.1, f.2) :: keyed fields))
    rw [pairLines]
    refine (Clean.append ?_ ?_).append (ih h.2 false)
    · split
      · exact .nil
      · exact .newline indent
    · split
      · exact (Clean.stringText _ _ _).append ((h.1.key _).cons (.inl rfl))
      · have hname : Clean (afterMark indent (.str f.1)) := (Clean.stringText _ _ _).cons (.inl rfl)
        exact ((hname.cons (.inl rfl)).append (.newline indent)).append (h.1.mark.cons (.inl rfl))

theorem WrittenClean.object {inner : List (String × Data)}
    (h : ∀ f ∈ inner, WrittenClean (indent + 2) f.2) : WrittenClean indent (.object inner) := by
  cases inner with
  | nil => exact (inline_emptyMap indent).reads.writtenClean
  | cons f inner => exact ⟨fun _ => clean_pairs h false, (clean_pairs h true).cons (.inl rfl)⟩

/-! ## documents -/

theorem clean_document (hne : fields ≠ []) (h : ∀ f ∈ fields, WrittenClean 0 f.2) :
    Clean (document (keyed fields)).toList := by
  rw [toList_document hne]
  exact (clean_pairs h true).append (Clean.nil.cons (.inr rfl))

theorem parse_stuck {text : String} {cs : List Char} (h : LinesStuck 0 cs)
    (htext : text.toList = cs ++ ['\n']) : parse text = .error .malformed := by
  have hunwind : (Blocks.none.scan ⟨text.toList, 0, 0, 0⟩ true).unwind (0 : Nat) =
      Blocks.none.scan ⟨text.toList, 0, 0, 0⟩ true := Blocks.unwind_stay (by decide) _ true
  have hstuck :=
    h (c := ⟨text.toList, 0, 0, 0⟩) rfl (by decide) hunwind htext Blocks.nextLine_end
      (Nat.le_refl 0)
  have hrun : Scan.run (text.toList.length + 2) (Scan.start text.toList) = none :=
    hstuck _ (Nat.lt_add_of_pos_right (by decide))
  have htokens : tokens? text.toList = none := by
    rw [tokens?, hrun]
    split <;> rfl
  rw [parse, htokens]
  rfl

/-- A document with a map under one of its names in which the name of a field does not fit. -/
theorem parse_overlong {before after inner : List (String × Data)}
    (hbefore : ∀ f ∈ before, FitsKey f.1 ∧ Fits 0 f.2) (hk : isSimpleKey (.str k) = true)
    (hfits : FitsKey k) (hv : ∀ f ∈ inner, Fits 2 f.2) (hlong : ∃ f ∈ inner, ¬ FitsKey f.1) :
    parse (document (keyed (before ++ (k, .object inner) :: after))) = .error .malformed := by
  refine parse_stuck ?_ (toList_document (by simp))
  induction before with
  | nil =>
    exact linesStuck_object hk hfits (by decide)
      (fun f hf => (hv f hf).reads 2 (Nat.le_refl 2)) hlong after
  | cons f before ih =>
    rw [List.forall_mem_cons] at hbefore
    obtain ⟨cs, ts, node, hfield⟩ :=
      (hbefore.1.2.reads 0 (Nat.le_refl 0)).fieldReads hbefore.1.1 (by decide)
    have hrest := ih hbefore.2
    cases before with
    | nil => exact linesStuck_cons hfield hrest
    | cons g before => exact linesStuck_cons hfield hrest

end Apidoc.Yaml
