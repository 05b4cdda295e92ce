import Apidoc.Proofs.Data.Yaml.Blocks

/-!
# Scans of lines

A map is a line for each of its keys, with the value behind it or below it, and a list is a line for
each of its items, behind a mark.  However the lines came about, they are scanned one by one.

* `ValueScans`      the text behind a key is scanned as some tokens, and `MarkScans` the text behind
                    a mark;
* `LinesScan`       lines of keys and values, or of items, are scanned as some tokens;
* `LinesScan.below` lines below a key are the map behind it, and `LinesScan.loose` the list;
* `LinesScan.tight` lines from a mark on are the map or the list behind it.
-/

namespace Apidoc.Yaml

open Scan (Leads)
open Blocks (NextLine KeyToken KeyScans marks)

variable {indent : Nat} {cs ds V : List Char} {o t : Token} {ts us : List Token}

/-- From the colon of a key at the column `indent` on, the text is scanned as the tokens. -/
def ValueScans (indent : Nat) (cs : List Char) (ts : List Token) : Prop :=
  ∀ ⦃b : Blocks⦄ ⦃c : Cursor⦄ ⦃j : Nat⦄ ⦃text rest : List Char⦄ (allowed : Bool), b.indent =
    indent → indent ≤ c.column →
    c.rest = cs ++ text → NextLine j text rest → j ≤ indent →
    ∃ (a : Blocks) (c' : Cursor), a.EndsAs (b.add ts) ∧ c'.rest = rest ∧ c'.column = j ∧
      Leads (b.scan c allowed) (a.scan c' true)

/-- From a mark at the column `indent` on, the text is scanned as the tokens. -/
def MarkScans (indent : Nat) (cs : List Char) (ts : List Token) : Prop :=
  ∀ ⦃b : Blocks⦄ ⦃c : Cursor⦄ ⦃j : Nat⦄ ⦃text rest : List Char⦄, b.indent = indent →
    c.column = indent + 1 →
    c.rest = cs ++ text → NextLine j text rest → j ≤ indent →
    ∃ (a : Blocks) (c' : Cursor), a.EndsAs (b.add ts) ∧ c'.rest = rest ∧ c'.column = j ∧
      Leads (b.scan c true) (a.scan c' true)

def Apart (cs : List Char) : Prop := ∀ ⦃j : Nat⦄ ⦃text rest : List Char⦄, NextLine j text rest →
  endsOr isGap (cs ++ text) = true

/-- From the first key or mark on, the lines of a block that `o` opens are scanned as the tokens.
The block may be open already, and the lines before may leave blocks that are closed here. -/
def LinesScan (o : Token) (indent : Nat) (cs : List Char) (ts : List Token) : Prop :=
  ∀ ⦃a b : Blocks⦄ ⦃c : Cursor⦄ ⦃j : Nat⦄ ⦃text rest : List Char⦄, c.column = indent →
    b.indent ≤ indent →
    (a.scan c true).unwind c.column = b.scan c true → c.rest = cs ++ text →
    NextLine j text rest → j ≤ indent →
    ∃ (a' : Blocks) (c' : Cursor), a'.EndsAs ((b.enter o indent).add ts) ∧ c'.rest = rest ∧
    c'.column = j ∧
      Leads (a.scan c true) (a'.scan c' true)

theorem ValueScans.markScans (h : ValueScans indent cs ts) : MarkScans indent cs ts :=
  fun _ _ _ _ _ hb hc hrest hnext hj => h true hb (by omega) hrest hnext hj

theorem valueScans_nil (indent : Nat) : ValueScans indent [] [] := by
  intro b c j text rest allowed _ _ hrest hnext _
  rw [← List.nil_append text, ← hrest] at hnext
  obtain ⟨c', hc', hcolumn, hleads⟩ := Blocks.leads_line hnext b allowed (Blocks.passing_nil _)
  exact ⟨b, c', .refl b, hc', hcolumn, hleads⟩

namespace LinesScan

theorem one (hk : KeyScans cs t) (hv : ValueScans indent V ts) (hapart : Apart V) :
    LinesScan .openMapping indent (cs ++ ':' :: V) (.key :: t :: .value :: ts) := by
  intro a b c j text rest hcolumn hindent hunwind hrest hnext hj
  rw [List.append_assoc, List.cons_append] at hrest
  obtain ⟨c₁, hc₁, hcolumn₁, hkey⟩ := Blocks.leads_key hk hrest (hapart hnext) hunwind (by omega)
  rw [hcolumn] at hkey
  obtain ⟨a', c', hends, hc', hcolumn', hvalue⟩ :=
    hv (b := (b.enter .openMapping indent).add [.key, t, .value])
    false (Blocks.indent_enter hindent _) (by omega) hc₁ hnext hj
  rw [Blocks.add_add] at hends
  exact ⟨a', c', hends, hc', hcolumn', hkey.trans hvalue⟩

theorem mark {x : Char} (hx : (x, o, t) ∈ marks) (hv : MarkScans indent (' ' :: V) ts) :
    LinesScan o indent (x :: ' ' :: V) (t :: ts) := by
  intro a b c j text rest hcolumn hindent hunwind hrest hnext hj
  obtain ⟨c₁, hc₁, hcolumn₁, hmark⟩ := Blocks.leads_mark hx hrest rfl hunwind
  rw [hcolumn] at hcolumn₁ hmark
  obtain ⟨a', c', hends, hc', hcolumn', hvalue⟩ := hv (b := (b.enter o indent).add [t])
    (Blocks.indent_enter hindent _) hcolumn₁ hc₁ hnext hj
  rw [Blocks.add_add] at hends
  exact ⟨a', c', hends, hc', hcolumn', hmark.trans hvalue⟩

end LinesScan

structure StartsLine (cs : List Char) : Prop where
  nonempty : cs ≠ []
  begins : ∀ text, Begins (cs ++ text)
  inside : ∀ text, isSeparator (cs ++ text) = false

namespace StartsLine

theorem of_key (hk : KeyToken cs t) (V : List Char) : StartsLine (cs ++ ':' :: V) where
  nonempty := by simp
  begins text := by
    rw [List.append_assoc, List.cons_append]
    exact hk.begins _
  inside text := by
    rw [List.append_assoc, List.cons_append]
    exact hk.inside _

theorem of_mark {x : Char} (hx : x ∈ marks.map (·.1)) (V : List Char) :
    StartsLine (x :: ' ' :: V) where
  nonempty := List.cons_ne_nil _ _
  begins _ := Blocks.begins_mark hx _
  inside _ := Scan.isSeparator_of_gap rfl x

theorem append (h : StartsLine cs) (ds : List Char) : StartsLine (cs ++ ds) where
  nonempty hnil := h.nonempty (List.append_eq_nil_iff.mp hnil).1
  begins text := by
    rw [List.append_assoc]
    exact h.begins _
  inside text := by
    rw [List.append_assoc]
    exact h.inside _

theorem nextLine (h : StartsLine cs) (indent : Nat) (text : List Char) :
    NextLine indent ('\n' :: (spaces indent ++ (cs ++ text))) (cs ++ text) :=
  ⟨rfl, h.begins text, fun _ => h.inside text,
    fun hnil => absurd (List.append_eq_nil_iff.mp hnil).1 h.nonempty⟩

end StartsLine

namespace LinesScan

theorem append (hcs : LinesScan o indent cs ts) (hds : LinesScan o indent ds us)
    (hstart : StartsLine ds) :
    LinesScan o indent (cs ++ '\n' :: (spaces indent ++ ds)) (ts ++ us) := by
  intro a b c j text rest hcolumn hindent hunwind hrest hnext hj
  simp only [List.append_assoc, List.cons_append] at hrest
  obtain ⟨a₁, c₁, hends₁, hc₁, hcolumn₁, hleads₁⟩ :=
    hcs hcolumn hindent hunwind hrest (hstart.nextLine indent text) (Nat.le_refl _)
  have hindent₁ : ((b.enter o indent).add ts).indent = indent := Blocks.indent_enter hindent _
  generalize hb₁ : (b.enter o indent).add ts = b₁ at hends₁ hindent₁
  have hunwind₁ : (a₁.scan c₁ true).unwind c₁.column = b₁.scan c₁ true := by
    rw [hends₁ c₁ true _ (by omega)]
    exact Blocks.unwind_stay (by omega) c₁ true
  obtain ⟨a', c', hends, hc', hcolumn', hleads⟩ := hds hcolumn₁ (by omega) hunwind₁ hc₁ hnext hj
  have henter : b₁.enter o indent = b₁ := if_neg (by omega)
  rw [henter, ← hb₁, Blocks.add_add] at hends
  exact ⟨a', c', hends, hc', hcolumn', hleads₁.trans hleads⟩

/-- Lines that are deeper than the blocks around them are a block of their own. -/
theorem deeper (h : LinesScan o (indent + 2) cs ts) {b : Blocks}
    (hb : b.indent = indent) {c : Cursor} (hcolumn : c.column = indent + 2) {j : Nat}
    {text rest : List Char} (hrest : c.rest = cs ++ text) (hnext : NextLine j text rest)
    (hj : j ≤ indent) :
    ∃ (a : Blocks) (c' : Cursor), a.EndsAs (b.add (o :: (ts ++ [.closeBlock]))) ∧ c'.rest = rest ∧
    c'.column = j ∧
      Leads (b.scan c true) (a.scan c' true) := by
  have hdeeper : b.indent < (indent + 2 : Nat) := by omega
  have hindent : b.indent ≤ c.column := by omega
  obtain ⟨a, c', hends, hc', hcolumn', hleads⟩ :=
    h hcolumn (Int.le_of_lt hdeeper) (Blocks.unwind_stay hindent c true) hrest hnext (by omega)
  refine ⟨a, c', hends.trans (Blocks.endsAs_enter hdeeper o ts) ?_, hc', hcolumn', hleads⟩
  show b.indent ≤ (b.enter o (indent + 2)).indent
  rw [Blocks.indent_enter (Int.le_of_lt hdeeper)]
  exact Int.le_of_lt hdeeper

/-- Lines below a key are the map behind it. -/
theorem below (h : LinesScan o (indent + 2) cs ts) (hstart : StartsLine cs) :
    ValueScans indent ('\n' :: (spaces (indent + 2) ++ cs)) (o :: (ts ++ [.closeBlock])) := by
  intro b c j text rest allowed hb hc hrest hnext hj
  have hline : NextLine (indent + 2) c.rest (cs ++ text) := by
    rw [hrest, List.cons_append, List.append_assoc]
    exact hstart.nextLine _ text
  obtain ⟨c₁, hc₁, hcolumn₁, hleads₁⟩ := Blocks.leads_line hline b allowed (Blocks.passing_nil _)
  obtain ⟨a, c', hends, hc', hcolumn', hleads⟩ := h.deeper hb hcolumn₁ hc₁ hnext hj
  exact ⟨a, c', hends, hc', hcolumn', hleads₁.trans hleads⟩

/-- Lines at the column of a key are the list behind it, without a block of their own. -/
theorem loose (h : LinesScan o indent cs ts) (hstart : StartsLine cs) :
    ValueScans indent ('\n' :: (spaces indent ++ cs)) ts := by
  intro b c j text rest allowed hb hc hrest hnext hj
  have hline : NextLine indent c.rest (cs ++ text) := by
    rw [hrest, List.cons_append, List.append_assoc]
    exact hstart.nextLine _ text
  obtain ⟨c₁, hc₁, hcolumn₁, hleads₁⟩ := Blocks.leads_line hline b allowed (Blocks.passing_nil _)
  have hindent : b.indent ≤ c₁.column := by omega
  obtain ⟨a, c', hends, hc', hcolumn', hleads⟩ :=
    h hcolumn₁ (Int.le_of_eq hb) (Blocks.unwind_stay hindent c₁ true) hc₁ hnext hj
  have henter : b.enter o indent = b := if_neg (by omega)
  rw [henter] at hends
  exact ⟨a, c', hends, hc', hcolumn', hleads₁.trans hleads⟩

/-- Lines from a mark on, the first of them on its line, are what stands behind it. -/
theorem tight (h : LinesScan o (indent + 2) cs ts) (hstart : StartsLine cs) :
    MarkScans indent (' ' :: cs) (o :: (ts ++ [.closeBlock])) := by
  intro b c j text rest hb hc hrest hnext hj
  have hblank := Cursor.next_inline hrest rfl
  have hrest₁ : c.next.rest = cs ++ text := by
    rw [hblank]
    rfl
  have hcolumn₁ : c.next.column = indent + 2 := by
    rw [hblank, hc]
  have hmove : c.moveTo (cs ++ text) = c.next := by
    rw [Cursor.moveTo, hrest, List.cons_append, List.length_cons, Nat.add_sub_cancel_left]
    rfl
  have hleads₁ : Leads (b.scan c true) (b.scan c.next true) := by
    refine Scan.leads_skipGap (hmove ▸ Scan.skipGap_blank hrest (hstart.begins text))
      (Scan.skipGap_begins ?_) ?_
    · show Begins c.next.rest
      rw [hrest₁]
      exact hstart.begins text
    · show c.next.rest.length ≤ c.rest.length
      rw [hrest₁, hrest]
      simp
  obtain ⟨a, c', hends, hc', hcolumn', hleads⟩ := h.deeper hb hcolumn₁ hrest₁ hnext hj
  exact ⟨a, c', hends, hc', hcolumn', hleads₁.trans hleads⟩

end LinesScan

end Apidoc.Yaml
