import Apidoc.Proofs.Data.Yaml.Scan

/-!
# Texts as keys

A key that stands before a colon is written on one line, and it is looked for there only so far.

* `FitsKey`         texts that can be keys, and `IsName`, short ones in ASCII;
* `ascii_text`      a text without line ends is written in ASCII on one line;
* `begins_text`     a text is written as something that is no gap, and `not_separator_text`, not as
                    an end of a document.
-/

namespace Apidoc.Yaml

variable {cs : List Char}

/-- Texts that can stand before a colon. -/
structure IsName (k : String) : Prop where
  nonempty : k ≠ ""
  short : k.length + 5 < keyWidth
  ascii : ∀ x ∈ k.toList, isAsciiText x = true

instance (k : String) : Decidable (IsName k) :=
  decidable_of_iff (k ≠ "" ∧ k.length + 5 < keyWidth ∧ k.toList.all isAsciiText = true)
    ⟨fun ⟨h, h', h''⟩ => ⟨h, h', List.all_eq_true.mp h''⟩,
      fun h => ⟨h.nonempty, h.short, List.all_eq_true.mpr h.ascii⟩⟩

theorem not_mem_of_ascii (h : ∀ x ∈ cs, isAsciiText x = true) : '\n' ∉ cs :=
  fun hmem => absurd (h _ hmem) (by decide)

/-- Without folding, a text is written character by character. -/
theorem wrap_none (quoted : Bool) (column : Nat) (before : Option Char)
    (h : ∀ x ∈ cs, isAsciiText x = true) :
    wrap none quoted column before cs = cs.flatMap fun x => if quoted ∧
    x = '\'' then [x, x] else [x] := by
  induction cs generalizing column before with
  | nil => rfl
  | cons x cs ih =>
    rw [List.flatMap_cons]
    have hline : x ≠ '\n' := fun e => not_mem_of_ascii h (e ▸ List.mem_cons_self)
    rw [List.forall_mem_cons] at h
    by_cases hx : x = ' '
    · subst hx
      rw [wrap, if_pos rfl, show foldsAt none column before cs = false from rfl, if_neg (by decide),
        ih _ _ h.2, if_neg fun hq => absurd hq.2 (by decide)]
      rfl
    · rw [wrap_char none quoted column before hx hline]
      split
      · rw [ih _ _ h.2]
        rfl
      · rw [ih _ _ h.2]
        rfl

theorem contains_eq_false {x y : Char} (h : '\n' ∉ cs) (hxy : x = '\n' ∨ y = '\n') :
    Text.contains [x, y] cs = false := by
  induction cs with
  | nil => simp [Text.contains, Text.cutAt, Text.dropWord?]
  | cons z cs ih =>
    rw [List.mem_cons, not_or] at h
    rw [Quoted.contains_pair, ih h.2, Bool.or_false, Bool.and_eq_false_iff]
    rcases hxy with rfl | rfl
    · exact .inl (beq_eq_false_iff_ne.mpr fun e => h.1 e.symm)
    · refine .inr (beq_eq_false_iff_ne.mpr fun e => h.2 ?_)
      cases cs with
      | nil => cases e
      | cons w cs => exact Option.some.inj e ▸ List.mem_cons_self

/-- A name is written without quotes or in single ones. -/
theorem IsName.text_eq {k : String} (hk : IsName k) (column : Nat) :
    stringText none column k.toList = if isPlain k.toList then k.toList
      else '\'' :: (k.toList.flatMap fun x => if x = '\'' then [x, x] else [x]) ++ ['\''] := by
  have hsingle : isSingle k.toList = true := by
    have hline := not_mem_of_ascii hk.ascii
    simp only [isSingle, contains_eq_false hline (.inr rfl), contains_eq_false hline (.inl rfl),
      Bool.not_false, Bool.and_true, List.all_eq_true, Bool.or_eq_true]
    exact fun x hx => .inl (hk.ascii x hx)
  rw [stringText, if_pos hsingle, wrap_none false column none hk.ascii,
    wrap_none true (column + 1) none hk.ascii]
  simp

theorem IsName.length_text {k : String} (hk : IsName k) (column : Nat) :
    (stringText none column k.toList).length ≤ 1024 := by
  have hshort : k.toList.length + 5 < 128 := by
    rw [String.length_toList]
    exact hk.short
  have htwice : (k.toList.flatMap fun x => if x = '\'' then [x, x] else [x]).length ≤
      2 * k.toList.length := by
    induction k.toList with
    | nil => exact Nat.le_refl _
    | cons x cs ih =>
      rw [List.flatMap_cons, List.length_append, List.length_cons]
      split
      · simp only [List.length_cons, List.length_nil]
        omega
      · simp only [List.length_cons, List.length_nil]
        omega
  rw [hk.text_eq]
  split
  · omega
  · simp only [List.length_append, List.length_cons, List.length_nil]
    omega

/-- Texts that can be keys: one that stands before a colon is found there only if it is not written
too long. -/
def FitsKey (k : String) : Prop :=
  isSimpleKey (.str k) = true → (stringText none 0 k.toList).length ≤ 1024

instance (k : String) : Decidable (FitsKey k) := inferInstanceAs (Decidable (_ → _))

theorem IsName.fitsKey {k : String} (hk : IsName k) : FitsKey k := fun _ => hk.length_text 0

/-! ## how keys are written -/

theorem ascii_hexUpper (width n : Nat) : ∀ x ∈ hexUpper width n, isAsciiText x = true := by
  have hdigit : ∀ m < 16, isAsciiText (Nat.digitChar m).toUpper = true := by decide
  intro x hx
  obtain ⟨d, hd, rfl⟩ := List.mem_map.mp hx
  obtain ⟨m, hm, rfl⟩ := Text.digit_of_mem_hexText hd
  exact hdigit m hm

theorem ascii_escape? {c : Char} {e : List Char} (h : escape? c = some e) :
    ∀ x ∈ e, isAsciiText x = true := by
  have hletter : ∀ e ∈ escapeLetters, isAsciiText e.2 = true := by decide
  have hmark {x : Char} (hx : isAsciiText x = true) {cs : List Char}
    (hcs : ∀ y ∈ cs, isAsciiText y = true) :
      ∀ y ∈ '\\' :: x :: cs, isAsciiText y = true :=
    List.forall_mem_cons.mpr ⟨rfl, List.forall_mem_cons.mpr ⟨hx, hcs⟩⟩
  unfold escape? at h
  split at h
  · cases h
  · split at h
    · rename_i l hl
      cases h
      exact hmark (hletter l (List.mem_of_find?_eq_some hl)) nofun
    · split at h
      · cases h
        exact hmark rfl (ascii_hexUpper _ _)
      · split at h
        · cases h
          exact hmark rfl (ascii_hexUpper _ _)
        · cases h
          exact hmark rfl (ascii_hexUpper _ _)

theorem ascii_escaped (column : Nat) (first loose : Bool) (cs : List Char) :
    ∀ x ∈ escaped none column first loose cs, isAsciiText x = true := by
  induction cs generalizing column first loose with
  | nil => exact nofun
  | cons c cs ih =>
    rw [escaped]
    cases he : escape? c with
    | some e => exact List.forall_mem_append.mpr ⟨ascii_escape? he, ih _ _ _⟩
    | none => exact List.forall_mem_cons.mpr ⟨(Quoted.of_escape?_none he).1, ih _ _ _⟩

theorem ascii_text (h : '\n' ∉ cs) (column : Nat) :
    ∀ x ∈ stringText none column cs, isAsciiText x = true := by
  have hquoted (q : Char) (hq : isAsciiText q = true) {ds : List Char}
    (hds : ∀ x ∈ ds, isAsciiText x = true) :
      ∀ x ∈ q :: ds ++ [q], isAsciiText x = true := by
    simpa [hq, or_imp, forall_and] using hds
  rw [stringText]
  split
  · rename_i hplain
    have hascii := (bare_of_isPlain hplain).1.ascii
    simpa [wrap_none false column none hascii] using hascii
  · split
    · rename_i hsingle
      simp only [isSingle, Bool.and_eq_true, List.all_eq_true, Bool.or_eq_true,
        beq_iff_eq] at hsingle
      have hascii : ∀ x ∈ cs, isAsciiText x = true := fun x hx =>
        (hsingle.1.1 x hx).resolve_right fun e => h (e ▸ hx)
      refine hquoted '\'' rfl fun x hx => ?_
      rw [wrap_none true (column + 1) none hascii, List.mem_flatMap] at hx
      obtain ⟨y, hy, hx⟩ := hx
      have hxy : x = y := by
        split at hx
        · simpa using hx
        · simpa using hx
      exact hxy ▸ hascii y hy
    · exact hquoted '"' rfl (ascii_escaped _ _ _ cs)

theorem begins_text (fold : Option Nat) (column : Nat) (cs rest : List Char) :
    stringText fold column cs ≠ [] ∧ Begins (stringText fold column cs ++ rest) := by
  rw [stringText]
  split
  · rename_i hplain
    obtain ⟨x, ys, rfl, hascii, hspace, hhash⟩ := (bare_of_isPlain hplain).1.exists_head
    have hline : x ≠ '\n' := fun e => absurd (e ▸ hascii) (by decide)
    obtain ⟨zs, hzs⟩ := wrap_head fold false column none hspace hline ys
    rw [hzs]
    exact ⟨List.cons_ne_nil _ _, begins_cons hascii hspace hhash _⟩
  · split
    · exact ⟨List.cons_ne_nil _ _, begins_cons rfl (by decide) (by decide) _⟩
    · exact ⟨List.cons_ne_nil _ _, begins_cons rfl (by decide) (by decide) _⟩

theorem isPrefix_append {w : List Char} {x : Char} (hx : x ∉ w) (cs rest : List Char) :
    Text.isPrefix w (cs ++ x :: rest) = Text.isPrefix w cs := by
  induction w generalizing cs with
  | nil => rfl
  | cons y w ih =>
    rw [List.mem_cons, not_or] at hx
    cases cs with
    | nil =>
      simp [Text.isPrefix, Text.dropWord?, Ne.symm hx.1]
    | cons z cs =>
      rw [List.cons_append, Text.isPrefix, Text.isPrefix, Text.dropWord?, Text.dropWord?]
      split
      · exact ih hx.2 cs
      · rfl

/-- A text that starts no structure is not taken for the end of a document. -/
theorem not_separator_of_start (h : startsStructure cs = false) (rest : List Char) :
    isSeparator (cs ++ ':' :: rest) = false := by
  simp only [startsStructure, Bool.or_eq_false_iff] at h
  rw [isSeparator, isPrefix_append (by decide), isPrefix_append (by decide), h.1.1, h.1.2]
  rfl

theorem not_separator_text (cs rest : List Char) :
    isSeparator (stringText none 0 cs ++ ':' :: rest) = false := by
  rw [stringText]
  split
  · rename_i hplain
    obtain ⟨hbare, hstart, _⟩ := bare_of_isPlain hplain
    have hwrap : wrap none false 0 none cs = cs := by simp [wrap_none false 0 none hbare.ascii]
    rw [hwrap]
    exact not_separator_of_start hstart rest
  · split
    · exact isSeparator_of_ne (by decide) (by decide) _
    · exact isSeparator_of_ne (by decide) (by decide) _

end Apidoc.Yaml
