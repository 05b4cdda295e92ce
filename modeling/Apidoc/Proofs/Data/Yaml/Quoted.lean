import Apidoc.Data.Yaml.Token
import Apidoc.Data.Yaml.Writer
import Apidoc.Proofs.Text.Points

/-!
# Quoted scalars are read back

What is left of a quoted scalar is read piece by piece (`Quoted.Reads`); each piece that is written
has a lemma that puts it in front.

* `Quoted.Reads.blanks`, `Quoted.Reads.fold`, `Quoted.Reads.breaks`   gaps, written on one line or
                                                                      on several;
* `Quoted.Reads.escape`    an escape stands for the character it was made from;
* `Quoted.Reads.folded`    a line that is folded after a backslash goes on;
* `Quoted.reads_single`, `Quoted.reads_double`   the whole text, whatever it holds.
-/

namespace Apidoc.Yaml

/-! ## characters -/

theorem isGap_of_ascii {c : Char} (h : isAsciiText c = true) (hc : c ≠ ' ') : isGap c = false := by
  have hne (d : Char) (hd : isAsciiText d = false) : (c == d) = false := by
    rw [beq_eq_false_iff_ne]
    rintro rfl
    rw [h] at hd
    cases hd
  simp only [isGap, isLineEnd, beq_eq_false_iff_ne.mpr hc, hne '\t' rfl, hne '\n' rfl,
    hne '\u0085' rfl, hne '\u2028' rfl, hne '\u2029' rfl, Bool.or_self]

theorem isGap_false_iff {c : Char} :
    isGap c = false ↔ c ≠ ' ' ∧ c ≠ '\t' ∧ isLineEnd c = false := by
  simp only [isGap, Bool.or_eq_false_iff, beq_eq_false_iff_ne, and_assoc]

theorem spaces_succ (k : Nat) : spaces (k + 1) = ' ' :: spaces k := rfl

theorem spaces_concat (k : Nat) (cs : List Char) :
    spaces k ++ ' ' :: cs = spaces (k + 1) ++ cs := by
  rw [spaces, spaces, List.replicate_succ', List.append_assoc]
  rfl

@[simp] theorem length_spaces (k : Nat) : (spaces k).length = k := List.length_replicate

theorem points_append (cs ds : List Char) :
    Text.points (cs ++ ds) = Text.points cs ++ Text.points ds :=
  List.map_append

theorem isSeparator_of_ne {c : Char} (hdash : c ≠ '-') (hdot : c ≠ '.') (cs : List Char) :
    isSeparator (c :: cs) = false := by
  have hprefix (d : Char) (ds : List Char) (hd : c ≠ d) : Text.isPrefix (d :: ds)
      (c :: cs) = false := by
    rw [Text.isPrefix, Text.dropWord?, if_neg (fun e => hd e.symm)]
    rfl
  rw [isSeparator, show "---".toList = '-' :: ['-', '-'] from rfl, show "...".toList = '.' ::
    ['.', '.'] from rfl, hprefix _ _ hdash, hprefix _ _ hdot]
  rfl

/-! ## lines that are folded -/

variable {c : Char} {cs : List Char}

theorem exists_run (x : Char) (cs : List Char) :
    ∃ j ds, cs = List.replicate j x ++ ds ∧ ds.head? ≠ some x := by
  induction cs with
  | nil => exact ⟨0, [], rfl, nofun⟩
  | cons c cs ih =>
    by_cases hc : c = x
    · obtain ⟨j, ds, rfl, hds⟩ := ih
      exact ⟨j + 1, ds, by rw [hc]; rfl, hds⟩
    · exact ⟨0, c :: cs, rfl, by simpa using hc⟩

/-- Line ends in a row, of which one more is written. -/
theorem wrap_breaks (fold : Option Nat) (quoted : Bool) (column : Nat)
    (before : Option Char) (j : Nat) (h : cs.head? ≠ some '\n') :
    wrap fold quoted column before (List.replicate (j + 1) '\n' ++ cs) =
      (if before = some '\n' then [] else ['\n']) ++ (List.replicate (j + 1) '\n' ++
        (spaces (fold.getD 0) ++ wrap fold quoted (fold.getD 0) (some '\n') cs)) := by
  induction j generalizing column before with
  | zero =>
    show wrap fold quoted column before ('\n' :: cs) = _
    rw [wrap]
    simp only [if_neg (show '\n' ≠ ' ' by decide), if_true, if_neg h]
    split <;> rfl
  | succ j ih =>
    show wrap fold quoted column before ('\n' :: (List.replicate (j + 1) '\n' ++ cs)) = _
    have hhead : (List.replicate (j + 1) '\n' ++ cs).head? = some '\n' := rfl
    rw [wrap]
    simp only [if_neg (show '\n' ≠ ' ' by decide), if_true, if_pos hhead, ih]
    split <;> rfl

theorem wrap_char (fold : Option Nat) (quoted : Bool) (column : Nat) (before : Option Char)
    (hspace : c ≠ ' ') (hline : c ≠ '\n') (cs : List Char) :
    wrap fold quoted column before (c :: cs) =
      if quoted ∧ c = '\'' then c :: c :: wrap fold quoted (column + 2) (some c) cs
      else c :: wrap fold quoted (column + 1) (some c) cs := by
  rw [wrap, if_neg hspace, if_neg hline]

theorem wrap_head (fold : Option Nat) (quoted : Bool) (column : Nat) (before : Option Char)
    (hspace : c ≠ ' ') (hline : c ≠ '\n') (cs : List Char) :
    ∃ ds, wrap fold quoted column before (c :: cs) = c :: ds := by
  rw [wrap_char fold quoted column before hspace hline]
  split
  · exact ⟨_, rfl⟩
  · exact ⟨_, rfl⟩

namespace Quoted

/-- What the rest of a quoted scalar holds, and what follows its closing quote. -/
def Reads (double : Bool) (cs : List Char) (ps : Text.Points) (rest : List Char) : Prop :=
  ∀ n, cs.length < n → body double n cs = some (ps, rest)

variable {double : Bool} {rest : List Char} {ps qs : Text.Points}

theorem Reads.piece {cs' : List Char} (h : Reads double cs' qs rest) (ps : Text.Points)
    (hpiece : piece double c cs = some (some ps, cs')) (hlength : cs'.length ≤ cs.length) :
    Reads double (c :: cs) (ps ++ qs) rest := by
  intro n hn
  rw [List.length_cons] at hn
  obtain ⟨n, rfl⟩ : ∃ k, n = k + 1 := ⟨n - 1, by omega⟩
  rw [body]
  simp only [hpiece, h n (by omega)]
  rfl

theorem reads_closing (double : Bool) (rest : List Char)
    (h : double = false → rest.head? ≠ some '\'') :
    Reads double ((if double then '"' else '\'') :: rest) [] rest := by
  intro n hn
  obtain ⟨n, rfl⟩ : ∃ k, n = k + 1 := ⟨n - 1, by omega⟩
  cases double with
  | true => rfl
  | false =>
    have hpiece : Quoted.piece false '\'' rest = some (none, rest) := by
      unfold Quoted.piece
      cases rest with
      | nil => rfl
      | cons d rest =>
        have hd : d ≠ '\'' := fun e => h rfl (by rw [e]; rfl)
        simp [hd]
    show body false (n + 1) ('\'' :: rest) = _
    rw [body]
    simp only [hpiece]

/-- A character that is no gap and has no meaning of its own. -/
theorem Reads.char (hgap : isGap c = false) (hdouble : double = true → c ≠ '"' ∧ c ≠ '\\')
    (hsingle : double = false → c ≠ '\'') (h : Reads double cs ps rest) :
    Reads double (c :: cs) (c.toNat :: ps) rest := by
  refine h.piece [c.toNat] ?_ (Nat.le_refl _)
  cases double with
  | true => simp [Quoted.piece, hdouble rfl, hgap]
  | false => simp [Quoted.piece, hsingle rfl, hgap]

/-! ## gaps -/

theorem takeWhile_spaces (k : Nat) (hc : isGap c = false) (cs : List Char) :
    (spaces k ++ c :: cs).takeWhile (fun d => d == ' ' || d == '\t') = spaces k := by
  obtain ⟨hspace, htab, _⟩ := isGap_false_iff.mp hc
  induction k with
  | zero => simp [spaces, hspace, htab]
  | succ k ih => rw [spaces_succ, List.cons_append, List.takeWhile_cons_of_pos (by rfl), ih]

theorem Reads.blanks (k : Nat) (hc : isGap c = false) (h : Reads double (c :: cs) ps rest) :
    Reads double (spaces k ++ c :: cs) (List.replicate k 32 ++ ps) rest := by
  cases k with
  | zero => exact h
  | succ k =>
    have hgap : gap (' ' :: (spaces k ++ c :: cs)) = some (spaces (k + 1), c :: cs) := by
      have htake := takeWhile_spaces (k + 1) hc cs
      rw [spaces_succ, List.cons_append] at htake
      rw [gap, htake, ← List.cons_append, ← spaces_succ, List.drop_left]
      simp [(isGap_false_iff.mp hc).2.2]
    have hpoints : (spaces (k + 1)).map Char.toNat = List.replicate (k + 1) 32 := List.map_replicate
    rw [spaces_succ, List.cons_append]
    refine h.piece _ ?_ (by simp)
    unfold Quoted.piece
    rw [hgap, ← hpoints]
    cases double <;> rfl

theorem breaks_spaces (k : Nat) (fresh : Bool) (cs : List Char) :
    breaks fresh (spaces (k + 1) ++ cs) = breaks false cs := by
  induction k generalizing fresh with
  | zero =>
    show breaks fresh (' ' :: cs) = _
    rw [breaks, isSeparator_of_ne (by decide) (by decide), Bool.and_false, if_neg (by decide),
      if_pos (.inl rfl)]
  | succ k ih =>
    rw [spaces_succ, List.cons_append, breaks, isSeparator_of_ne (by decide) (by decide),
      Bool.and_false, if_neg (by decide), if_pos (.inl rfl), ih]

theorem breaks_stop (hc : isGap c = false) (cs : List Char) :
    breaks false (c :: cs) = some ([], c :: cs) := by
  obtain ⟨hspace, htab, hline⟩ := isGap_false_iff.mp hc
  simp [breaks, hspace, htab, hline]

theorem breaks_lines (j : Nat) {indent : Nat} (hindent : 0 < indent) (hc : isGap c = false)
    (cs : List Char) :
    breaks true (List.replicate j '\n' ++ (spaces indent ++ c :: cs)) =
      some (List.replicate j '\n', c :: cs) := by
  obtain ⟨k, rfl⟩ : ∃ k, indent = k + 1 := ⟨indent - 1, by omega⟩
  induction j with
  | zero => rw [List.replicate_zero, List.nil_append, breaks_spaces, breaks_stop hc]
  | succ j ih =>
    rw [List.replicate_succ, List.cons_append, breaks, isSeparator_of_ne (by decide) (by decide),
      Bool.and_false, if_neg (by decide), if_neg (by decide), if_pos (by rfl), ih]
    rfl

/-- A line end and the indentation of the next line stand for the line ends after the first. -/
theorem gap_lines (j : Nat) {indent : Nat} (hindent : 0 < indent) (hc : isGap c = false)
    (cs : List Char) :
    gap ('\n' :: (List.replicate j '\n' ++ (spaces indent ++ c :: cs))) =
      some (if j = 0 then [' '] else List.replicate j '\n', c :: cs) := by
  have hline : isLineEnd '\n' = true := rfl
  have hjoin : joinLines '\n' (List.replicate j '\n') = if j =
      0 then [' '] else List.replicate j '\n' := by
    cases j <;> rfl
  rw [gap, List.takeWhile_cons_of_neg (by decide), List.length_nil, List.drop_zero]
  simp only [hline, if_true, breaks_lines j hindent hc, Option.map_some, hjoin]

theorem piece_lines (double : Bool) (j : Nat) {indent : Nat} (hindent : 0 < indent)
    (hc : isGap c = false) (cs : List Char) :
    piece double '\n' (List.replicate j '\n' ++ (spaces indent ++ c :: cs)) =
      some (some ((if j = 0 then [' '] else List.replicate j '\n').map Char.toNat), c :: cs) := by
  unfold Quoted.piece
  rw [gap_lines j hindent hc]
  cases double <;> rfl

theorem Reads.fold {indent : Nat} (hindent : 0 < indent) (hc : isGap c = false)
    (h : Reads double (c :: cs) ps rest) :
    Reads double (newline indent ++ c :: cs) (32 :: ps) rest := by
  refine h.piece [32] (piece_lines double 0 hindent hc cs) ?_
  simp

/-- Line ends of the text, of which one more is written. -/
theorem Reads.breaks {j indent : Nat} (hj : 0 < j) (hindent : 0 < indent) (hc : isGap c = false)
    (h : Reads double (c :: cs) ps rest) :
    Reads double (List.replicate (j + 1) '\n' ++ (spaces indent ++ c :: cs))
      (List.replicate j 10 ++ ps) rest := by
  have hpiece := piece_lines double j hindent hc cs
  rw [if_neg (by omega), List.map_replicate] at hpiece
  exact h.piece _ hpiece (by simp; omega)

/-! ## escapes -/

theorem hexValue?_upper : ∀ m < 16, Text.hexValue? m.digitChar.toUpper = some m := by decide

theorem code?_hexUpper {width n : Nat} (hwidth : 0 < width) (h : n < 16 ^ width) (cs : List Char) :
    code? width (hexUpper width n ++ cs) = some (n, cs) := by
  have hupper : ∀ d ∈ Text.hexText width n, Text.hexValue? d.toUpper = Text.hexValue? d := by
    intro d hd
    obtain ⟨m, hm, rfl⟩ := Text.digit_of_mem_hexText hd
    rw [hexValue?_upper m hm, Text.hexValue?_digitChar m hm]
  have hlength : (hexUpper width n).length = width := by
    rw [hexUpper, List.length_map, Text.length_hexText hwidth h]
  have hall : (hexUpper width n).all (fun c => (Text.hexValue? c).isSome) = true := by
    rw [hexUpper, List.all_map, List.all_eq_true]
    intro d hd
    rw [Function.comp_apply, hupper d hd]
    exact List.all_eq_true.mp (Text.all_hexText width n) d hd
  have hvalue : Text.hexNat (hexUpper width n) = n := by
    rw [hexUpper, Text.hexNat_map hupper, Text.hexNat_hexText]
  rw [code?, List.take_left' hlength, List.drop_left' hlength, hvalue]
  exact if_pos ⟨hlength, hall⟩

theorem find?_letters :
    ∀ e ∈ escapeLetters, letters.find? (·.1 == e.2) = some (e.2, e.1) := by decide

theorem find?_widths :
    ∀ w ∈ widths, letters.find? (·.1 == w.1) = none ∧ widths.find? (·.1 == w.1) = some w := by
  decide

theorem escape_code {w : Char × Nat} (hw : w ∈ widths) {n : Nat} (h : n < 16 ^ w.2)
    (cs : List Char) :
    Quoted.escape (w.1 :: (hexUpper w.2 n ++ cs)) = some ([n], cs) := by
  have hpos : ∀ w ∈ widths, 0 < w.2 := by decide
  obtain ⟨hnone, hsome⟩ := find?_widths w hw
  simp only [Quoted.escape, hnone, hsome, code?_hexUpper (hpos w hw) h]
  rfl

/-- An escape is a backslash and what stands for the character. -/
theorem escape_of_escape? {c : Char} {e : List Char} (h : escape? c = some e) :
    ∃ e', e = '\\' :: e' ∧ ∀ cs, Quoted.escape (e' ++ cs) = some ([c.toNat], cs) := by
  have hbound : c.toNat < 0x110000 := by
    rcases c.valid with h | h
    · exact Nat.lt_trans h (by decide)
    · exact h.2
  unfold escape? at h
  split at h
  · cases h
  · split at h
    · rename_i l hl
      cases h
      refine ⟨[l.2], rfl, fun cs => ?_⟩
      have hletter : l.1 = c.toNat := by simpa using List.find?_some hl
      show Quoted.escape (l.2 :: cs) = _
      simp only [Quoted.escape, find?_letters l (List.mem_of_find?_eq_some hl), hletter]
    · split at h
      · cases h
        exact ⟨_, rfl, escape_code (w := ('x', 2)) (by decide) (show c.toNat < 16 ^ 2 by omega)⟩
      · split at h
        · cases h
          exact ⟨_, rfl, escape_code (w := ('u', 4)) (by decide) (show c.toNat < 16 ^ 4 by omega)⟩
        · cases h
          exact ⟨_, rfl, escape_code (w := ('U', 8)) (by decide) (show c.toNat < 16 ^ 8 by omega)⟩

theorem Reads.escape {e : List Char} (he : escape? c = some e) (h : Reads true cs ps rest) :
    Reads true (e ++ cs) (c.toNat :: ps) rest := by
  obtain ⟨e', rfl, hescape⟩ := escape_of_escape? he
  refine h.piece [c.toNat] ?_ (by simp)
  show (Quoted.escape (e' ++ cs)).map _ = _
  rw [hescape]
  rfl

/-- A blank that a backslash keeps at the start of a line. -/
theorem Reads.keptBlank (h : Reads true cs ps rest) :
    Reads true ('\\' :: ' ' :: cs) (32 :: ps) rest :=
  h.piece [32] rfl (by simp)

/-- A line that is folded after a backslash goes on where the next starts. -/
theorem Reads.folded {indent : Nat} (hindent : 0 < indent) (hc : isGap c = false)
    (h : Reads true (c :: cs) ps rest) :
    Reads true ('\\' :: (newline indent ++ c :: cs)) ps rest := by
  refine h.piece [] ?_ (by simp [newline]; omega)
  have hline := breaks_lines 0 hindent hc cs
  rw [List.replicate_zero, List.nil_append] at hline
  show ((Quoted.breaks true (spaces indent ++ c :: cs)).map _).map _ = _
  rw [hline]
  rfl

/-! ## double quotes -/

theorem of_escape?_none (h : escape? c = none) : isAsciiText c = true ∧ c ≠ '"' ∧ c ≠ '\\' := by
  unfold escape? at h
  split at h
  · rename_i hc
    simpa [and_assoc] using hc
  · split at h
    · cases h
    · split at h
      · cases h
      · split at h
        · cases h
        · cases h

/-- Where a text goes on with something else than a blank, so does what is written for it. -/
theorem escaped_head (fold : Option Nat) (column : Nat) (first loose : Bool) (hc : c ≠ ' ')
    (cs : List Char) :
    ∃ d ds, escaped fold column first loose (c :: cs) = d :: ds ∧ isGap d = false := by
  unfold escaped
  simp only
  split
  · rename_i e he
    obtain ⟨e', rfl, _⟩ := escape_of_escape? he
    split
    · exact ⟨'\\', _, rfl, rfl⟩
    · exact ⟨'\\', _, rfl, rfl⟩
  · rename_i he
    split
    · exact ⟨'\\', _, rfl, rfl⟩
    · exact ⟨c, _, rfl, isGap_of_ascii (of_escape?_none he).1 hc⟩

/-- A blank is not folded away at the start of a line. -/
theorem escaped_blank {fold : Option Nat} {column : Nat} (h : column ≤ lineWidth)
    (first loose : Bool) (cs : List Char) :
    escaped fold column first loose (' ' :: cs) = ' ' ::
      escaped fold (column + 1) false false cs := by
  have hnone : escape? ' ' = none := rfl
  have hshort : decide (lineWidth < column) = false := decide_eq_false (by omega)
  rw [escaped]
  simp only [hnone, hshort, Bool.and_false, Bool.false_eq_true, if_false]

/-- The lines of a text are folded to a column inside the line. -/
def FoldsInside (fold : Option Nat) : Prop :=
  ∀ indent, fold = some indent → 0 < indent ∧ indent < lineWidth

theorem FoldsInside.getD {fold : Option Nat} (h : FoldsInside fold) (hsome : fold.isSome = true) :
    0 < fold.getD 0 ∧ fold.getD 0 < lineWidth := by
  obtain ⟨indent, rfl⟩ := Option.isSome_iff_exists.mp hsome
  exact h indent rfl

theorem Reads.foldMark_blank {indent : Nat} (hindent : 0 < indent) (h : Reads true cs ps rest) :
    Reads true (foldMark indent (some ' ') ++ ' ' :: cs) (32 :: ps) rest := by
  have hmark : foldMark indent (some ' ') ++ ' ' :: cs = '\\' ::
      (newline indent ++ '\\' :: ' ' :: cs) := by
    simp [foldMark]
  rw [hmark]
  exact h.keptBlank.folded hindent rfl

theorem Reads.foldMark_char {indent : Nat} (hindent : 0 < indent) {next : Option Char}
    (hnext : next ≠ some ' ') (hc : isGap c = false) (h : Reads true (c :: cs) ps rest) :
    Reads true (foldMark indent next ++ c :: cs) ps rest := by
  have hmark : foldMark indent next ++ c :: cs = '\\' :: (newline indent ++ c :: cs) := by
    simp [foldMark, hnext]
  rw [hmark]
  exact h.folded hindent hc

/-- What is written for a text in double quotes is read as the text, with blanks that come before it
on its line. -/
def ReadsDouble (fold : Option Nat) (rest cs : List Char) : Prop :=
  ∀ (k column : Nat) (first loose : Bool),
    Reads true (spaces k ++ (escaped fold column first loose cs ++ '"' :: rest))
      (List.replicate k 32 ++ Text.points cs) rest

theorem ReadsDouble.start {fold : Option Nat} (h : ReadsDouble fold rest cs) (column : Nat)
    (first loose : Bool) :
    Reads true (escaped fold column first loose cs ++ '"' :: rest) (Text.points cs) rest :=
  h 0 column first loose

/-- A line may be folded after an escape.  A blank at the start of the next line is read with the
fold, so what comes after the blank has to be read as well. -/
theorem ReadsDouble.afterFold {fold : Option Nat} (hfold : FoldsInside fold)
    (hsome : fold.isSome = true) (hne : cs ≠ []) (h : ReadsDouble fold rest cs)
    (htail : ReadsDouble fold rest cs.tail) :
    Reads true (foldMark (fold.getD 0) cs.head? ++
      (escaped fold (foldColumn (fold.getD 0) cs.head?) false true cs ++ '"' :: rest))
        (Text.points cs) rest := by
  obtain ⟨hpos, hinside⟩ := hfold.getD hsome
  cases cs with
  | nil => exact absurd rfl hne
  | cons d ds =>
    rw [List.head?_cons]
    by_cases hd : d = ' '
    · subst hd
      rw [foldColumn, if_pos rfl, escaped_blank (by omega), List.cons_append]
      exact (htail.start _ _ _).foldMark_blank hpos
    · obtain ⟨x, xs, hx, hgap⟩ :=
        escaped_head fold (foldColumn (fold.getD 0) (some d)) false true hd ds
      have hread := h.start (foldColumn (fold.getD 0) (some d)) false true
      rw [hx, List.cons_append] at hread ⊢
      exact hread.foldMark_char hpos (by simpa using hd) hgap

theorem ReadsDouble.escape {fold : Option Nat} (hfold : FoldsInside fold) {e : List Char}
    (he : escape? c = some e) (h : ReadsDouble fold rest cs)
    (htail : ReadsDouble fold rest cs.tail) : ReadsDouble fold rest (c :: cs) := by
  intro k column first loose
  obtain ⟨e', hbackslash, _⟩ := escape_of_escape? he
  have hescape {t : List Char} (h : Reads true t (Text.points cs) rest) :
      Reads true (spaces k ++ (e ++ t)) (List.replicate k 32 ++ Text.points (c :: cs)) rest := by
    have hread := h.escape he
    rw [hbackslash, List.cons_append] at hread ⊢
    exact hread.blanks k rfl
  rw [escaped]
  simp only [he]
  split
  · rename_i hfolds
    simp only [Bool.and_eq_true] at hfolds
    obtain ⟨⟨⟨hsome, _⟩, hne⟩, _⟩ := hfolds
    rw [List.append_assoc, List.append_assoc]
    exact hescape (h.afterFold hfold hsome (by simpa using hne) htail)
  · rw [List.append_assoc]
    exact hescape (h.start _ _ _)

theorem ReadsDouble.char {fold : Option Nat} (hfold : FoldsInside fold) (he : escape? c = none)
    (h : ReadsDouble fold rest cs) : ReadsDouble fold rest (c :: cs) := by
  intro k column first loose
  obtain ⟨hascii, hquote, hslash⟩ := of_escape?_none he
  have hchar {t : List Char} (hc : c ≠ ' ') (h : Reads true t (Text.points cs) rest) :
      Reads true (c :: t) (Text.points (c :: cs)) rest :=
    h.char (isGap_of_ascii hascii hc) (fun _ => ⟨hquote, hslash⟩) nofun
  rw [escaped]
  simp only [he]
  split
  · rename_i hfolds
    simp only [Bool.and_eq_true] at hfolds
    obtain ⟨⟨⟨⟨hsome, _⟩, _⟩, _⟩, _⟩ := hfolds
    obtain ⟨hpos, _⟩ := hfold.getD hsome
    rw [List.append_assoc, List.cons_append]
    refine Reads.blanks k (show isGap '\\' = false from rfl) ?_
    by_cases hc : c = ' '
    · subst hc
      exact (h.start _ _ _).foldMark_blank hpos
    · exact (hchar hc (h.start _ _ _)).foldMark_char hpos (by simpa using hc)
        (isGap_of_ascii hascii hc)
  · rw [List.cons_append]
    by_cases hc : c = ' '
    · subst hc
      have hread := h (k + 1) (column + 1) false false
      rwa [← spaces_concat, List.replicate_succ', List.append_assoc] at hread
    · exact (hchar hc (h.start _ _ _)).blanks k (isGap_of_ascii hascii hc)

theorem reads_double {fold : Option Nat} (hfold : FoldsInside fold) (rest cs : List Char) :
    ReadsDouble fold rest cs := by
  have hnil : ReadsDouble fold rest [] :=
    fun k _ _ _ => (reads_closing true rest nofun).blanks k rfl
  -- the induction carries the tail along, for a fold before a blank
  suffices ReadsDouble fold rest cs ∧ ReadsDouble fold rest cs.tail from this.1
  induction cs with
  | nil => exact ⟨hnil, hnil⟩
  | cons c cs ih =>
    refine ⟨?_, ih.1⟩
    cases he : escape? c with
    | none => exact ih.1.char hfold he
    | some e => exact ih.1.escape hfold he ih.2

/-! ## single quotes -/

/-- No blank stands beside a line end, neither in a text nor at its start. -/
def Tight : Option Char → List Char → Prop
  | _, [] => True
  | before, c :: cs =>
    ¬ (before = some ' ' ∧ c = '\n') ∧ ¬ (before = some '\n' ∧ c = ' ') ∧ Tight (some c) cs

theorem contains_pair (a b c : Char) (cs : List Char) :
    Text.contains [a, b] (c :: cs) =
      ((c == a && cs.head? == some b) || Text.contains [a, b] cs) := by
  rw [Text.contains, Text.contains, Text.cutAt]
  by_cases ha : a = c
  · subst ha
    cases cs with
    | nil => simp [Text.dropWord?, Text.cutAt]
    | cons d cs =>
      by_cases hb : b = d
      · simp [Text.dropWord?, hb]
      · simp [Text.dropWord?, hb, Ne.symm hb]
  · simp [Text.dropWord?, ha, Ne.symm ha]

theorem tight_of_contains (hspace : Text.contains [' ', '\n'] cs = false)
    (hline : Text.contains ['\n', ' '] cs = false) {before : Option Char}
    (hbefore : before = some ' ' → cs.head? ≠ some '\n')
    (hbefore' : before = some '\n' → cs.head? ≠ some ' ') : Tight before cs := by
  induction cs generalizing before with
  | nil => trivial
  | cons c cs ih =>
    rw [contains_pair, Bool.or_eq_false_iff] at hspace hline
    refine ⟨fun h => hbefore h.1 (by rw [h.2]; rfl), fun h => hbefore' h.1 (by rw [h.2]; rfl),
      ih hspace.2 hline.2 ?_ ?_⟩
    · intro hc hhead
      simp [Option.some.inj hc, hhead] at hspace
    · intro hc hhead
      simp [Option.some.inj hc, hhead] at hline

theorem Tight.drop_run {j : Nat} {b : Option Char} {x : Char}
    (h : Tight b (List.replicate (j + 1) x ++ cs)) : Tight (some x) cs := by
  induction j generalizing b with
  | zero => exact h.2.2
  | succ j ih => exact ih h.2.2

/-- Wherever a line of the text can end, the next one is indented. -/
def Breakable (fold : Option Nat) (cs : List Char) : Prop :=
  fold.isSome = true ∨ '\n' ∈ cs → 0 < fold.getD 0

theorem Breakable.of_subset {fold : Option Nat} {ds : List Char} (h : Breakable fold cs)
    (hds : ds ⊆ cs) :
    Breakable fold ds := fun hor => h (hor.imp id fun hmem => hds hmem)

theorem Reads.quote (h : Reads false cs ps rest) :
    Reads false ('\'' :: '\'' :: cs) (39 :: ps) rest :=
  h.piece [39] rfl (by simp)

/-- What is written for a text in single quotes after `before` is read as the text, with blanks that
come before it on its line. -/
def ReadsSingle (fold : Option Nat) (rest : List Char) (before : Option Char) (cs : List Char) :
    Prop :=
  ∀ k column : Nat, (0 < k → before = some ' ') →
    Reads false (spaces k ++ (wrap fold true column before cs ++ '\'' :: rest))
      (List.replicate k 32 ++ Text.points cs) rest

section steps

variable {fold : Option Nat} {before : Option Char}

/-- A line starts with what is no gap: no blank stands there, and no line end, if all of them were
taken. -/
theorem wrap_start (htight : Tight (some '\n') cs) (hline : cs.head? ≠ some '\n')
    (hascii : ∀ c ∈ cs, isAsciiText c = true ∨ c = '\n') (column : Nat) (before : Option Char) :
    ∃ x xs, wrap fold true column before cs ++ '\'' :: rest = x :: xs ∧ isGap x = false := by
  cases cs with
  | nil => exact ⟨'\'', rest, rfl, rfl⟩
  | cons d ds =>
    have hd : d ≠ ' ' := fun e => htight.2.1 ⟨rfl, e⟩
    have hd' : d ≠ '\n' := fun e => hline (by rw [e]; rfl)
    obtain ⟨xs, hxs⟩ := wrap_head fold true column before hd hd' ds
    exact ⟨d, xs ++ '\'' :: rest, by rw [hxs]; rfl,
      isGap_of_ascii ((hascii d List.mem_cons_self).resolve_right hd') hd⟩

theorem ReadsSingle.blank (hfold : fold.isSome = true → 0 < fold.getD 0)
    (hascii : ∀ c ∈ cs, isAsciiText c = true ∨ c = '\n') (htight : Tight (some ' ') cs)
    (h : ReadsSingle fold rest (some ' ') cs) : ReadsSingle fold rest before (' ' :: cs) := by
  intro k column hk
  rw [wrap, if_pos rfl]
  split
  · rename_i hfolds
    simp only [foldsAt, Bool.and_eq_true, bne_iff_ne] at hfolds
    obtain ⟨⟨⟨hsome, _⟩, _, hbefore⟩, hne, hnext⟩ := hfolds
    obtain rfl : k = 0 := Nat.eq_zero_of_not_pos fun hpos => hbefore (hk hpos)
    cases cs with
    | nil => cases hne
    | cons d ds =>
      have hd : d ≠ ' ' := fun e => hnext (by rw [e]; rfl)
      have hd' : d ≠ '\n' := fun e => htight.1 ⟨rfl, e⟩
      have hread := h 0 (fold.getD 0) nofun
      obtain ⟨xs, hxs⟩ := wrap_head fold true (fold.getD 0) (some ' ') hd hd' ds
      rw [hxs] at hread ⊢
      rw [List.append_assoc]
      exact hread.fold (hfold hsome)
        (isGap_of_ascii ((hascii d List.mem_cons_self).resolve_right hd') hd)
  · have hread := h (k + 1) (column + 1) fun _ => rfl
    rwa [← spaces_concat, List.replicate_succ', List.append_assoc] at hread

/-- Line ends in a row are read at once, with the indentation after them. -/
theorem ReadsSingle.breaks (hpos : 0 < fold.getD 0)
    (hascii : ∀ c ∈ cs, isAsciiText c = true ∨ c = '\n') {j : Nat}
    (hspace : before ≠ some ' ') (hline : before ≠ some '\n') (htight : Tight (some '\n') cs)
    (hlast : cs.head? ≠ some '\n') (h : ReadsSingle fold rest (some '\n') cs) :
    ReadsSingle fold rest before (List.replicate (j + 1) '\n' ++ cs) := by
  intro k column hk
  obtain rfl : k = 0 := Nat.eq_zero_of_not_pos fun hpos => hspace (hk hpos)
  have hread := h 0 (fold.getD 0) nofun
  obtain ⟨x, xs, hxs, hx⟩ := wrap_start htight hlast hascii (fold.getD 0) (some '\n')
  have hpoints : Text.points (List.replicate (j + 1) '\n') = List.replicate (j + 1) 10 :=
    List.map_replicate
  rw [wrap_breaks fold true column before j hlast, if_neg hline]
  rw [show spaces 0 = [] from rfl, List.nil_append, hxs] at hread
  simp only [List.append_assoc, hxs, points_append]
  rw [hpoints]
  exact hread.breaks (Nat.succ_pos j) hpos hx

theorem ReadsSingle.char (hspace : c ≠ ' ') (hline : c ≠ '\n') (hascii : isAsciiText c = true)
    (h : ReadsSingle fold rest (some c) cs) : ReadsSingle fold rest before (c :: cs) := by
  intro k column hk
  have hgap := isGap_of_ascii hascii hspace
  have hread (column : Nat) := h 0 column nofun
  rw [wrap_char fold true column before hspace hline]
  split
  · rename_i hquote
    obtain ⟨_, rfl⟩ := hquote
    exact (hread _).quote.blanks k rfl
  · rename_i hquote
    refine Reads.blanks k hgap ?_
    exact (hread _).char hgap nofun fun _ e => hquote ⟨rfl, e⟩

theorem reads_single (hrest : rest.head? ≠ some '\'') (cs : List Char) (hfold : Breakable fold cs)
    (hascii : ∀ c ∈ cs, isAsciiText c = true ∨ c = '\n') (htight : Tight before cs)
    (hrun : before = some '\n' → cs.head? ≠ some '\n') : ReadsSingle fold rest before cs := by
  -- line ends in a row are one step, so the induction is on the length
  induction hlength : cs.length using Nat.strongRecOn generalizing cs before with
  | ind length ih =>
    cases cs with
    | nil => exact fun k _ _ => (reads_closing false rest fun _ => hrest).blanks k rfl
    | cons c cs =>
      rw [List.forall_mem_cons] at hascii
      have ih {ds : List Char} (hds : ds <:+ cs) {before : Option Char} (htight : Tight before ds)
          (hrun : before = some '\n' → ds.head? ≠ some '\n') : ReadsSingle fold rest before ds :=
        ih ds.length (by rw [← hlength]; exact Nat.lt_succ_of_le hds.length_le) ds
          (hfold.of_subset (List.subset_cons_of_subset c hds.subset))
          (fun d hd => hascii.2 d (hds.subset hd)) htight hrun rfl
      obtain ⟨hnoLine, hnoSpace, htail⟩ := htight
      by_cases hspace : c = ' '
      · subst hspace
        exact (ih List.suffix_rfl htail nofun).blank (fun h => hfold (.inl h)) hascii.2 htail
      by_cases hline : c = '\n'
      · subst hline
        obtain ⟨j, ds, rfl, hds⟩ := exists_run '\n' cs
        have htight' : Tight (some '\n') ds :=
          Tight.drop_run (j := j) (b := before) ⟨hnoLine, hnoSpace, htail⟩
        have hnext := ih (List.suffix_append _ _) htight' fun _ => hds
        exact hnext.breaks (hfold (.inr List.mem_cons_self))
          (fun d hd => hascii.2 d (List.mem_append_right _ hd)) (fun e => hnoLine ⟨e, rfl⟩)
          (fun e => hrun e rfl) htight' hds
      · exact (ih List.suffix_rfl htail fun h => absurd (Option.some.inj h) hline).char hspace hline
          (hascii.1.resolve_right hline)

end steps

end Quoted

end Apidoc.Yaml
