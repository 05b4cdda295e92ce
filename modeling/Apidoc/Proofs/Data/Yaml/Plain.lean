import Apidoc.Proofs.Data.Yaml.Quoted

/-!
# Plain scalars are read back

A plain scalar is written word by word, with blanks or a folded line between two words, and read in
the same way.

* `Plain.Stops`         what ends a plain scalar;
* `Plain.Bare`          the texts that can be written without quotes;
* `Plain.chunk_word`    a word is read up to the blank or the end after it;
* `Plain.body_wrap`     the whole text is read back.
-/

namespace Apidoc.Yaml

variable {c : Char} {cs : List Char}

/-! ## words and blanks -/

theorem exists_word (cs : List Char) :
    ∃ w ds, cs = w ++ ds ∧ (∀ c ∈ w, c ≠ ' ') ∧ isSpaceOrEnd ds = true := by
  induction cs with
  | nil => exact ⟨[], [], rfl, nofun, rfl⟩
  | cons c cs ih =>
    by_cases hc : c = ' '
    · exact ⟨[], c :: cs, rfl, nofun, by rw [hc]; rfl⟩
    · obtain ⟨w, ds, rfl, hw, hds⟩ := ih
      exact ⟨c :: w, ds, rfl, List.forall_mem_cons.mpr ⟨hc, hw⟩, hds⟩

theorem wrap_word (fold : Option Nat) (column : Nat) (before : Option Char) {w : List Char}
    (hw : ∀ c ∈ w, c ≠ ' ' ∧ c ≠ '\n') (cs : List Char) :
    ∃ column' before', wrap fold false column before (w ++ cs) = w ++
      wrap fold false column' before' cs := by
  induction w generalizing column before with
  | nil => exact ⟨column, before, rfl⟩
  | cons c w ih =>
    rw [List.forall_mem_cons] at hw
    obtain ⟨column', before', h⟩ := ih (column + 1) (some c) hw.2
    refine ⟨column', before', ?_⟩
    rw [List.cons_append, wrap_char fold false column before hw.1.1 hw.1.2, if_neg (by simp), h]
    rfl

theorem wrap_stay (fold : Option Nat) (column j : Nat) (cs : List Char) : ∃ column',
    wrap fold false column (some ' ') (spaces j ++ cs) = spaces j ++ wrap fold false column'
      (some ' ') cs := by
  induction j generalizing column with
  | zero => exact ⟨column, rfl⟩
  | succ j ih =>
    have hfolds : foldsAt fold column (some ' ') (spaces j ++ cs) = false := by simp [foldsAt]
    obtain ⟨column', h⟩ := ih (column + 1)
    refine ⟨column', ?_⟩
    rw [spaces_succ, List.cons_append, wrap, if_pos rfl, hfolds, if_neg (by decide), h]
    rfl

theorem wrap_blanks (fold : Option Nat) (column : Nat) (before : Option Char) (k : Nat)
    (cs : List Char) :
    ∃ column' g, wrap fold false column before (spaces (k + 1) ++ cs) = g ++ wrap fold false column'
      (some ' ') cs ∧
      (g = spaces (k + 1) ∨ k = 0 ∧ fold.isSome = true ∧ g = newline (fold.getD 0)) := by
  rw [spaces_succ, List.cons_append, wrap, if_pos rfl]
  cases k with
  | zero =>
    split
    · rename_i hfolds
      simp only [foldsAt, Bool.and_eq_true] at hfolds
      exact ⟨_, _, rfl, .inr ⟨rfl, hfolds.1.1.1, rfl⟩⟩
    · exact ⟨_, [' '], rfl, .inl rfl⟩
  | succ k =>
    have hfolds : foldsAt fold column before (spaces (k + 1) ++ cs) = false := by
      simp [foldsAt, spaces_succ]
    obtain ⟨column', h⟩ := wrap_stay fold (column + 1) (k + 1) cs
    rw [hfolds, if_neg (by decide), h]
    exact ⟨column', _, rfl, .inl rfl⟩

theorem hasMark_append {w : List Char} (h : hasMark (w ++ cs) = false) : hasMark cs = false := by
  induction w with
  | nil => exact h
  | cons c w ih =>
    rw [List.cons_append, hasMark, Bool.or_eq_false_iff] at h
    exact ih h.2

namespace Plain

/-! ## what ends a scalar -/

/-- What ends a plain scalar, what is left to read after it, and whether that is on a new line: the
colon of a key, or a line end before a line that is not indented. -/
inductive Stops (indent : Int) : List Char → List Char → Bool → Prop
  | colon {cs : List Char} (h : endsOr isGap cs = true) : Stops indent (':' :: cs) (':' :: cs) false
  | line {cs ls rest : List Char} {column : Nat} (hbreaks : breaks true 0 cs =
      (ls, some column, rest)) (hcolumn : (column : Int) < indent) : Stops indent ('\n' ::
        cs) rest true

theorem Stops.ends {indent : Int} {text rest : List Char} {fresh : Bool}
    (h : Stops indent text rest fresh) : ends false text = true := by
  cases h with
  | colon h => simpa [Plain.ends] using .inr h
  | line _ _ => rfl

theorem Stops.no_quote {indent : Int} {text rest : List Char} {fresh : Bool}
    (h : Stops indent text rest fresh) : text.head? ≠ some '\'' := by
  cases h with
  | colon _ => simp
  | line _ _ => simp

theorem breaks_blanks (k column : Nat) (hc : isGap c = false) (cs : List Char) :
    breaks false column (spaces k ++ c :: cs) = ([], some (column + k), c :: cs) := by
  obtain ⟨hspace, _, hline⟩ := isGap_false_iff.mp hc
  induction k generalizing column with
  | zero => simp [spaces, breaks, hspace, hline]
  | succ k ih =>
    rw [spaces_succ, List.cons_append, breaks, Bool.false_and, if_neg (by decide), if_pos rfl, ih]
    congr 3
    omega

theorem breaks_indented (k : Nat) (hc : isGap c = false)
    (h : k = 0 → isSeparator (c :: cs) = false) :
    breaks true 0 (spaces k ++ c :: cs) = ([], some k, c :: cs) := by
  cases k with
  | zero =>
    obtain ⟨hspace, _, hline⟩ := isGap_false_iff.mp hc
    simp [spaces, breaks, hspace, hline, h rfl]
  | succ k =>
    rw [spaces_succ, List.cons_append, breaks, isSeparator_of_ne (by decide) (by decide),
      Bool.and_false, if_neg (by decide), if_pos rfl, breaks_blanks k _ hc]
    congr 3
    omega

/-! ## words -/

/-- A word is read up to the blank or the end after it: a colon inside it has something behind it.
-/
theorem chunk_word {w text : List Char} (hgap : ∀ c ∈ w, isGap c = false)
    (hcs : isSpaceOrEnd cs = true) (hmark : hasMark (w ++ cs) = false)
    (htext : ends false text = true) : chunk false (w ++ text) = w := by
  induction w with
  | nil =>
    cases text with
    | nil => rfl
    | cons d text => exact if_pos htext
  | cons c w ih =>
    rw [List.forall_mem_cons] at hgap
    rw [List.cons_append, hasMark, Bool.or_eq_false_iff, Bool.or_eq_false_iff] at hmark
    have hcolon : (c == ':' && endsOr isGap (w ++ text)) = false := by
      cases w with
      | nil => rw [(by simpa [hcs] using hmark.1.1 : (c == ':') = false), Bool.false_and]
      | cons d w =>
        rw [List.cons_append, endsOr, hgap.2 d List.mem_cons_self, Bool.and_false]
    have hends : ends false (c :: (w ++ text)) = false := by
      have hany : (fun d => isGap d || (false && isFlowMark d)) = isGap := by
        funext d
        rw [Bool.false_and, Bool.or_false]
      rw [ends, hany, hgap.1, hcolon]
      rfl
    rw [List.cons_append, chunk, hends, if_neg (by decide), ih hgap.2 hmark.2]

/-- Texts that can be written without quotes, as far as their form is concerned. -/
structure Bare (cs : List Char) : Prop where
  nonempty : cs ≠ []
  ascii : ∀ c ∈ cs, isAsciiText c = true
  start : cs.head? ≠ some ' ' ∧ cs.head? ≠ some '#'
  last : cs.getLast? ≠ some ' '
  noMark : hasMark cs = false

theorem Bare.next {w : List Char} {k : Nat} (h : Bare (w ++ (spaces (k + 1) ++ cs)))
    (hcs : cs.head? ≠ some ' ') : Bare cs := by
  have hne : cs ≠ [] := by
    rintro rfl
    apply h.last
    rw [List.append_nil, spaces, List.replicate_succ', ← List.append_assoc, List.getLast?_concat]
  refine ⟨hne, fun c hc => h.ascii c (by simp [hc]), ⟨hcs, ?_⟩, ?_, ?_⟩
  · have hmark := h.noMark
    rw [← spaces_concat, ← List.append_assoc] at hmark
    have hmark := hasMark_append hmark
    rw [hasMark, Bool.or_eq_false_iff, Bool.or_eq_false_iff] at hmark
    simpa using hmark.1.2
  · have hlast := h.last
    rwa [← List.append_assoc, List.getLast?_append_of_ne_nil _ hne] at hlast
  · exact hasMark_append (hasMark_append h.noMark)

theorem Bare.exists_head (h : Bare cs) :
    ∃ c ds, cs = c :: ds ∧ isAsciiText c = true ∧ c ≠ ' ' ∧ c ≠ '#' := by
  cases cs with
  | nil => exact absurd rfl h.nonempty
  | cons c ds =>
    exact ⟨c, ds, rfl, h.ascii c List.mem_cons_self, fun e => h.start.1 (by rw [e]; rfl),
      fun e => h.start.2 (by rw [e]; rfl)⟩

/-- A text without quotes is a word, or a word with blanks and another such text behind it. -/
theorem Bare.exists_word (h : Bare cs) :
    ∃ w ds, cs = w ++ ds ∧ w ≠ [] ∧ (∀ c ∈ w, isAsciiText c = true ∧ c ≠ ' ') ∧
    (ds = [] ∨ ∃ k es, ds = spaces (k + 1) ++ es ∧ Bare es) := by
  obtain ⟨w, ds, rfl, hw, hds⟩ := Yaml.exists_word cs
  have hne : w ≠ [] := by
    rintro rfl
    cases ds with
    | nil => exact h.nonempty rfl
    | cons d ds => exact h.start.1 (by rw [List.nil_append, List.head?_cons, beq_iff_eq.mp hds])
  refine ⟨w, ds, rfl, hne, fun c hc => ⟨h.ascii c (List.mem_append_left _ hc), hw c hc⟩, ?_⟩
  obtain ⟨k, es, rfl, hes⟩ := exists_run ' ' ds
  cases k with
  | zero =>
    cases es with
    | nil => exact .inl rfl
    | cons e es => exact absurd (congrArg some (beq_iff_eq.mp hds)) hes
  | succ k => exact .inr ⟨k, es, rfl, Bare.next h hes⟩

/-! ## the whole text -/

/-- The lines of a plain scalar are folded to a column below its block. -/
def FoldsBelow (indent : Int) (fold : Option Nat) : Prop := ∀ k, fold = some k → 0 < k ∧ indent ≤ k

/-- A text starts with a word that is read as such. -/
structure Word (w text : List Char) : Prop where
  nonempty : w ≠ []
  start : w.head? ≠ some '#'
  chunk : chunk false (w ++ text) = w

variable {indent : Int} {n : Nat} {w text rest more : List Char} {fresh : Bool}

theorem Word.not_end (h : Word w text) : ¬ (w.isEmpty = true ∨ (w ++ text).head? = some '#') := by
  rintro (he | he)
  · exact h.nonempty (List.isEmpty_iff.mp he)
  · rw [List.head?_append_of_ne_nil _ h.nonempty] at he
    exact h.start he

theorem body_stop (hw : Word w text) (h : Stops indent text rest fresh) :
    body false indent (n + 1) (w ++ text) = (w, rest, fresh) := by
  rw [body]
  simp only [hw.chunk, List.drop_left, if_neg hw.not_end]
  cases h with
  | colon h => rfl
  | line hbreaks hcolumn =>
    have hline : isLineEnd '\n' = true := rfl
    simp [hbreaks, hcolumn, hline]

theorem body_blanks {k : Nat} (hc : isGap c = false) (hhash : c ≠ '#')
    (hw : Word w (spaces (k + 1) ++ c :: cs))
    (hmore : body false indent n (c :: cs) = (more, rest, fresh)) (hne : more ≠ []) :
    body false indent (n + 1) (w ++ (spaces (k + 1) ++ c :: cs)) =
      (w ++ (spaces (k + 1) ++ more), rest, fresh) := by
  obtain ⟨hspace, _, hline⟩ := isGap_false_iff.mp hc
  have htake : (spaces (k + 1) ++ c :: cs).takeWhile (· == ' ') = spaces (k + 1) := by
    rw [List.takeWhile_append_of_pos fun d hd => beq_iff_eq.mpr (List.eq_of_mem_replicate hd),
      List.takeWhile_cons_of_neg (by simpa using hspace), List.append_nil]
  rw [body]
  simp only [hw.chunk, List.drop_left, if_neg hw.not_end, htake]
  simp [hline, hhash, hmore, hne, spaces_succ]

theorem body_fold {k : Nat} (hk : 0 < k) (hindent : indent ≤ k) (hc : isGap c = false)
    (hhash : c ≠ '#') (hw : Word w (newline k ++ c :: cs))
    (hmore : body false indent n (c :: cs) = (more, rest, fresh)) (hne : more ≠ []) :
    body false indent (n + 1) (w ++ (newline k ++ c :: cs)) = (w ++ ' ' :: more, rest, fresh) := by
  have hline : isLineEnd '\n' = true := rfl
  have hbreaks : breaks true 0 (spaces k ++ c :: cs) = ([], some k, c :: cs) :=
    breaks_indented k hc (by omega)
  have hjoin : joinLines '\n' [] = [' '] := rfl
  have hcolumn : ¬ (k : Int) < indent := by omega
  rw [body]
  simp only [hw.chunk, List.drop_left, if_neg hw.not_end]
  simp [newline, hline, hbreaks, hhash, hcolumn, hmore, hne, hjoin]

/-- The first word of a text that needs no quotes is read as one word. -/
theorem Bare.word {w ds : List Char} (hcs : Bare (w ++ ds)) (hne : w ≠ [])
    (hw : ∀ c ∈ w, isAsciiText c = true ∧ c ≠ ' ') (hspace : isSpaceOrEnd ds = true)
    (hends : ends false text = true) : Word w text := by
  refine ⟨hne, ?_, chunk_word (fun c hc => isGap_of_ascii (hw c hc).1 (hw c hc).2) hspace
    hcs.noMark hends⟩
  have hstart := hcs.start.2
  rwa [List.head?_append_of_ne_nil _ hne] at hstart

theorem body_wrap {fold : Option Nat} (hfold : FoldsBelow indent fold)
    (hstop : Stops indent text rest fresh) (hcs : Bare cs) (column : Nat) (before : Option Char)
    (hn : (wrap fold false column before cs ++ text).length < n) :
    body false indent n (wrap fold false column before cs ++ text) = (cs, rest, fresh) := by
  induction hlength : cs.length using Nat.strongRecOn generalizing cs column before n with
  | ind length ih =>
    obtain ⟨n, rfl⟩ : ∃ k, n = k + 1 := ⟨n - 1, by omega⟩
    obtain ⟨w, ds, rfl, hne, hw, hds⟩ := hcs.exists_word
    have hspace : isSpaceOrEnd ds = true := by
      rcases hds with rfl | ⟨k, es, rfl, _⟩ <;> rfl
    have hword {text : List Char} (hends : ends false text = true) : Word w text :=
      hcs.word hne hw hspace hends
    have hplain : ∀ c ∈ w, c ≠ ' ' ∧ c ≠ '\n' := by
      intro c hc
      refine ⟨(hw c hc).2, ?_⟩
      rintro rfl
      exact absurd (hw _ hc).1 (by decide)
    obtain ⟨column', before', hwrap⟩ := wrap_word fold column before hplain ds
    rw [hwrap, List.append_assoc] at hn ⊢
    rcases hds with rfl | ⟨k, es, rfl, hes⟩
    · exact (body_stop (hword hstop.ends) hstop).trans (by rw [List.append_nil])
    · obtain ⟨column'', g, hblanks, hg⟩ := wrap_blanks fold column' before' k es
      obtain ⟨e, es', rfl, hascii, he, hhash⟩ := hes.exists_head
      obtain ⟨xs, hxs⟩ :=
        wrap_head fold false column'' (some ' ') he (fun h => by rw [h] at hascii; cases hascii) es'
      rw [hblanks, List.append_assoc] at hn ⊢
      have hmore : body false indent n (wrap fold false column'' (some ' ') (e :: es') ++ text) =
          (e :: es', rest, fresh) := by
        refine ih _ ?_ hes column'' (some ' ') ?_ rfl
        · simp only [← hlength, List.length_append, length_spaces]
          omega
        · have hpos : 0 < w.length := List.length_pos_iff.mpr hne
          simp only [List.length_append] at hn ⊢
          omega
      have hgap : isGap e = false := isGap_of_ascii hascii he
      rw [hxs, List.cons_append] at hmore ⊢
      rcases hg with rfl | ⟨rfl, hsome, rfl⟩
      · exact body_blanks hgap hhash (hword rfl) hmore (List.cons_ne_nil e es')
      · obtain ⟨j, rfl⟩ := Option.isSome_iff_exists.mp hsome
        obtain ⟨hj, hindent⟩ := hfold j rfl
        exact body_fold hj hindent hgap hhash (hword rfl) hmore (List.cons_ne_nil e es')

end Plain

end Apidoc.Yaml
