import Apidoc.Text.Lines
import Apidoc.Text.Split
import Mathlib.Data.List.Infix
import Mathlib.Data.List.TakeWhile

/-!
# Words in texts

* `Text.contains_iff`          what is found in a text stands in it;
* `Text.cutAt_eq_some`         a text is cut where the word stands;
* `Text.cutAt_of_first`        and where it stands first;
* `Text.infix_unifyNewlines`   a word on one line is found whatever the line ends are;
* `Text.exists_trim`           what is trimmed off a text are blanks;
* `Text.trim_around`           nothing is trimmed off inside of what is no blank;
* `Text.splitOn_intercalate`   texts with a separator between them come apart into their pieces.
-/

namespace Apidoc.Text

theorem dropWord?_isSome {word cs : List Char} :
    (dropWord? word cs).isSome = true ↔ word <+: cs := by
  induction word generalizing cs with
  | nil => simp [dropWord?]
  | cons w word ih =>
    cases cs with
    | nil => simp [dropWord?]
    | cons c cs =>
      rw [dropWord?, List.cons_prefix_cons]
      split
      · next h => simp [ih, h]
      · next h => simp [h]

theorem dropWord?_eq_some {word cs rest : List Char} (h : dropWord? word cs = some rest) :
    cs = word ++ rest := by
  induction word generalizing cs with
  | nil => exact Option.some.inj h
  | cons w word ih =>
    cases cs with
    | nil => cases h
    | cons c cs =>
      rw [dropWord?] at h
      split at h
      · next hw => rw [ih h, hw, List.cons_append]
      · cases h

theorem contains_iff {word cs : List Char} : contains word cs = true ↔ word <:+: cs := by
  induction cs with
  | nil => rw [contains, cutAt, Option.isSome_map, dropWord?_isSome, List.prefix_nil,
      List.infix_nil]
  | cons c cs ih =>
    rw [List.infix_cons_iff, ← dropWord?_isSome, ← ih, contains, contains, cutAt]
    split
    · next h => simp [h]
    · next h => simp [h]

theorem cutAt_eq_none {word cs : List Char} : cutAt word cs = none ↔ ¬ word <:+: cs := by
  rw [← contains_iff, contains, Option.not_isSome_iff_eq_none]

theorem cutAt_eq_some {word cs before rest : List Char} (h : cutAt word cs = some (before, rest)) :
    cs = before ++ word ++ rest := by
  induction cs generalizing before with
  | nil =>
    obtain ⟨r, hr, he⟩ := Option.map_eq_some_iff.mp h
    cases he
    exact dropWord?_eq_some hr
  | cons c cs ih =>
    rw [cutAt] at h
    split at h
    · next r hr =>
      cases h
      exact dropWord?_eq_some hr
    · obtain ⟨⟨before', rest'⟩, hcut, he⟩ := Option.map_eq_some_iff.mp h
      cases he
      rw [ih hcut, List.cons_append, List.cons_append]

theorem dropWord?_append (word rest : List Char) : dropWord? word (word ++ rest) = some rest := by
  induction word with
  | nil => rfl
  | cons w word ih => rw [List.cons_append, dropWord?, if_pos rfl, ih]

theorem cutAt_of_first {word before : List Char} (h : ¬ word <:+: before ++ word.dropLast)
    (rest : List Char) : cutAt word (before ++ word ++ rest) = some (before, rest) := by
  have hne : word ≠ [] := by
    rintro rfl
    exact h (List.nil_infix)
  induction before with
  | nil =>
    obtain ⟨w, ws, rfl⟩ := List.exists_cons_of_ne_nil hne
    rw [List.nil_append, List.cons_append, cutAt, ← List.cons_append, dropWord?_append]
  | cons c before ih =>
    have hlate : dropWord? word (c :: (before ++ word ++ rest)) = none := by
      rw [← Option.not_isSome_iff_eq_none, dropWord?_isSome]
      intro hstart
      have hshort : c :: before ++ word.dropLast <+: c :: (before ++ word ++ rest) := by
        rw [← List.cons_append, ← List.cons_append, List.append_assoc, List.prefix_append_right_inj]
        exact (List.dropLast_prefix word).trans (List.prefix_append word rest)
      have hlength : word.length ≤ (c :: before ++ word.dropLast).length := by
        rw [List.length_append, List.length_cons, List.length_dropLast]
        omega
      exact h (List.prefix_of_prefix_length_le hstart hshort hlength).isInfix
    rw [List.cons_append, List.cons_append, cutAt, hlate,
      ih fun hinside => h (hinside.trans (List.suffix_cons c _).isInfix)]
    rfl

/-- A word does not end where its last character is not. -/
theorem isInfix_of_last {word p q : List Char} {c : Char} (h : word ++ [c] <:+: p ++ q)
    (hc : c ∉ q) : word ++ [c] <:+: p := by
  obtain ⟨s, t, hst⟩ := h
  rcases List.append_eq_append_iff.mp hst with ⟨u, rfl, -⟩ | ⟨u, hu, rfl⟩
  · exact ⟨s, u, rfl⟩
  · rcases u.eq_nil_or_concat with rfl | ⟨v, d, rfl⟩
    · rw [List.append_nil] at hu
      exact ⟨s, [], by rw [hu, List.append_nil]⟩
    · rw [List.concat_eq_append, ← List.append_assoc, ← List.append_assoc] at hu
      obtain ⟨-, hd⟩ := List.append_inj' hu rfl
      cases hd
      exact absurd (by simp) hc

theorem isInfix_or_of_not_mem {word p q : List Char} {c : Char} (h : word <:+: p ++ c :: q)
    (hc : c ∉ word) : word <:+: p ∨ word <:+: q := by
  obtain ⟨s, t, hst⟩ := h
  rcases List.append_eq_append_iff.mp hst with ⟨u, rfl, -⟩ | ⟨u, hu, hq⟩
  · exact .inl ⟨s, u, rfl⟩
  · cases u with
    | nil => exact .inl ⟨s, [], by rw [hu, List.append_nil, List.append_nil]⟩
    | cons d u =>
      rw [List.cons_append] at hq
      obtain ⟨rfl, rfl⟩ := List.cons.inj hq
      rcases List.append_eq_append_iff.mp hu with ⟨v, -, rfl⟩ | ⟨v, -, hv⟩
      · exact absurd (by simp) hc
      · cases v with
        | nil =>
          rw [List.nil_append] at hv
          exact absurd (hv ▸ List.mem_cons_self) hc
        | cons e v =>
          rw [List.cons_append] at hv
          exact .inr ⟨v, t, by rw [(List.cons.inj hv).2]⟩

theorem not_starts {word : List Char} (hne : word ≠ []) {c : Char} (hc : c ∉ word)
    (cs : List Char) : ¬ word <+: c :: cs := by
  cases word with
  | nil => exact absurd rfl hne
  | cons w word =>
    rw [List.cons_prefix_cons]
    exact fun h => hc (h.1 ▸ List.mem_cons_self)

/-- A word on one line is not touched when line ends are made alike. -/
theorem prefix_unifyNewlines {word : List Char} (hfeed : '\n' ∉ word) (hreturn : '\r' ∉ word)
    (cs : List Char) : word <+: unifyNewlines cs ↔ word <+: cs := by
  fun_induction unifyNewlines cs generalizing word with
  | case1 => rfl
  | case2 cs ih =>
    by_cases hne : word = []
    · simp [hne]
    · exact iff_of_false (not_starts hne hfeed _) (not_starts hne hreturn _)
  | case3 cs hcs ih =>
    by_cases hne : word = []
    · simp [hne]
    · exact iff_of_false (not_starts hne hfeed _) (not_starts hne hreturn _)
  | case4 c cs hpair hc ih =>
    cases word with
    | nil => simp
    | cons w word =>
      rw [List.mem_cons, not_or] at hfeed hreturn
      rw [List.cons_prefix_cons, List.cons_prefix_cons, ih hfeed.2 hreturn.2]

theorem infix_unifyNewlines {word : List Char} (hne : word ≠ []) (hfeed : '\n' ∉ word)
    (hreturn : '\r' ∉ word) (cs : List Char) : word <:+: unifyNewlines cs ↔ word <:+: cs := by
  fun_induction unifyNewlines cs with
  | case1 => rfl
  | case2 cs ih =>
    rw [List.infix_cons_iff, List.infix_cons_iff, List.infix_cons_iff, ih]
    simp [not_starts hne hfeed, not_starts hne hreturn]
  | case3 cs hcs ih =>
    rw [List.infix_cons_iff, List.infix_cons_iff, ih]
    simp [not_starts hne hfeed, not_starts hne hreturn]
  | case4 c cs hpair hc ih =>
    have hsame := prefix_unifyNewlines hfeed hreturn (c :: cs)
    rw [unifyNewlines.eq_4 _ _ hpair hc] at hsame
    rw [List.infix_cons_iff, List.infix_cons_iff, ih, hsame]

theorem trimEnd_isPrefix (cs : List Char) : trimEnd cs <+: cs := by
  have h := List.reverse_prefix.mpr (List.dropWhile_suffix isBlank (l := cs.reverse))
  rwa [List.reverse_reverse] at h

/-- A text is its trimmed form between blanks. -/
theorem exists_trim (cs : List Char) :
    ∃ before after, cs = before ++ trim cs ++ after ∧ ∀ c ∈ before, isBlank c = true := by
  have hstart : cs = cs.takeWhile isBlank ++ trimStart cs := List.takeWhile_append_dropWhile.symm
  obtain ⟨after, hend⟩ := trimEnd_isPrefix (trimStart cs)
  refine ⟨cs.takeWhile isBlank, after, ?_, fun c hc => List.mem_takeWhile_imp hc⟩
  rw [List.append_assoc, trim, hend, ← hstart]

theorem trimStart_append {c : Char} (hc : isBlank c = false) (p q : List Char) :
    trimStart (p ++ c :: q) = trimStart p ++ c :: q := by
  induction p with
  | nil => rw [List.nil_append, trimStart, List.dropWhile_cons_of_neg
      (by rw [hc]; exact Bool.false_ne_true)]; rfl
  | cons d p ih =>
    rw [List.cons_append, trimStart, trimStart, List.dropWhile_cons, List.dropWhile_cons]
    split
    · exact ih
    · rfl

theorem trimEnd_append {c : Char} (hc : isBlank c = false) (p q : List Char) :
    trimEnd (p ++ c :: q) = p ++ c :: trimEnd q := by
  have hreverse : (p ++ c :: q).reverse = q.reverse ++ c :: p.reverse := by simp
  have hstart := trimStart_append hc q.reverse p.reverse
  rw [trimStart, trimStart] at hstart
  rw [trimEnd, trimEnd, dropWhileEnd, dropWhileEnd, hreverse, hstart]
  simp

theorem trim_around {c e : Char} (hc : isBlank c = false) (he : isBlank e = false)
    (p m q : List Char) :
    trim (p ++ (c :: m ++ [e]) ++ q) = trimStart p ++ (c :: m ++ [e]) ++ trimEnd q := by
  have hstart := trimStart_append hc p (m ++ [e] ++ q)
  have hend := trimEnd_append he (trimStart p ++ c :: m) q
  simp only [List.append_assoc, List.cons_append, List.nil_append] at hstart hend ⊢
  rw [trim, hstart, hend]

theorem trim_isInfix (cs : List Char) : trim cs <:+: cs := by
  obtain ⟨before, after, h, -⟩ := exists_trim cs
  exact ⟨before, after, h.symm⟩

/-- A word does not start where its first character is not. -/
theorem isInfix_of_first {word p q : List Char} {c : Char} (h : c :: word <:+: p ++ q)
    (hc : c ∉ p) : c :: word <:+: q := by
  induction p with
  | nil => exact h
  | cons x p ih =>
    rw [List.mem_cons, not_or] at hc
    rw [List.cons_append, List.infix_cons_iff, List.cons_prefix_cons] at h
    exact ih (h.resolve_left fun hstart => hc.1 hstart.1) hc.2

/-! ## pieces -/

section

variable {sep : Char} {cs : List Char}

theorem splitOn_ne_nil (sep : Char) (cs : List Char) : splitOn sep cs ≠ [] := by
  cases cs with
  | nil => exact List.cons_ne_nil _ _
  | cons c cs =>
    rw [splitOn]
    split
    · exact List.cons_ne_nil _ _
    · split <;> exact List.cons_ne_nil _ _

theorem splitOn_of_not_mem (h : sep ∉ cs) : splitOn sep cs = [cs] := by
  induction cs with
  | nil => rfl
  | cons c cs ih =>
    rw [List.mem_cons, not_or] at h
    rw [splitOn, if_neg (Ne.symm h.1), ih h.2]

theorem splitOn_append (sep : Char) (xs ys : List Char) :
    splitOn sep (xs ++ sep :: ys) = splitOn sep xs ++ splitOn sep ys := by
  induction xs with
  | nil => exact if_pos rfl
  | cons c xs ih =>
    rw [List.cons_append, splitOn, splitOn, ih]
    split
    · rfl
    · obtain ⟨w, ws, hws⟩ := List.exists_cons_of_ne_nil (splitOn_ne_nil sep xs)
      rw [hws, List.cons_append]
      rfl

theorem splitOn_intercalate (sep : Char) (p : List Char) (ps : List (List Char)) :
    splitOn sep ([sep].intercalate (p :: ps)) = (p :: ps).flatMap (splitOn sep) := by
  induction ps generalizing p with
  | nil => rw [List.intercalate_singleton, List.flatMap_singleton]
  | cons q ps ih =>
    rw [List.intercalate_cons_cons, List.append_assoc, List.singleton_append, splitOn_append, ih]
    rfl

/-- The first piece starts the text, and the others stand after a separator. -/
theorem splitOn_cases {w : List Char} {ws : List (List Char)} (h : splitOn sep cs = w :: ws) :
    w <+: cs ∧ ∀ l ∈ ws, sep :: l <:+: cs := by
  induction cs generalizing w ws with
  | nil =>
    cases h
    exact ⟨List.nil_prefix, fun l hl => nomatch hl⟩
  | cons c cs ih =>
    obtain ⟨v, vs, hvs⟩ := List.exists_cons_of_ne_nil (splitOn_ne_nil sep cs)
    obtain ⟨hv, hafter⟩ := ih hvs
    rw [splitOn, hvs] at h
    split at h
    · rename_i hc
      cases h
      refine ⟨List.nil_prefix, List.forall_mem_cons.mpr ⟨?_, fun l hl => (hafter l hl).trans ?_⟩⟩
      · exact (List.cons_prefix_cons.mpr ⟨hc.symm, hv⟩).isInfix
      · exact (List.suffix_cons c cs).isInfix
    · cases h
      exact ⟨List.cons_prefix_cons.mpr ⟨rfl, hv⟩, fun l hl => (hafter l hl).trans
        (List.suffix_cons c cs).isInfix⟩

/-- A piece starts with a word only where the text does, or where the word stands after a separator.
-/
theorem starts_of_mem_splitOn {word l : List Char} (h : l ∈ splitOn sep cs) (hword : word <+: l) :
    word <+: cs ∨ sep :: word <:+: cs := by
  obtain ⟨w, ws, hws⟩ := List.exists_cons_of_ne_nil (splitOn_ne_nil sep cs)
  obtain ⟨hw, hafter⟩ := splitOn_cases hws
  rw [hws, List.mem_cons] at h
  rcases h with rfl | h
  · exact .inl (hword.trans hw)
  · exact .inr ((List.cons_prefix_cons.mpr ⟨rfl, hword⟩).isInfix.trans (hafter l h))

end

end Apidoc.Text
