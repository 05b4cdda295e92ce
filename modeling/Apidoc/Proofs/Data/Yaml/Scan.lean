import Apidoc.Proofs.Data.Yaml.Plain

/-!
# The steps of a scan

* `Scan.Leads`     with enough fuel a scan goes on from one state as from another;
* `token_bare`     the token of a text without quotes;
* `token_string`   the token of a string, in the quotes it is written in.
-/

namespace Apidoc.Yaml

variable {cs rest : List Char}

/-! ## cursors -/

namespace Cursor

variable {c : Cursor}

theorem skip_add (m n : Nat) (c : Cursor) : c.skip (m + n) = (c.skip m).skip n := by
  induction m generalizing c with
  | zero => rw [Nat.zero_add]; rfl
  | succ m ih =>
    rw [Nat.succ_add]
    exact ih c.next

theorem rest_next (c : Cursor) : c.next.rest = c.rest.tail := by
  unfold next
  split
  · rename_i h
    rw [h]
    rfl
  · rename_i h
    rw [h]
    split <;> rfl

theorem rest_skip (n : Nat) (c : Cursor) : (c.skip n).rest = c.rest.drop n := by
  induction n generalizing c with
  | zero => rfl
  | succ n ih => rw [skip, ih, rest_next, List.drop_tail]

theorem moveTo_eq (h : c.rest = cs ++ rest) : c.moveTo rest = c.skip cs.length := by
  rw [moveTo, h, List.length_append, Nat.add_sub_cancel]

theorem rest_moveTo (h : c.rest = cs ++ rest) : (c.moveTo rest).rest = rest := by
  rw [moveTo_eq h, rest_skip, h, List.drop_left]

theorem isLineEnd_of_ascii {x : Char} (h : isAsciiText x = true) : isLineEnd x = false := by
  by_cases hx : x = ' '
  · rw [hx]
    rfl
  · exact (isGap_false_iff.mp (isGap_of_ascii h hx)).2.2

theorem next_inline {x : Char} (h : c.rest = x :: cs) (hx : isAsciiText x = true) :
    c.next = ⟨cs, c.index + 1, c.line, c.column + 1⟩ := by
  have hmark : x ≠ '\ufeff' := by
    rintro rfl
    exact absurd hx (by decide)
  simp only [next, h, isLineEnd_of_ascii hx, Bool.false_eq_true, if_false, hmark]

theorem moveTo_inline (h : c.rest = cs ++ rest) (hcs : ∀ x ∈ cs, isAsciiText x = true) :
    c.moveTo rest = ⟨rest, c.index + cs.length, c.line, c.column + cs.length⟩ := by
  rw [moveTo_eq h]
  induction cs generalizing c with
  | nil =>
    obtain ⟨r, i, l, k⟩ := c
    rw [show rest = r from h.symm]
    rfl
  | cons x cs ih =>
    rw [List.forall_mem_cons] at hcs
    rw [List.length_cons, skip, next_inline h hcs.1, ih rfl hcs.2]
    simp only [Cursor.mk.injEq, true_and]
    omega

/-- The column after a line end and the indentation of the next line. -/
theorem column_moveTo {j : Nat} (h : c.rest = cs ++ '\n' :: (spaces j ++ rest)) :
    (c.moveTo rest).column = j := by
  have hline : (c.skip (cs.length + 1)).column = 0 := by
    have hrest := rest_skip cs.length c
    rw [h, List.drop_left] at hrest
    rw [skip_add]
    show (c.skip cs.length).next.column = 0
    simp only [next, hrest]
    rfl
  have hrest : (c.skip (cs.length + 1)).rest = spaces j ++ rest := by
    have hsplit : c.rest = (cs ++ ['\n']) ++ (spaces j ++ rest) := by simp [h]
    rw [rest_skip, hsplit, List.drop_left' (by simp)]
  have hmove := moveTo_inline hrest fun x hx => by rw [List.eq_of_mem_replicate hx]; rfl
  have hsplit : c.rest = (cs ++ '\n' :: spaces j) ++ rest := by simp [h]
  rw [moveTo_eq hrest] at hmove
  rw [moveTo_eq hsplit, List.length_append, List.length_cons, Nat.add_comm (spaces j).length 1,
    ← Nat.add_assoc, skip_add, hmove, hline]
  simp

theorem line_le_next (c : Cursor) : c.line ≤ c.next.line := by
  unfold next
  split
  · exact Nat.le_refl _
  · split
    · exact Nat.le_succ _
    · exact Nat.le_refl _

theorem line_le_skip (n : Nat) (c : Cursor) : c.line ≤ (c.skip n).line := by
  induction n generalizing c with
  | zero => exact Nat.le_refl _
  | succ n ih => exact Nat.le_trans c.line_le_next (ih c.next)

theorem line_lt_moveTo {ds : List Char} (h : c.rest = cs ++ '\n' :: (ds ++ rest)) :
    c.line < (c.moveTo rest).line := by
  have hsplit : c.rest = (cs ++ '\n' :: ds) ++ rest := by simp [h]
  have hrest := rest_skip cs.length c
  rw [h, List.drop_left] at hrest
  have hline : (c.skip cs.length).next.line = (c.skip cs.length).line + 1 := by
    simp only [next, hrest]
    rfl
  rw [moveTo_eq hsplit, List.length_append, List.length_cons, Nat.add_comm ds.length 1, skip_add,
    skip_add]
  calc c.line ≤ (c.skip cs.length).line := line_le_skip _ c
    _ < (c.skip cs.length).next.line := by omega
    _ ≤ ((c.skip cs.length).next.skip ds.length).line := line_le_skip _ _

end Cursor

/-! ## gaps between tokens -/

/-- The text is at its end or at something that is no gap. -/
def Begins (cs : List Char) : Prop :=
  ∀ c, cs.head? = some c → isAsciiText c = true ∧ c ≠ ' ' ∧ c ≠ '#'

theorem begins_cons {c : Char} (hascii : isAsciiText c = true) (hspace : c ≠ ' ') (hhash : c ≠ '#')
    (cs : List Char) : Begins (c :: cs) := by
  intro d hd
  cases hd
  exact ⟨hascii, hspace, hhash⟩

namespace Scan

variable {s t u : Scan}

theorem gap_begins (h : Begins cs) : gap false cs = (cs, false) := by
  cases cs with
  | nil => rfl
  | cons c cs =>
    obtain ⟨hascii, hspace, hhash⟩ := h c rfl
    simp [gap, Cursor.isLineEnd_of_ascii hascii, hspace, hhash]

theorem gap_blanks (k : Nat) (h : Begins cs) : gap false (spaces k ++ cs) = (cs, false) := by
  induction k with
  | zero => exact gap_begins h
  | succ k ih =>
    rw [spaces_succ, List.cons_append, gap, if_neg (by decide), if_neg (by decide), if_pos rfl, ih]

theorem gap_line (j : Nat) (h : Begins cs) : gap false ('\n' :: (spaces j ++ cs)) = (cs, true) := by
  rw [gap, if_pos (by rfl), gap_blanks j h]

theorem skipGap_eq {crossed : Bool} (hmark : s.cursor.rest.head? ≠ some '\ufeff')
    (h : gap false s.cursor.rest = (rest, crossed)) :
    s.skipGap = if crossed = true ∧
    s.depth = 0 then (s.moveTo rest).allow true else s.moveTo rest := by
  rw [skipGap, if_neg fun hs => hmark hs.2]
  simp only [h]
  rfl

theorem moveTo_self (s : Scan) : s.moveTo s.cursor.rest = s := by
  rw [Scan.moveTo, Cursor.moveTo_eq (List.nil_append _).symm]
  rfl

theorem skipGap_begins (h : Begins s.cursor.rest) : s.skipGap = s := by
  have hmark : s.cursor.rest.head? ≠ some '\ufeff' := fun he => absurd (h _ he).1 (by decide)
  rw [skipGap_eq hmark (gap_begins h), if_neg (by simp), moveTo_self]

theorem skipGap_blank (hs : s.cursor.rest = ' ' :: rest) (h : Begins rest) :
    s.skipGap = s.moveTo rest := by
  have hgap : gap false s.cursor.rest = (rest, false) := by
    rw [hs]
    exact gap_blanks 1 h
  rw [skipGap_eq (by rw [hs]; simp) hgap, if_neg (by simp)]

theorem skipGap_line {j : Nat} (hs : s.cursor.rest = '\n' :: (spaces j ++ rest)) (h : Begins rest)
    (hdepth : s.depth = 0) : s.skipGap = (s.moveTo rest).allow true := by
  have hgap : gap false s.cursor.rest = (rest, true) := by
    rw [hs]
    exact gap_line j h
  rw [skipGap_eq (by rw [hs]; simp) hgap, if_pos ⟨rfl, hdepth⟩]

/-! ## runs -/

/-- With fuel for what is left of the text, a scan goes on from `s` as from `t`. -/
def Leads (s t : Scan) : Prop :=
  ∀ n, s.cursor.rest.length < n → ∃ m, t.cursor.rest.length < m ∧ run n s = run m t

theorem Leads.trans (h : Leads s t) (h' : Leads t u) : Leads s u := by
  intro n hn
  obtain ⟨m, hm, hst⟩ := h n hn
  obtain ⟨k, hk, htu⟩ := h' m hm
  exact ⟨k, hk, hst.trans htu⟩

theorem leads_skipGap (h : s.skipGap = t) (ht : t.skipGap = t)
    (hrest : t.cursor.rest.length ≤ s.cursor.rest.length) : Leads s t := by
  intro n hn
  refine ⟨n, by omega, ?_⟩
  obtain ⟨n, rfl⟩ : ∃ k, n = k + 1 := ⟨n - 1, by omega⟩
  rw [run, run, h, ht]

theorem leads_token {c : Char} {v : Scan} (hgap : s.skipGap = t) (hexpire : t.expire = some u)
    (hunwind : u.unwind u.cursor.column = v) (hrest : v.cursor.rest = c :: cs) {w : Scan}
    (htoken : v.token c cs = some w) (hless : w.cursor.rest.length < s.cursor.rest.length) :
    Leads s w := by
  intro n hn
  obtain ⟨n, rfl⟩ : ∃ k, n = k + 1 := ⟨n - 1, by omega⟩
  refine ⟨n, by omega, ?_⟩
  rw [run]
  simp only [hgap, hexpire, Option.bind_eq_bind, Option.bind_some, hunwind, hrest, htoken]

/-! ## single tokens -/

theorem token_colon (s : Scan) (h : endsOr isGap cs = true) : s.token ':' cs = s.value := by
  simp [token, isSeparator_of_ne, h]

theorem isSeparator_of_gap (h : endsOr isGap cs = true) (x : Char) :
    isSeparator (x :: cs) = false := by
  cases cs with
  | nil => simp [isSeparator, Text.isPrefix, Text.dropWord?]
  | cons y cs =>
    have hdash : y ≠ '-' := by
      rintro rfl
      cases h
    have hpoint : y ≠ '.' := by
      rintro rfl
      cases h
    simp [isSeparator, Text.isPrefix, Text.dropWord?, Ne.symm hdash, Ne.symm hpoint]

theorem token_dash (s : Scan) (h : endsOr isGap cs = true) : s.token '-' cs = s.item := by
  simp [token, isSeparator_of_gap h, h]

theorem token_question (s : Scan) (h : endsOr isGap cs = true) : s.token '?' cs = s.key := by
  simp [token, isSeparator_of_ne, h]

theorem token_openBrace (s : Scan) (cs : List Char) :
    s.token '\x7b' cs = s.openFlow .openBrace := by
  simp [token, isSeparator_of_ne]

theorem token_closeBrace (s : Scan) (cs : List Char) :
    s.token '\x7d' cs = s.closeFlow .closeBrace := by
  simp [token, isSeparator_of_ne]

theorem token_openBracket (s : Scan) (cs : List Char) :
    s.token '[' cs = s.openFlow .openBracket := by
  simp [token, isSeparator_of_ne]

theorem token_closeBracket (s : Scan) (cs : List Char) :
    s.token ']' cs = s.closeFlow .closeBracket := by
  simp [token, isSeparator_of_ne]

theorem token_single (s : Scan) (cs : List Char) : s.token '\'' cs = s.quoted false := by
  simp [token, isSeparator_of_ne]

theorem token_double (s : Scan) (cs : List Char) : s.token '"' cs = s.quoted true := by
  simp [token, isSeparator_of_ne]

theorem isPlainStart_of {x : Char} (hgap : isGap x = false) (hx : isIndicator x = false)
    (hmark : x = '-' ∨ x = '?' ∨ x = ':' → endsOr isGap cs = false) :
    isPlainStart false (x :: cs) = true := by
  by_cases h : x = '-' ∨ x = '?' ∨ x = ':'
  · rcases h with rfl | rfl | rfl <;> simp [isPlainStart, hmark]
  · have hmem : "-?:,[]\x7b\x7d#&*!|>'\"%@`".toList.contains x = false := by
      have hlist : "-?:,[]\x7b\x7d#&*!|>'\"%@`".toList ⊆ ['-', '?', ':'] ++
          "#,[]\x7b\x7d&*!|>'\"%@`".toList := by
        decide
      rw [isIndicator, Bool.eq_false_iff, Ne, List.contains_iff_mem] at hx
      rw [Bool.eq_false_iff, Ne, List.contains_iff_mem]
      intro hx'
      rcases List.mem_append.mp (hlist hx') with hx' | hx'
      · exact h (by simpa using hx')
      · exact hx hx'
    rw [isPlainStart, hgap, hmem]
    rfl

theorem token_plain {x : Char} (hdepth : s.depth = 0) (hgap : isGap x = false)
    (hx : isIndicator x = false) (hmark : x = '-' ∨ x = '?' ∨ x = ':' → endsOr isGap cs = false)
    (hseparator : s.cursor.column = 0 → isSeparator (x :: cs) = false) :
    s.token x cs = s.plain := by
  have hne (y : Char) (hy : isIndicator y = true) : x ≠ y := by
    rintro rfl
    rw [hx] at hy
    cases hy
  have hpart : ¬ ((s.cursor.column == 0) = true ∧ isSeparator (x :: cs) = true) := by
    rintro ⟨h0, hs⟩
    rw [hseparator (beq_iff_eq.mp h0)] at hs
    cases hs
  have hdash : ¬ (x = '-' ∧ endsOr isGap cs = true) := by
    rintro ⟨h, hends⟩
    rw [hmark (.inl h)] at hends
    cases hends
  have hask : ¬ (x = '?' ∧ endsOr isGap cs = true) := by
    rintro ⟨h, hends⟩
    rw [hmark (.inr (.inl h))] at hends
    cases hends
  have hcolon : ¬ (x = ':' ∧ endsOr isGap cs = true) := by
    rintro ⟨h, hends⟩
    rw [hmark (.inr (.inr h))] at hends
    cases hends
  have hstart := isPlainStart_of hgap hx hmark
  unfold token
  rw [if_neg fun h => hne '%' rfl h.1, if_neg hpart]
  simp [hdepth, hne '[' rfl, hne '\x7b' rfl, hne ']' rfl, hne '\x7d' rfl, hne ',' rfl, hdash, hask,
    hcolon, hne '*' rfl, hne '&' rfl, hne '!' rfl, hne '|' rfl, hne '>' rfl, hne '\'' rfl,
    hne '"' rfl, hstart]

end Scan

/-! ## scalars -/

open Plain (Bare Stops FoldsBelow)
open Quoted (FoldsInside Breakable)

theorem bare_of_isPlain (h : isPlain cs = true) :
    Bare cs ∧ startsStructure cs = false ∧ Tag.ofPlain cs = .str := by
  simp only [isPlain, Bool.and_eq_true, Bool.not_eq_true', bne_iff_ne, beq_iff_eq,
    List.all_eq_true] at h
  obtain ⟨⟨⟨⟨⟨⟨hne, htag⟩, hascii⟩, hspace⟩, hlast⟩, hstart⟩, hmark⟩ := h
  refine ⟨⟨fun e => ?_, hascii, ⟨hspace, fun e => ?_⟩, hlast, hmark⟩, hstart, htag⟩
  · rw [e] at hne
    cases hne
  · cases cs with
    | nil => cases e
    | cons c cs =>
      obtain rfl : c = '#' := Option.some.inj e
      simp [startsStructure, isIndicator] at hstart

theorem of_startsStructure {x : Char} (h : startsStructure (x :: cs) = false) :
    isIndicator x = false ∧ (x = '?' ∨ x = '-' → isSpaceOrEnd cs = false) := by
  simp only [startsStructure, Bool.or_eq_false_iff] at h
  refine ⟨h.2.1, fun hx => ?_⟩
  rcases hx with rfl | rfl
  · exact h.2.2
  · exact h.2.2

section

variable {s : Scan} {fold : Option Nat} {column : Nat} {text : List Char} {fresh : Bool}

/-- A text that starts no structure is not followed by a gap where that would start one. -/
theorem endsOr_wrap {x : Char} {ys : List Char} (hcs : Bare (x :: ys))
    (hstart : startsStructure (x :: ys) = false) (hx : x = '-' ∨ x = '?' ∨ x = ':') {xs : List Char}
    (hxs : wrap fold false column none (x :: ys) ++ text = x :: xs) : endsOr isGap xs = false := by
  have hnext : isSpaceOrEnd ys = false := by
    rcases hx with rfl | rfl | rfl
    · exact (of_startsStructure hstart).2 (.inr rfl)
    · exact (of_startsStructure hstart).2 (.inl rfl)
    · have hmark := hcs.noMark
      rw [hasMark, Bool.or_eq_false_iff, Bool.or_eq_false_iff] at hmark
      simpa using hmark.1.1
  cases ys with
  | nil => cases hnext
  | cons y ys =>
    have hy : y ≠ ' ' := by simpa [isSpaceOrEnd] using hnext
    have hascii : isAsciiText y = true := hcs.ascii y (by simp)
    have hline {z : Char} (hz : isAsciiText z = true) : z ≠ '\n' := by
      rintro rfl
      exact absurd hz (by decide)
    have hx' : x ≠ ' ' := by rcases hx with rfl | rfl | rfl <;> decide
    rw [wrap_char fold false column none hx' (hline (hcs.ascii x (by simp))), if_neg (by simp),
      wrap_char fold false (column + 1) (some x) hy (hline hascii), if_neg (by simp)] at hxs
    rw [← (List.cons.inj hxs).2]
    exact isGap_of_ascii hascii hy

theorem token_bare (hdepth : s.depth = 0)
    (hrest : s.cursor.rest = wrap fold false column none cs ++ text)
    (hbelow : FoldsBelow (s.indent + 1) fold) (hstop : Stops (s.indent + 1) text rest fresh)
    (hcs : Bare cs) (hstart : startsStructure cs = false)
    (hseparator : s.cursor.column = 0 → isSeparator s.cursor.rest = false) :
    ∃ x xs, s.cursor.rest = x :: xs ∧ Begins (x :: xs) ∧
      s.token x xs = s.content (.scalar cs true) rest fresh := by
  obtain ⟨x, ys, rfl, hascii, hspace, hhash⟩ := hcs.exists_head
  obtain ⟨zs, hzs⟩ :=
    wrap_head fold false column none hspace (fun e => by rw [e] at hascii; cases hascii) ys
  have hxs : s.cursor.rest = x :: (zs ++ text) := by rw [hrest, hzs]; rfl
  have hindicator : isIndicator x = false := (of_startsStructure hstart).1
  have hbody : s.plain = s.content (.scalar (x :: ys) true) rest fresh := by
    have hplain := Plain.body_wrap hbelow hstop hcs column none (Nat.lt_succ_self _)
    rw [← hrest] at hplain
    simp only [Scan.plain, hdepth, bne_self_eq_false, hplain]
  refine ⟨x, zs ++ text, hxs, begins_cons hascii hspace hhash _, ?_⟩
  rw [hxs] at hseparator
  rw [Scan.token_plain hdepth (isGap_of_ascii hascii hspace) hindicator
    (fun hx => endsOr_wrap hcs hstart hx (hrest.symm.trans hxs)) hseparator, hbody]

theorem token_quoted (double : Bool) {q : Char} {body : List Char}
    (hq : q = if double then '"' else '\'') (hrest : s.cursor.rest = q :: (body ++ q :: text))
    (hreads : Quoted.Reads double (body ++ q :: text) (Text.points cs) text) :
    ∃ x xs, s.cursor.rest = x :: xs ∧ Begins (x :: xs) ∧
    s.token x xs = s.content (.scalar cs false) text false := by
  have hquoted : s.quoted double = s.content (.scalar cs false) text false := by
    simp only [Scan.quoted, hrest, List.drop_succ_cons, List.drop_zero,
      hreads _ (Nat.lt_succ_self _), Text.ofPoints_points, Option.bind_eq_bind, Option.bind_some]
  refine ⟨q, body ++ q :: text, hrest, ?_, ?_⟩
  · cases double <;> subst hq <;> exact begins_cons rfl (by decide) (by decide) _
  · rw [← hquoted]
    cases double with
    | false => subst hq; exact Scan.token_single s _
    | true => subst hq; exact Scan.token_double s _

theorem token_string (hdepth : s.depth = 0)
    (hrest : s.cursor.rest = stringText fold column cs ++ text) (hinside : FoldsInside fold)
    (hbelow : FoldsBelow (s.indent + 1) fold) (hbreak : Breakable fold cs)
    (hstop : Stops (s.indent + 1) text rest fresh)
    (hseparator : s.cursor.column = 0 → isSeparator s.cursor.rest = false) :
    ∃ x xs, s.cursor.rest = x :: xs ∧ Begins (x :: xs) ∧ s.token x xs =
      if isPlain cs then s.content (.scalar cs true) rest fresh else s.content
        (.scalar cs false) text false := by
  by_cases hplain : isPlain cs = true
  · obtain ⟨hbare, hstart, _⟩ := bare_of_isPlain hplain
    rw [stringText, if_pos hplain] at hrest
    rw [if_pos hplain]
    exact token_bare hdepth hrest hbelow hstop hbare hstart hseparator
  rw [stringText, if_neg hplain] at hrest
  rw [if_neg hplain]
  by_cases hsingle : isSingle cs = true
  · rw [if_pos hsingle] at hrest
    simp only [isSingle, Bool.and_eq_true, Bool.not_eq_true', List.all_eq_true, Bool.or_eq_true,
      beq_iff_eq]
      at hsingle
    refine token_quoted false rfl (by simpa using hrest) ?_
    have htight : Quoted.Tight none cs := Quoted.tight_of_contains hsingle.1.2 hsingle.2 nofun nofun
    exact Quoted.reads_single hstop.no_quote cs hbreak hsingle.1.1 htight nofun 0 (column + 1) nofun
  · rw [if_neg hsingle] at hrest
    refine token_quoted true rfl (by simpa using hrest) ?_
    exact Quoted.reads_double hinside text cs 0 (column + 1) true false

end

end Apidoc.Yaml
