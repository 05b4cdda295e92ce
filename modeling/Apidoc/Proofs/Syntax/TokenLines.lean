import Apidoc.Proofs.Text.Normal
import Apidoc.Syntax.Lexer
import Mathlib.Order.Nat

/-!
# Lines of tokens

The lexer gives tokens in the order of their lines.  Tokens of one line may share it, but nothing
that follows the end of a line stands on that line again.  A name is made of letters, so that no
hyphen is in it.

* `Token.Passed`   a line that may still be read when the token has been;
* `lex_ordered`    every token of a text passes to the lines of all that follow it;
* `lex_counted`    lines count from one;
* `lex_named`      names hold no hyphen.
-/

namespace Apidoc.Syntax

/-- After the token comes no earlier line, and after the end of a line only a later one. -/
def Token.Passed (t : Token) (line : Nat) : Prop :=
  t.line ≤ line ∧ (t.lexeme = .newline → t.line < line)

theorem Token.Passed.mono {t : Token} {m n : Nat} (h : t.Passed m) (hmn : m ≤ n) : t.Passed n :=
  ⟨h.1.trans hmn, fun hl => (h.2 hl).trans_le hmn⟩

theorem Token.passed_line {t : Token} (h : t.lexeme ≠ .newline) : t.Passed t.line :=
  ⟨Nat.le_refl _, fun hl => absurd hl h⟩

/-- A name holds no hyphen. -/
def Lexeme.Named : Lexeme → Prop
  | .name id => '-' ∉ id.toList
  | _ => True

/-- The tokens read before a line, latest first. -/
structure Laid (line : Nat) (tokens : List Token) : Prop where
  start : 1 ≤ line
  ordered : tokens.Pairwise fun later earlier => earlier.Passed later.line
  passed : ∀ t ∈ tokens, t.Passed line
  counted : ∀ t ∈ tokens, 1 ≤ t.line
  named : ∀ t ∈ tokens, t.lexeme.Named

namespace Laid

theorem nil {line : Nat} (h : 1 ≤ line) : Laid line [] :=
  ⟨h, .nil, nofun, nofun, nofun⟩

theorem mono {m n : Nat} {tokens : List Token} (h : Laid m tokens) (hmn : m ≤ n) : Laid n tokens :=
  ⟨h.start.trans hmn, h.ordered, fun t ht => (h.passed t ht).mono hmn, h.counted, h.named⟩

theorem cons {m n : Nat} {t : Token} {tokens : List Token} (h : Laid m tokens) (hm : m ≤ t.line)
    (hn : t.Passed n) (ht : t.lexeme.Named) : Laid n (t :: tokens) where
  start := h.start.trans (hm.trans hn.1)
  ordered := List.pairwise_cons.2 ⟨fun u hu => (h.passed u hu).mono hm, h.ordered⟩
  passed u hu := by
    rcases List.mem_cons.1 hu with rfl | hu
    · exact hn
    · exact (h.passed u hu).mono (hm.trans hn.1)
  counted u hu := by
    rcases List.mem_cons.1 hu with rfl | hu
    · exact h.start.trans hm
    · exact h.counted u hu
  named := List.forall_mem_cons.2 ⟨ht, h.named⟩

/-- Marks of line structure other than line ends may follow each other on one line. -/
theorem append {line : Nat} {marks tokens : List Token} (h : Laid line tokens)
    (hm : ∀ t ∈ marks, t.line = line ∧ t.lexeme ≠ .newline ∧ t.lexeme.Named) :
    Laid line (marks ++ tokens) := by
  induction marks with
  | nil => exact h
  | cons t marks ih =>
    obtain ⟨hline, hlex, hnamed⟩ := hm t List.mem_cons_self
    have hrest := ih fun u hu => hm u (List.mem_cons_of_mem _ hu)
    exact hrest.cons hline.ge (hline ▸ Token.passed_line hlex) hnamed

end Laid

/-! ## one step of the lexer -/

theorem Place.line_le_move (p : Place) (taken rest : List Char) :
    p.line ≤ (p.move taken rest).line :=
  Nat.le_add_right _ _

theorem hyphen_not_mem_of_isIdentifier {cs : List Char} (h : Text.isIdentifier cs = true) :
    '-' ∉ cs := by
  cases cs with
  | nil => cases h
  | cons c cs =>
    rw [Text.isIdentifier, Bool.and_eq_true, List.all_eq_true] at h
    intro hmem
    rcases List.mem_cons.1 hmem with rfl | hmem
    · exact absurd h.1 (by decide)
    · exact absurd (h.2 _ hmem) (by decide)

theorem wordLexeme_named {cs : List Char} {l : Lexeme} (h : wordLexeme cs = some l) :
    l ≠ .newline ∧ l.Named := by
  unfold wordLexeme at h
  split at h
  · cases h
    exact ⟨nofun, trivial⟩
  · split at h
    · next hcs =>
      cases h
      refine ⟨nofun, Text.Normal.hyphen_not_mem_normalize ?_⟩
      rw [String.toList_ofList]
      exact hyphen_not_mem_of_isIdentifier hcs
    · cases h

theorem scanLexeme_named {cs : List Char} {s : Scan Lexeme} (h : scanLexeme cs = some s) :
    s.value ≠ .newline ∧ s.value.Named := by
  unfold scanLexeme at h
  split at h
  · obtain ⟨q, -, rfl⟩ := Option.map_eq_some_iff.1 h
    exact ⟨nofun, trivial⟩
  · split at h
    · cases h
    · split at h
      · obtain ⟨l, hl, rfl⟩ := Option.map_eq_some_iff.1 h
        exact wordLexeme_named hl
      · split at h <;> obtain ⟨q, -, rfl⟩ := Option.map_eq_some_iff.1 h <;> exact ⟨nofun, trivial⟩

theorem openBlocks_marks {blocks kept : List (Nat × Nat)} {column single : Nat}
    {marks : List Lexeme} (h : openBlocks blocks column single = some (kept, marks)) :
    ∀ l ∈ marks, l ≠ .newline ∧ l.Named := by
  unfold openBlocks at h
  dsimp only at h
  split at h
  · split at h <;> cases h
    exact nofun
  · split at h
    · split at h <;> cases h
      exact List.forall_mem_singleton.2 ⟨nofun, trivial⟩
    · split at h <;> cases h
      exact List.forall_mem_map.2 fun _ _ => ⟨nofun, trivial⟩

theorem startLine_lines {p p' : Place} {ts : List Token} {skipped : Bool}
    (h : startLine p = some (p', ts, skipped)) :
    p.line ≤ p'.line ∧ ∀ t ∈ ts, t.line = p'.line ∧ t.lexeme ≠ .newline ∧ t.lexeme.Named := by
  unfold startLine at h
  obtain ⟨⟨m, rest⟩, -, h⟩ := Option.bind_eq_some_iff.1 h
  dsimp only at h
  split at h
  · cases h
    exact ⟨(p.line_le_move _ _).trans (Place.line_le_move _ _ _), nofun⟩
  · cases h
    exact ⟨(p.line_le_move _ _).trans (Place.line_le_move _ _ _), nofun⟩
  · split at h
    · obtain ⟨⟨blocks, marks⟩, hb, h⟩ := Option.bind_eq_some_iff.1 h
      cases h
      refine ⟨p.line_le_move m.taken rest, fun t ht => ?_⟩
      obtain ⟨l, hl, rfl⟩ := List.mem_map.1 ht
      exact ⟨rfl, openBlocks_marks hb l hl⟩
    · cases h
      exact ⟨p.line_le_move _ _, nofun⟩

/-- A token taken inside a line stands on the line, and only a line end leaves it behind at once. -/
theorem stepLine_lines {p p' : Place} {o : Option Token} {fresh : Bool}
    (h : stepLine p = some (p', o, fresh)) :
    p.line ≤ p'.line ∧ ∀ t ∈ o, t.line = p.line ∧ t.Passed p'.line ∧ t.lexeme.Named := by
  unfold stepLine at h
  split at h
  · cases h
  · split at h
    · cases h
      exact ⟨p.line_le_move _ _, nofun⟩
    · split at h
      · cases h
        exact ⟨p.line_le_move _ _, nofun⟩
      · split at h
        · next c cs _ _ _ hc =>
          -- inside brackets the end of a line gives no token, but it is passed all the same
          cases h
          subst hc
          refine ⟨p.line_le_move _ _, fun t ht => ?_⟩
          split at ht <;> cases ht
          exact ⟨rfl, ⟨Nat.le_add_right _ _, fun _ => Nat.lt_succ_self _⟩, trivial⟩
        · split at h
          · split at h <;> cases h
            exact ⟨p.line_le_move _ _, nofun⟩
          · obtain ⟨s, hs, h⟩ := Option.bind_eq_some_iff.1 h
            obtain ⟨brackets, -, h⟩ := Option.bind_eq_some_iff.1 h
            cases h
            have hle := p.line_le_move s.taken s.rest
            refine ⟨hle, fun t ht => ?_⟩
            cases ht
            obtain ⟨hlex, hnamed⟩ := scanLexeme_named hs
            exact ⟨rfl, ⟨hle, fun hn => absurd hn hlex⟩, hnamed⟩

/-! ## the whole text -/

theorem lexFrom_laid {fuel : Nat} {fresh : Bool} {p : Place} {tokens ts : List Token}
    (h : lexFrom fuel fresh p tokens = some ts) (hp : Laid p.line tokens) :
    ∃ line, Laid line ts.reverse := by
  induction fuel generalizing fresh p tokens with
  | zero => cases h
  | succ fuel ih =>
    rw [lexFrom] at h
    split at h
    · split at h <;> cases h
      -- at the end of the text only marks are added, all of them on the last line
      refine ⟨p.line, ?_⟩
      rw [List.reverse_reverse]
      show Laid p.line ((p.token .stop 0 :: p.blocks.map fun _ => p.token .dedent 0) ++ tokens)
      refine hp.append fun t ht => ?_
      rcases List.mem_cons.1 ht with rfl | ht
      · exact ⟨rfl, nofun, trivial⟩
      · obtain ⟨b, -, rfl⟩ := List.mem_map.1 ht
        exact ⟨rfl, nofun, trivial⟩
    · split at h
      · split at h
        · cases h
        · next p' ts' skipped hs =>
          obtain ⟨hle, hts⟩ := startLine_lines hs
          exact ih h ((hp.mono hle).append fun t ht => hts t (List.mem_reverse.1 ht))
      · split at h
        · cases h
        · next p' o fresh' hs =>
          obtain ⟨hle, ho⟩ := stepLine_lines hs
          cases o with
          | none => exact ih h (hp.mono hle)
          | some t =>
            obtain ⟨hline, hpassed, hnamed⟩ := ho t rfl
            exact ih h (hp.cons hline.ge hpassed hnamed)

theorem lex_laid {text : List Char} {ts : List Token} (h : lex text = some ts) :
    ∃ line, Laid line ts.reverse := by
  unfold lex at h
  split at h
  · cases h
  · exact lexFrom_laid h (.nil (Nat.le_refl 1))

theorem lex_ordered {text : List Char} {ts : List Token} (h : lex text = some ts) :
    ts.Pairwise fun earlier later => earlier.Passed later.line := by
  obtain ⟨line, hl⟩ := lex_laid h
  exact List.pairwise_reverse.1 hl.ordered

theorem lex_counted {text : List Char} {ts : List Token} (h : lex text = some ts) :
    ∀ t ∈ ts, 1 ≤ t.line := by
  obtain ⟨line, hl⟩ := lex_laid h
  exact fun t ht => hl.counted t (List.mem_reverse.2 ht)

theorem lex_named {text : List Char} {ts : List Token} (h : lex text = some ts) :
    ∀ t ∈ ts, t.lexeme.Named := by
  obtain ⟨line, hl⟩ := lex_laid h
  exact fun t ht => hl.named t (List.mem_reverse.2 ht)

end Apidoc.Syntax
