import Apidoc.Syntax.Grammar.Basic

/-!
# What a rule has read

A run of a rule that succeeded is taken apart here: each combinator has one lemma that says which
runs of its parts it was made of.

* `run_bind`, `run_pure`, `run_orElse`   the parts of a sequence and of a choice;
* `run_lexeme`, `run_spanned`            the tokens that were taken or looked at;
* `run_many`                             a repetition, as an induction over its steps;
* `Ends`                                 what holds of the last part of a sequence, whatever came
                                         before.
-/

namespace Apidoc.Syntax.Rule

variable {α β : Type} {c c' c'' : Cursor}

theorem run_bind {p : Rule α} {f : α → Rule β} {b : β} :
    (p >>= f).run c = some (b, c'') ↔
      ∃ a c', p.run c = some (a, c') ∧ (f a).run c' = some (b, c'') := by
  have hrun : (p >>= f).run c = (p.run c).bind fun r => (f r.1).run r.2 := by
    dsimp only [Bind.bind, Rule.bind]
    cases p.run c <;> rfl
  rw [hrun, Option.bind_eq_some_iff, Prod.exists]

theorem run_pure {a b : α} : (Pure.pure a : Rule α).run c = some (b, c') ↔ a = b ∧ c = c' := by
  show some (a, c) = some (b, c') ↔ _
  simp

theorem run_orElse {p q : Rule α} {a : α} (h : (p <|> q).run c = some (a, c')) :
    p.run c = some (a, c') ∨ q.run c = some (a, c') := by
  have hrun : (p <|> q).run c = (p.run c).or (q.run c) := by
    dsimp only [HOrElse.hOrElse, OrElse.orElse, Rule.orElse]
    cases p.run c <;> rfl
  rw [hrun, Option.or_eq_some_iff] at h
  exact h.imp_right And.right

theorem run_look {f : Cursor → Option α} {a : α} :
    (look f).run c = some (a, c') ↔ f c = some a ∧ c = c' := by
  show (f c).map (fun a => (a, c)) = _ ↔ _
  cases f c <;> simp

theorem run_next {t : Token} (h : next.run c = some (t, c')) : c.tokens = t :: c'.tokens := by
  unfold next at h
  dsimp only at h
  split at h
  · cases h
  · next hc => cases h; exact hc

theorem run_check {b : Bool} {u : Unit} (h : (check b).run c = some (u, c')) :
    b = true ∧ c = c' := by
  cases b with
  | false => cases h
  | true => exact ⟨rfl, (run_pure.1 h).2⟩

theorem run_lexeme {l : Lexeme} {u : Unit} (h : (lexeme l).run c = some (u, c')) :
    ∃ t : Token, t.lexeme = l ∧ c.tokens = t :: c'.tokens := by
  obtain ⟨t, c₁, ht, h⟩ := run_bind.1 h
  obtain ⟨hl, rfl⟩ := run_check h
  exact ⟨t, eq_of_beq hl, run_next ht⟩

theorem run_identifier {id : String} (h : identifier.run c = some (id, c')) :
    ∃ t : Token, t.lexeme = .name id ∧ c.tokens = t :: c'.tokens := by
  obtain ⟨t, c₁, ht, h⟩ := run_bind.1 h
  split at h
  · next hl =>
    obtain ⟨rfl, rfl⟩ := run_pure.1 h
    exact ⟨t, hl, run_next ht⟩
  · cases h

/-- The span of a rule starts with the token that was ahead of it. -/
theorem run_spanned {p : Rule α} {a : α} {span : Span}
    (h : (spanned p).run c = some ((a, span), c')) :
    p.run c = some (a, c') ∧ ∃ t ts, c.tokens = t :: ts ∧ span.line = t.line := by
  obtain ⟨⟨line, start⟩, c₁, hhere, h⟩ := run_bind.1 h
  obtain ⟨a', c₂, hp, h⟩ := run_bind.1 h
  obtain ⟨stop, c₃, hended, h⟩ := run_bind.1 h
  obtain ⟨heq, rfl⟩ := run_pure.1 h
  cases heq
  obtain ⟨hhead, rfl⟩ := run_look.1 hhere
  obtain ⟨-, rfl⟩ := run_look.1 hended
  obtain ⟨t, ht, hline⟩ := Option.map_eq_some_iff.1 hhead
  cases hline
  obtain ⟨ts, hts⟩ := List.head?_eq_some_iff.1 ht
  exact ⟨hp, t, ts, hts, rfl⟩

/-- A repetition made no step, or one step and then a repetition. -/
theorem run_many {R : Cursor → List α → Cursor → Prop} {p : Rule α} (done : ∀ c, R c [] c)
    (step : ∀ {c a c₁ as c₂}, p.run c = some (a, c₁) → c₂.tokens <:+ c₁.tokens → R c₁ as c₂ →
      R c (a :: as) c₂) {as : List α} (h : (many p).run c = some (as, c')) : R c as c' := by
  change manyFrom p c.size c = some (as, c') at h
  generalize c.size = n at h
  induction n generalizing c as with
  | zero => cases h; exact done _
  | succ n ih =>
    rw [manyFrom] at h
    split at h
    · cases h; exact done _
    · next a c₁ hp =>
      split at h
      · split at h
        · cases h
        · next as' c₂ hm => cases h; exact step hp (manyFrom_forward p hm) (ih hm)
      · cases h; exact done _

/-! ## the last part of a rule -/

/-- Whatever is read first, the rule ends with a run of which `Q` holds. -/
def Ends (p : Rule α) (Q : Cursor → α → Cursor → Prop) : Prop :=
  ∀ c a c', p.run c = some (a, c') → ∃ c₁ : Cursor, c₁.tokens <:+ c.tokens ∧ Q c₁ a c'

namespace Ends

variable {p q : Rule α} {Q : Cursor → α → Cursor → Prop}

theorem last (h : ∀ {c a c'}, p.run c = some (a, c') → Q c a c') : p.Ends Q :=
  fun c _ _ hr => ⟨c, List.suffix_rfl, h hr⟩

theorem pure {a : α} (h : ∀ c, Q c a c) : (Pure.pure a : Rule α).Ends Q :=
  last fun {c _ _} hr => by
    obtain ⟨rfl, rfl⟩ := run_pure.1 hr
    exact h c

theorem fail : (Rule.fail : Rule α).Ends Q := nofun

theorem bind {p : Rule β} {f : β → Rule α} (h : ∀ b, (f b).Ends Q) : (p >>= f).Ends Q := by
  intro c a c'' hr
  obtain ⟨b, c', hp, hf⟩ := run_bind.1 hr
  obtain ⟨c₁, hc₁, hQ⟩ := h b c' a c'' hf
  exact ⟨c₁, hc₁.trans (p.forward hp), hQ⟩

theorem ite {b : Bool} (hp : p.Ends Q) (hq : q.Ends Q) : (if b = true then p else q).Ends Q := by
  cases b with
  | false => exact hq
  | true => exact hp

theorem sized {p : Nat → Rule α} (h : ∀ n, (p n).Ends Q) : (Rule.sized p).Ends Q :=
  fun c a c' hr => h c.size c a c' hr

/-- A property of the result alone needs no cursor. -/
theorem result {P : α → Prop} {a : α} (h : p.Ends fun _ a _ => P a) (hr : p.run c = some (a, c')) :
    P a := by
  obtain ⟨c₁, -, hP⟩ := h c a c' hr
  exact hP

end Ends

end Apidoc.Syntax.Rule
