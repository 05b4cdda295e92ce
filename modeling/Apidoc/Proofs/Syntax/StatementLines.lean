import Apidoc.Proofs.Syntax.Reading
import Apidoc.Proofs.Syntax.TokenLines
import Apidoc.Syntax.Grammar.Circle

/-!
# Lines of statements

Statements that share a line are all simple: a function or a class starts a line of its own, and
what follows it starts a later one.  So in a parsed module the lines of a definition, those of its
members included, are apart from the lines of every other statement; only bindings written with a
semicolon between them, or on the line of their class, can meet.

* `Stmt.Apart`          two statements, one of them a definition, on lines that do not meet;
* `BodyLines`           the lines in the body of a class;
* `parseModule_lines`   every parsed module is laid out so;
* `parseModule_named`   and its classes have names without a hyphen.
-/

namespace Apidoc.Syntax

open Rule

/-! ## lines in a tree -/

def Stmt.isDefinition : Stmt → Bool
  | .function _ _ _ _ _ _ _ | .classDef _ _ _ _ _ => true
  | _ => false

mutual

/-- the line a function, a class or a binding is known by, with the lines in the body of a class -/
def Stmt.lines : Stmt → List Nat
  | .function span _ _ _ _ _ _ => [span.line]
  | .classDef span _ _ _ body => span.line :: linesIn body
  | .assign span _ _ => [span.line]
  | .annotated span _ _ _ => [span.line]
  | _ => []

def linesIn : List Stmt → List Nat
  | [] => []
  | s :: ss => s.lines ++ linesIn ss

end

theorem mem_linesIn {ss : List Stmt} {l : Nat} : l ∈ linesIn ss ↔ ∃ s ∈ ss, l ∈ s.lines := by
  induction ss with
  | nil => simp [linesIn]
  | cons s ss ih => simp [linesIn, ih]

/-- The first statement ends above the second one, if either is a definition. -/
def Stmt.Apart (s t : Stmt) : Prop :=
  s.isDefinition ∨ t.isDefinition → ∀ a ∈ s.lines, ∀ b ∈ t.lines, a < b

/-- Statements in the body of a class that starts on the given line. -/
structure BodyLines (line : Nat) (body : List Stmt) : Prop where
  apart : body.Pairwise Stmt.Apart
  below : ∀ s ∈ body, s.isDefinition → ∀ l ∈ s.lines, line < l

/-- The body of a class is laid out below its head. -/
def Stmt.Indented : Stmt → Prop
  | .classDef span _ _ _ body => BodyLines span.line body
  | _ => True

/-- The name of a class is one of the names among the tokens. -/
def Stmt.NamedIn (ts : List Token) : Stmt → Prop
  | .classDef _ name _ _ _ => ∃ t ∈ ts, t.lexeme = .name name
  | _ => True

theorem Stmt.NamedIn.mono {s : Stmt} {ts us : List Token} (h : s.NamedIn ts) (hts : ts ⊆ us) :
    s.NamedIn us := by
  cases s with
  | classDef span name bases decorators body =>
    obtain ⟨t, ht, hname⟩ := h
    exact ⟨t, hts ht, hname⟩
  | _ => trivial

/-! ## lines ahead of a cursor -/

namespace Cursor

def Ordered (c : Cursor) : Prop := c.tokens.Pairwise fun earlier later => earlier.Passed later.line

/-- Nothing above the line is ahead. -/
def From (c : Cursor) (line : Nat) : Prop := ∀ t ∈ c.tokens, line ≤ t.line

variable {c c' : Cursor}

theorem Ordered.forward (h : c.Ordered) (hc : c'.tokens <:+ c.tokens) : c'.Ordered :=
  h.sublist hc.sublist

theorem From.forward {line : Nat} (h : c.From line) (hc : c'.tokens <:+ c.tokens) : c'.From line :=
  fun t ht => h t (hc.subset ht)

theorem Ordered.passed {t u : Token} {ts : List Token} (h : c.Ordered) (hc : c.tokens = t :: ts)
    (hu : u ∈ ts) : t.Passed u.line := by
  unfold Ordered at h
  rw [hc] at h
  exact List.rel_of_pairwise_cons h hu

/-- The token ahead says from which line on the others stand. -/
theorem from_head {t : Token} {ts : List Token} (h : c.Ordered) (hc : c.tokens = t :: ts) :
    c.From t.line := by
  intro u hu
  rw [hc] at hu
  rcases List.mem_cons.1 hu with rfl | hu
  · exact Nat.le_refl _
  · exact (h.passed hc hu).1

theorem From.le_head {t : Token} {ts : List Token} {line : Nat} (h : c.From line)
    (hc : c.tokens = t :: ts) : line ≤ t.line :=
  h t (hc ▸ List.mem_cons_self)

theorem From.newline {line : Nat} {u : Unit} (h : c.From line) (hc : c.Ordered)
    (hr : (lexeme .newline).run c = some (u, c')) : c'.From (line + 1) := by
  obtain ⟨t, hl, htokens⟩ := run_lexeme hr
  intro v hv
  have hlt := (hc.passed htokens hv).2 hl
  exact (Nat.succ_le_succ (h.le_head htokens)).trans hlt

end Cursor

/-! ## statements between two cursors -/

/-- The lines of the statements lie from the first cursor on and end above the second, and the names
are ahead of the first. -/
structure Between (c : Cursor) (ss : List Stmt) (c' : Cursor) : Prop where
  from_start : ∀ s ∈ ss, ∀ l ∈ s.lines, ∀ n, c.From n → n ≤ l
  to_end : ∀ s ∈ ss, ∀ l ∈ s.lines, c'.From (l + 1)
  apart : ss.Pairwise Stmt.Apart
  indented : ∀ s ∈ ss, s.Indented
  named : ∀ s ∈ ss, s.NamedIn c.tokens

namespace Between

variable {c c₁ c₂ : Cursor} {ss ts : List Stmt}

theorem nil : Between c [] c :=
  ⟨nofun, nofun, .nil, nofun, nofun⟩

theorem singleton {s : Stmt} (hl : ∀ l ∈ s.lines, (∀ n, c.From n → n ≤ l) ∧ c₁.From (l + 1))
    (hs : s.Indented) (hname : s.NamedIn c.tokens) : Between c [s] c₁ where
  from_start x hx l h := by
    obtain rfl := List.mem_singleton.1 hx
    exact (hl l h).1
  to_end x hx l h := by
    obtain rfl := List.mem_singleton.1 hx
    exact (hl l h).2
  apart := List.pairwise_singleton _ _
  indented := List.forall_mem_singleton.2 hs
  named := List.forall_mem_singleton.2 hname

theorem append (hs : Between c ss c₁) (ht : Between c₁ ts c₂) (h₁ : c₁.tokens <:+ c.tokens)
    (h₂ : c₂.tokens <:+ c₁.tokens) : Between c (ss ++ ts) c₂ where
  from_start s h l hl n hn := by
    rcases List.mem_append.1 h with h | h
    · exact hs.from_start s h l hl n hn
    · exact ht.from_start s h l hl n (hn.forward h₁)
  to_end s h l hl := by
    rcases List.mem_append.1 h with h | h
    · exact (hs.to_end s h l hl).forward h₂
    · exact ht.to_end s h l hl
  apart := List.pairwise_append.2 ⟨hs.apart, ht.apart, fun s hs' t ht' _ a ha b hb =>
    ht.from_start t ht' b hb (a + 1) (hs.to_end s hs' a ha)⟩
  indented := List.forall_mem_append.2 ⟨hs.indented, ht.indented⟩
  named := List.forall_mem_append.2 ⟨hs.named, fun s h => (ht.named s h).mono h₁.subset⟩

theorem forward (h : Between c₁ ss c₂) (h₁ : c₁.tokens <:+ c.tokens) : Between c ss c₂ :=
  { h with
    from_start := fun s hs l hl n hn => h.from_start s hs l hl n (hn.forward h₁)
    named := fun s hs => (h.named s hs).mono h₁.subset }

theorem backward (h : Between c ss c₁) (h₂ : c₂.tokens <:+ c₁.tokens) : Between c ss c₂ :=
  { h with to_end := fun s hs l hl => (h.to_end s hs l hl).forward h₂ }

end Between

/-- A rule that reads statements into their place. -/
def Places (p : Rule (List Stmt)) : Prop :=
  ∀ {c ss c'}, c.Ordered → p.run c = some (ss, c') → Between c ss c'

theorem Places.many {p : Rule (List Stmt)} (hp : Places p) {c c' : Cursor} {sss : List (List Stmt)}
    (hc : c.Ordered) (h : (many p).run c = some (sss, c')) : Between c sss.flatten c' := by
  refine run_many (R := fun c sss c' => c.Ordered → Between c sss.flatten c')
    (fun _ _ => .nil) ?_ h hc
  intro c ss c₁ sss c₂ hrun h₂ ih hc
  have h₁ := p.forward hrun
  exact (hp hc hrun).append (ih (hc.forward h₁)) h₁ h₂

/-! ## simple statements -/

def Stmt.Plain (s : Stmt) : Prop := s.isDefinition = false ∧ s.lines = []

theorem Stmt.of_not_definition {s : Stmt} (h : s.isDefinition = false) (ts : List Token) :
    s.Indented ∧ s.NamedIn ts := by
  cases s with
  | classDef span name bases decorators body => cases h
  | _ => exact ⟨trivial, trivial⟩

/-- A simple statement records the line it starts on, or none. -/
theorem simpleStatement_lines {r : Rules} {c c' : Cursor} {s : Stmt}
    (h : (simpleStatement r).run c = some (s, c')) :
    s.Plain ∨ s.isDefinition = false ∧ ∃ t ts, c.tokens = t :: ts ∧ s.lines = [t.line] := by
  have simple : (Pure.pure Stmt.simple : Rule Stmt).Ends fun _ s _ => s.Plain :=
    .pure fun _ => ⟨rfl, rfl⟩
  obtain ⟨l, c₁, hpeek, h⟩ := run_bind.1 h
  obtain ⟨-, rfl⟩ := run_look.1 hpeek
  -- only what starts with an expression, the last case, records its line
  split at h
  · exact .inl (Ends.result (.bind fun _ => .bind fun _ => simple) h)
  · exact .inl (Ends.result (.bind fun _ => .pure fun _ => ⟨rfl, rfl⟩) h)
  · exact .inl (Ends.result (.bind fun _ => .pure fun _ => ⟨rfl, rfl⟩) h)
  · exact .inl (Ends.result (.bind fun _ => .bind fun _ =>
      .ite (.bind fun _ => .ite (.bind fun _ => simple) simple) simple) h)
  · exact .inl (Ends.result (.bind fun _ => simple) h)
  · exact .inl (Ends.result (.bind fun _ => simple) h)
  · exact .inl (Ends.result (.bind fun _ => simple) h)
  · exact .inl (Ends.result (.bind fun _ => simple) h)
  · exact .inl (Ends.result (.bind fun _ => .bind fun _ => .bind fun _ =>
      .ite (.bind fun _ => simple) simple) h)
  · exact .inl (Ends.result (.bind fun _ => .bind fun _ => simple) h)
  · exact .inl (Ends.result (.bind fun _ => .bind fun _ => simple) h)
  · obtain ⟨⟨e, span⟩, c₁, hspan, h⟩ := run_bind.1 h
    obtain ⟨-, t, ts, htokens, hline⟩ := run_spanned hspan
    cases e with
    | expression e => exact .inl ((run_pure.1 h).1 ▸ ⟨rfl, rfl⟩)
    | assign targets v =>
      obtain ⟨rfl, -⟩ := run_pure.1 h
      exact .inr ⟨rfl, t, ts, htokens, congrArg (fun l => [l]) hline⟩
    | annotated target hint v =>
      obtain ⟨rfl, -⟩ := run_pure.1 h
      exact .inr ⟨rfl, t, ts, htokens, congrArg (fun l => [l]) hline⟩
    | augmented target op v => exact .inl ((run_pure.1 h).1 ▸ ⟨rfl, rfl⟩)

/-- The statement is simple, and its line lies between the cursors. -/
def OnLine (c : Cursor) (s : Stmt) (c' : Cursor) : Prop :=
  s.isDefinition = false ∧ ∀ l ∈ s.lines, (∀ n, c.From n → n ≤ l) ∧ c'.From l

theorem OnLine.widen {c c₁ c₂ c₃ : Cursor} {s : Stmt} (h : OnLine c₁ s c₂)
    (h₁ : c₁.tokens <:+ c.tokens) (h₃ : c₃.tokens <:+ c₂.tokens) : OnLine c s c₃ :=
  ⟨h.1, fun l hl => ⟨fun n hn => (h.2 l hl).1 n (hn.forward h₁), (h.2 l hl).2.forward h₃⟩⟩

theorem simpleStatement_onLine {r : Rules} {c c' : Cursor} {s : Stmt} (hc : c.Ordered)
    (h : (simpleStatement r).run c = some (s, c')) : OnLine c s c' := by
  rcases simpleStatement_lines h with ⟨hdef, hl⟩ | ⟨hdef, t, ts, htokens, hl⟩
  · exact ⟨hdef, by rw [hl]; exact nofun⟩
  · refine ⟨hdef, fun l h' => ?_⟩
    rw [hl, List.mem_singleton] at h'
    subst h'
    exact ⟨fun n hn => hn.le_head htokens,
      (Cursor.from_head hc htokens).forward ((simpleStatement r).forward h)⟩

theorem many_onLine {r : Rules} {c c' : Cursor} {ss : List Stmt} (hc : c.Ordered)
    (h : (many (do symbol .semicolon; simpleStatement r)).run c = some (ss, c')) :
    ∀ s ∈ ss, OnLine c s c' := by
  refine run_many (R := fun c ss c' => c.Ordered → ∀ s ∈ ss, OnLine c s c')
    (fun _ _ => nofun) ?_ h hc
  intro c s c₂ ss c₃ hstep h₃ ih hc s' hs'
  obtain ⟨u, c₁, hsep, hs⟩ := run_bind.1 hstep
  have h₁ := (symbol .semicolon).forward hsep
  have h₂ := (simpleStatement r).forward hs
  rcases List.mem_cons.1 hs' with rfl | hs'
  · exact (simpleStatement_onLine (hc.forward h₁) hs).widen h₁ h₃
  · exact (ih (hc.forward (h₂.trans h₁)) s' hs').widen (h₂.trans h₁) List.suffix_rfl

theorem simpleLine_between {r : Rules} {c c' : Cursor} {ss : List Stmt} (hc : c.Ordered)
    (h : (simpleLine r).run c = some (ss, c')) :
    Between c ss c' ∧ (∀ s ∈ ss, s.isDefinition = false) ∧ ∀ n, c.From n → c'.From (n + 1) := by
  obtain ⟨ss', c₂, hsep, h⟩ := run_bind.1 h
  obtain ⟨s, c₁, hfirst, hsep⟩ := run_bind.1 hsep
  obtain ⟨rest, c₂', hmany, hsep⟩ := run_bind.1 hsep
  obtain ⟨rfl, rfl⟩ := run_pure.1 hsep
  obtain ⟨b, c₃, htakes, h⟩ := run_bind.1 h
  obtain ⟨u, c₄, hnewline, h⟩ := run_bind.1 h
  obtain ⟨rfl, rfl⟩ := run_pure.1 h
  have h₁ := (simpleStatement r).forward hfirst
  have h₂ := (many _).forward hmany
  have h₃ := (takes .semicolon).forward htakes
  have line : ∀ x ∈ s :: rest, OnLine c x c₃ := by
    intro x hx
    rcases List.mem_cons.1 hx with rfl | hx
    · exact (simpleStatement_onLine hc hfirst).widen List.suffix_rfl (h₃.trans h₂)
    · exact (many_onLine (hc.forward h₁) hmany x hx).widen h₁ h₃
  have h₀ := h₃.trans (h₂.trans h₁)
  have hnext : ∀ {n}, c₃.From n → c₄.From (n + 1) := fun hn => hn.newline (hc.forward h₀) hnewline
  refine ⟨⟨fun x hx l hl => ((line x hx).2 l hl).1, fun x hx l hl => hnext ((line x hx).2 l hl).2,
    ?_, fun x hx => (Stmt.of_not_definition (line x hx).1 c.tokens).1,
    fun x hx => (Stmt.of_not_definition (line x hx).1 _).2⟩, fun x hx => (line x hx).1,
    fun n hn => hnext (hn.forward h₀)⟩
  refine List.Pairwise.imp_of_mem (fun {a b} ha hb _ => ?_)
    (List.pairwise_of_forall fun _ _ => trivial)
  rintro (hdef | hdef)
  · rw [(line a ha).1] at hdef
    cases hdef
  · rw [(line b hb).1] at hdef
    cases hdef

/-! ## blocks -/

theorem indentedBlock_between {r : Rules} (hr : Places r.statement) {c c' : Cursor}
    {body : List Stmt} {line : Nat} (hc : c.Ordered) (hline : c.From line)
    (h : (indentedBlock r).run c = some (body, c')) :
    Between c body c' ∧ (∀ s ∈ body, ∀ l ∈ s.lines, line < l) ∧ c'.From (line + 1) := by
  obtain ⟨u, c₁, hnewline, h⟩ := run_bind.1 h
  obtain ⟨u, c₂, hindent, h⟩ := run_bind.1 h
  obtain ⟨sss, c₄, hmany, h⟩ := run_bind.1 h
  obtain ⟨u, c₅, hdedent, h⟩ := run_bind.1 h
  obtain ⟨rfl, rfl⟩ := run_pure.1 h
  obtain ⟨ss, c₃, hfirst, hmany⟩ := run_bind.1 hmany
  obtain ⟨rest, c₄, hrest, hmany⟩ := run_bind.1 hmany
  obtain ⟨rfl, rfl⟩ := run_pure.1 hmany
  have h₁ := (lexeme .newline).forward hnewline
  have h₂ := (lexeme .indent).forward hindent
  have h₃ := r.statement.forward hfirst
  have h₄ := (many _).forward hrest
  have h₅ := (lexeme .dedent).forward hdedent
  have hc₂ := hc.forward (h₂.trans h₁)
  have hbody := (hr hc₂ hfirst).append (hr.many (hc₂.forward h₃) hrest) h₃ h₄
  have hafter : c₂.From (line + 1) := (hline.newline hc hnewline).forward h₂
  exact ⟨(hbody.forward (h₂.trans h₁)).backward h₅,
    fun s hs l hl => hbody.from_start s hs l hl _ hafter, hafter.forward (h₅.trans (h₄.trans h₃))⟩

/-- A block follows its head: definitions in it stand below. -/
theorem block_between {r : Rules} (hr : Places r.statement) {c c' : Cursor} {body : List Stmt}
    {line : Nat} (hc : c.Ordered) (hline : c.From line) (h : (block r).run c = some (body, c')) :
    Between c body c' ∧ BodyLines line body ∧ c'.From (line + 1) := by
  obtain ⟨u, c₁, hcolon, h⟩ := run_bind.1 h
  obtain ⟨b, c₂, hahead, h⟩ := run_bind.1 h
  obtain ⟨-, rfl⟩ := run_look.1 hahead
  have h₁ := (symbol .colon).forward hcolon
  have hc₁ := hc.forward h₁
  have hline₁ := hline.forward h₁
  -- on the rest of the line there are simple statements only
  split at h
  · obtain ⟨hbody, hbelow, hend⟩ := indentedBlock_between hr hc₁ hline₁ h
    exact ⟨hbody.forward h₁, ⟨hbody.apart, fun s hs _ => hbelow s hs⟩, hend⟩
  · obtain ⟨hbody, hsimple, hend⟩ := simpleLine_between hc₁ h
    refine ⟨hbody.forward h₁, ⟨hbody.apart, fun s hs hdef => ?_⟩, hend line hline₁⟩
    rw [hsimple s hs] at hdef
    cases hdef

/-! ## definitions -/

/-- The block of a definition is read last. -/
theorem block_last (r : Rules) {α : Type} (make : List Stmt → α) (body : α → List Stmt)
    (hbody : ∀ b, body (make b) = b) :
    (do let b ← block r; return make b : Rule α).Ends fun c a c' => (block r).run c =
      some (body a, c') :=
  .last fun hr => by
    obtain ⟨b, c₁, hb, hr⟩ := run_bind.1 hr
    obtain ⟨rfl, rfl⟩ := run_pure.1 hr
    rw [hbody, hb]

theorem functionDef_between {r : Rules} (hr : Places r.statement) {ds : List Expr} {c c' : Cursor}
    {s : Stmt} (hc : c.Ordered) (h : (functionDef r ds).run c = some (s, c')) :
    Between c [s] c' := by
  obtain ⟨⟨⟨isAsync, name, signature, returns, body⟩, span⟩, c₂, hspan, h⟩ := run_bind.1 h
  obtain ⟨rfl, rfl⟩ := run_pure.1 h
  obtain ⟨hread, t, ts, htokens, hline⟩ := run_spanned hspan
  have last (isAsync : Bool) (name : String) (signature : Signature) (returns : Option Expr) :=
    block_last r (fun b => (isAsync, name, signature, returns, b)) (·.2.2.2.2) fun _ => rfl
  obtain ⟨c₁, h₁, hbody⟩ := Ends.bind (fun _ => .bind fun _ => .bind fun _ => .bind fun _ =>
    .bind fun _ => .bind fun _ => .ite (.bind fun _ => last _ _ _ _)
      (.bind fun _ => last _ _ _ _)) _ _ _ hread
  have hhead := Cursor.from_head hc htokens
  obtain ⟨-, -, hend⟩ := block_between hr (hc.forward h₁) (hhead.forward h₁) hbody
  refine .singleton (fun l hl => ?_) trivial trivial
  obtain rfl : l = t.line := (List.mem_singleton.1 hl).trans hline
  exact ⟨fun n hn => hn.le_head htokens, hend⟩

theorem classDefinition_between {r : Rules} (hr : Places r.statement) {ds : List Expr}
    {c c' : Cursor} {s : Stmt} (hc : c.Ordered) (h : (classDefinition r ds).run c = some (s, c')) :
    Between c [s] c' := by
  obtain ⟨⟨⟨name, bases, body⟩, span⟩, c₂, hspan, h⟩ := run_bind.1 h
  obtain ⟨rfl, rfl⟩ := run_pure.1 h
  obtain ⟨hread, t, ts, htokens, hline⟩ := run_spanned hspan
  have last (name : String) (bases : List Expr) :=
    block_last r (fun b => (name, bases, b)) (·.2.2) fun _ => rfl
  obtain ⟨c₁, h₁, hbody⟩ := Ends.bind (fun _ => .bind fun _ => .bind fun _ =>
    .ite (.bind fun _ => last _ _) (.bind fun _ => last _ _)) _ _ _ hread
  have hhead := Cursor.from_head hc htokens
  obtain ⟨hin, hlines, hend⟩ := block_between hr (hc.forward h₁) (hhead.forward h₁) hbody
  -- the name stands after the keyword
  obtain ⟨u, hu, hlexeme⟩ : ∃ u ∈ c.tokens, u.lexeme = .name name := by
    obtain ⟨_, c₃, hkeyword, hread⟩ := run_bind.1 hread
    obtain ⟨id, c₄, hid, hread⟩ := run_bind.1 hread
    obtain ⟨u, hu, htokens⟩ := run_identifier hid
    obtain rfl : name = id := Ends.result (P := fun a => a.1 = id) (.bind fun _ =>
      .ite (.bind fun _ => .bind fun _ => .pure fun _ => rfl) (.bind fun _ => .bind fun _ =>
        .pure fun _ => rfl)) hread
    exact ⟨u, ((keyword .Class).forward hkeyword).subset (htokens ▸ List.mem_cons_self), hu⟩
  refine .singleton (fun l hl => ?_) (show BodyLines span.line body from hline ▸ hlines)
    ⟨u, hu, hlexeme⟩
  rcases List.mem_cons.1 hl with rfl | hl
  · rw [hline]
    exact ⟨fun n hn => hn.le_head htokens, hend⟩
  · obtain ⟨x, hx, hl⟩ := mem_linesIn.1 hl
    exact ⟨fun n hn => hin.from_start x hx l hl n (hn.forward h₁), hin.to_end x hx l hl⟩

/-! ## other compound statements -/

theorem compound_plain {parts : List Part} (_ : Cursor) : (Stmt.compound parts).Plain := ⟨rfl, rfl⟩

theorem ifFrom_plain (r : Rules) (n : Nat) : (ifFrom r n).Ends fun _ s _ => s.Plain := by
  cases n with
  | zero => exact .fail
  | succ n =>
    exact .bind fun _ => .bind fun _ => .bind fun _ =>
      .ite (.bind fun _ => .pure compound_plain) (.bind fun _ => .pure compound_plain)

theorem forStatement_plain (r : Rules) : (forStatement r).Ends fun _ s _ => s.Plain :=
  .bind fun _ => .bind fun _ => .bind fun _ => .bind fun _ => .bind fun _ => .bind fun _ =>
    .pure compound_plain

theorem withStatement_plain (r : Rules) : (withStatement r).Ends fun _ s _ => s.Plain :=
  .bind fun _ => .bind fun _ => .bind fun _ => .pure compound_plain

theorem tryStatement_plain (r : Rules) : (tryStatement r).Ends fun _ s _ => s.Plain :=
  .bind fun _ => .bind fun _ => .bind fun _ => .ite (.bind fun _ => .pure compound_plain)
    (.bind fun _ => .bind fun _ => .bind fun _ => .bind fun _ => .bind fun _ => .bind fun _ =>
      .pure compound_plain)

theorem matchStatement_plain (r : Rules) : (matchStatement r).Ends fun _ s _ => s.Plain :=
  .bind fun _ => .bind fun _ => .bind fun _ => .bind fun _ => .bind fun _ => .bind fun _ =>
    .bind fun _ => .bind fun _ => .bind fun _ => .bind fun _ => .pure compound_plain

theorem Stmt.Plain.between {s : Stmt} (h : s.Plain) (c c' : Cursor) : Between c [s] c' :=
  have hother := Stmt.of_not_definition h.1 c.tokens
  .singleton (by rw [h.2]; exact nofun) hother.1 hother.2

theorem compoundStatement_between {r : Rules} (hr : Places r.statement) {c c' : Cursor} {s : Stmt}
    (hc : c.Ordered) (h : (compoundStatement r).run c = some (s, c')) : Between c [s] c' := by
  obtain ⟨l, c₁, hpeek, h⟩ := run_bind.1 h
  obtain ⟨-, rfl⟩ := run_look.1 hpeek
  split at h
  · exact (Ends.result (.bind fun _ => .sized fun n => ifFrom_plain r (n + 1)) h).between c c'
  · exact (Ends.result (.bind fun _ => .bind fun _ => .bind fun _ => .bind fun _ =>
      .pure compound_plain) h).between c c'
  · exact ((forStatement_plain r).result h).between c c'
  · exact ((withStatement_plain r).result h).between c c'
  · exact ((tryStatement_plain r).result h).between c c'
  · exact functionDef_between hr hc h
  · exact classDefinition_between hr hc h
  · obtain ⟨l, c₁, hpeek, h⟩ := run_bind.1 h
    obtain ⟨-, rfl⟩ := run_look.1 hpeek
    split at h
    · exact functionDef_between hr hc h
    · exact (Ends.result (.bind fun _ => forStatement_plain r) h).between c c'
    · exact (Ends.result (.bind fun _ => withStatement_plain r) h).between c c'
    · cases h
  · -- the line of a definition is not that of its decorators
    obtain ⟨ds, c₁, hds, h⟩ := run_bind.1 h
    obtain ⟨b, c₂, hahead, h⟩ := run_bind.1 h
    obtain ⟨-, rfl⟩ := run_look.1 hahead
    have h₁ := (decorators r).forward hds
    split at h
    · exact (classDefinition_between hr (hc.forward h₁) h).forward h₁
    · exact (functionDef_between hr (hc.forward h₁) h).forward h₁
  · exact ((matchStatement_plain r).result h).between c c'
  · cases h

/-! ## modules -/

theorem statement_places {r : Rules} (hr : Places r.statement) : Places (statement r) := by
  intro c ss c' hc h
  rcases run_orElse h with h | h
  · obtain ⟨s, c₁, hs, h⟩ := run_bind.1 h
    obtain ⟨rfl, rfl⟩ := run_pure.1 h
    exact compoundStatement_between hr hc hs
  · exact (simpleLine_between hc h).1

theorem rules_places (n : Nat) : Places (rules n).statement := by
  induction n with
  | zero => exact nofun
  | succ n ih => exact statement_places ih

theorem wholeModule_between {n : Nat} {c c' : Cursor} {m : Module} (hc : c.Ordered)
    (h : (wholeModule (rules n)).run c = some (m, c')) : Between c m c' := by
  obtain ⟨sss, c₁, hmany, h⟩ := run_bind.1 h
  obtain ⟨u, c₂, hstop, h⟩ := run_bind.1 h
  obtain ⟨rfl, rfl⟩ := run_pure.1 h
  have hss := Places.many (statement_places (rules_places n)) hc hmany
  exact hss.backward ((lexeme .stop).forward hstop)

theorem parseModule_between {text : List Char} {m : Module} (h : parseModule text = some m) :
    ∃ ts c, lex text = some ts ∧ Between (.ofTokens ts) m c := by
  unfold parseModule at h
  split at h
  · cases h
  · next ts hts =>
    obtain ⟨⟨m', c'⟩, hrun, rfl⟩ := Option.map_eq_some_iff.1 h
    exact ⟨ts, c', hts, wholeModule_between (lex_ordered hts) hrun⟩

/-- **definitions of a parsed module keep their lines to themselves** -/
theorem parseModule_lines {text : List Char} {m : Module} (h : parseModule text = some m) :
    m.Pairwise Stmt.Apart ∧ (∀ s ∈ m, s.Indented) ∧ ∀ s ∈ m, ∀ l ∈ s.lines, 1 ≤ l := by
  obtain ⟨ts, c, hts, hin⟩ := parseModule_between h
  exact ⟨hin.apart, hin.indented, fun s hs l hl => hin.from_start s hs l hl 1 (lex_counted hts)⟩

theorem parseModule_named {text : List Char} {m : Module} (h : parseModule text = some m)
    {span : Span} {name : String} {bases decorators : List Expr} {body : List Stmt}
    (hs : .classDef span name bases decorators body ∈ m) : '-' ∉ name.toList := by
  obtain ⟨ts, c, hts, hin⟩ := parseModule_between h
  obtain ⟨t, ht, hname⟩ := hin.named _ hs
  have hnamed := lex_named hts t ht
  rwa [hname] at hnamed

end Apidoc.Syntax
