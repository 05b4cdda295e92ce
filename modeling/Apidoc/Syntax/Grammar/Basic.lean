import Apidoc.Syntax.Token
import Apidoc.Syntax.Expr

/-!
# Rules of the grammar

A rule reads tokens and gives a tree and the tokens that are left, or fails without a reason.  The
tokens left are always the last of those that were ahead.  Choice is ordered: the second alternative
is tried where the first one failed, on the same tokens.

Rules call each other in a circle.  The circle is cut in one place: a rule that has to enter another
one inside brackets, after an operator or in a nested block takes it from a record `Rules`, and
`Syntax.Grammar.Circle` ties the record to itself with as much fuel as the text has characters.
Every entry consumes a token, so the fuel never runs out first.
-/

namespace Apidoc.Syntax

/-- the tokens that are left, their number, and where the last token that is no layout ended -/
structure Cursor where
  tokens : List Token
  size : Nat
  last : Nat

/-- A way to read the tokens ahead.  It never goes back to a token that was taken. -/
structure Rule (α : Type) where
  run : Cursor → Option (α × Cursor)
  forward : ∀ {c : Cursor} {a : α} {c' : Cursor}, run c = some (a, c') → c'.tokens <:+ c.tokens

namespace Rule

def look {α : Type} (f : Cursor → Option α) : Rule α where
  run c := (f c).map fun a => (a, c)
  forward h := by
    obtain ⟨a, -, h⟩ := Option.map_eq_some_iff.1 h
    cases h
    exact List.suffix_rfl

def pure {α : Type} (a : α) : Rule α where
  run c := some (a, c)
  forward h := by cases h; exact List.suffix_rfl

def bind {α β : Type} (p : Rule α) (f : α → Rule β) : Rule β where
  run c :=
    match p.run c with
    | none => none
    | some (a, c') => (f a).run c'
  forward {c b c''} h := by
    split at h
    · cases h
    · next a c' hp => exact ((f a).forward h).trans (p.forward hp)

instance : Monad Rule where
  pure := Rule.pure
  bind := Rule.bind

def fail {α : Type} : Rule α where
  run _ := none
  forward h := nomatch h

def orElse {α : Type} (p : Rule α) (q : Unit → Rule α) : Rule α where
  run c :=
    match p.run c with
    | none => (q ()).run c
    | some r => some r
  forward h := by
    split at h
    · exact (q ()).forward h
    · next r hp => cases h; exact p.forward hp

instance {α : Type} : OrElse (Rule α) := ⟨Rule.orElse⟩

def optional {α : Type} (p : Rule α) : Rule (Option α) where
  run c :=
    match p.run c with
    | none => some (none, c)
    | some (a, c') => some (some a, c')
  forward h := by
    split at h
    · cases h; exact List.suffix_rfl
    · next a c' hp => cases h; exact p.forward hp

/-- A rule that is built only when it is run. -/
def delay {α : Type} (p : Unit → Rule α) : Rule α where
  run c := (p ()).run c
  forward h := (p ()).forward h

def sized {α : Type} (p : Nat → Rule α) : Rule α where
  run c := (p c.size).run c
  forward {c _ _} h := (p c.size).forward h

def peek : Rule Lexeme := look fun c => c.tokens.head?.map (·.lexeme)

def peekSecond : Rule Lexeme :=
  look fun c => some (((c.tokens.drop 1).head?.map (·.lexeme)).getD .stop)

def next : Rule Token where
  run c :=
    match c.tokens with
    | [] => none
    | t :: ts => some (t, ⟨ts, c.size - 1, if t.lexeme.isLayout then c.last else t.stop⟩)
  forward {c _ _} h := by
    split at h
    · cases h
    · next hc => cases h; rw [hc]; exact List.suffix_cons _ _

def check (b : Bool) : Rule Unit := if b then pure () else fail

def lexeme (l : Lexeme) : Rule Unit := do
  let t ← next
  check (t.lexeme == l)

def symbol (s : Symbol) : Rule Unit := lexeme (.symbol s)

def keyword (k : Keyword) : Rule Unit := lexeme (.keyword k)

def ahead (l : Lexeme) : Rule Bool :=
  look fun c => some ((c.tokens.head?.map fun t => t.lexeme == l).getD false)

def aheadSymbol (s : Symbol) : Rule Bool := ahead (.symbol s)

def aheadKeyword (k : Keyword) : Rule Bool := ahead (.keyword k)

def takes (s : Symbol) : Rule Bool := do
  if ← aheadSymbol s then
    let _ ← next
    return true
  else return false

def takesKeyword (k : Keyword) : Rule Bool := do
  if ← aheadKeyword k then
    let _ ← next
    return true
  else return false

def identifier : Rule String := do
  match (← next).lexeme with
  | .name id => return id
  | _ => fail

def word (w : String) : Rule Unit := do check ((← identifier) == w)

/-- Repeats a rule as long as it succeeds and moves on. -/
def manyFrom {α : Type} (p : Rule α) : Nat → Cursor → Option (List α × Cursor)
  | 0, c => some ([], c)
  | n + 1, c =>
    match p.run c with
    | none => some ([], c)
    | some (a, c') =>
      if c'.size < c.size then
        match manyFrom p n c' with
        | none => none
        | some (as, c'') => some (a :: as, c'')
      else some ([], c)

theorem manyFrom_forward {α : Type} (p : Rule α) {n : Nat} {c : Cursor} {as : List α} {c' : Cursor}
    (h : manyFrom p n c = some (as, c')) : c'.tokens <:+ c.tokens := by
  induction n generalizing c as with
  | zero => cases h; exact List.suffix_rfl
  | succ n ih =>
    rw [manyFrom] at h
    split at h
    · cases h; exact List.suffix_rfl
    · next a c₁ hp =>
      split at h
      · split at h
        · cases h
        · next as' c₂ hm => cases h; exact (ih hm).trans (p.forward hp)
      · cases h; exact List.suffix_rfl

def many {α : Type} (p : Rule α) : Rule (List α) where
  run c := manyFrom p c.size c
  forward h := manyFrom_forward p h

def many1 {α : Type} (p : Rule α) : Rule (List α) := do
  let a ← p
  let as ← many p
  return a :: as

def separated {α : Type} (s : Symbol) (p : Rule α) : Rule (List α) := do
  let a ← p
  let as ← many (do symbol s; p)
  return a :: as

/-- Folds operands to the left as long as an operator is ahead. -/
def chainFrom {α β : Type} (op : Rule (Option β)) (operand : Rule α) (combine : α → β → α → α) :
    Nat → α → Rule α
  | 0, a => pure a
  | n + 1, a => do
    match ← op with
    | none => pure a
    | some o =>
      let b ← operand
      chainFrom op operand combine n (combine a o b)

def chain {α β : Type} (op : Rule (Option β)) (operand : Rule α) (combine : α → β → α → α) :
    Rule α := do
  let a ← operand
  sized fun n => chainFrom op operand combine n a

def here : Rule (Nat × Nat) := look fun c => c.tokens.head?.map fun t => (t.line, t.start)

def ended : Rule Nat := look fun c => some c.last

def spanned {α : Type} (p : Rule α) : Rule (α × Span) := do
  let (line, start) ← here
  let a ← p
  let stop ← ended
  return (a, ⟨line, start, stop⟩)

end Rule

structure Rules where
  expression : Rule Expr
  disjunction : Rule Expr
  inversion : Rule Expr
  bitwiseOr : Rule Expr
  factor : Rule Expr
  primary : Rule Expr
  /-- the expression in a field of a formatted string -/
  field : List Char → Option Expr
  pattern : Rule Unit
  /-- a line of simple statements, or one compound statement -/
  statement : Rule (List Stmt)

end Apidoc.Syntax
