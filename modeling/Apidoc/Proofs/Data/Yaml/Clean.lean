import Apidoc.Proofs.Data.Yaml.Blocks

/-!
# Clean texts

What is written is ASCII on lines: no character in it has to be looked at twice when a file is read.

* `Clean`                     texts of lines of ASCII characters, and `Clean.stringText`, what is
                              written for a string;
* `Clean.all_isAllowed`       such a text may stand in a document;
* `Clean.unifyNewlines_eq`    its line ends stay as they are.
-/

namespace Apidoc.Yaml

/-- Texts of lines of ASCII characters. -/
def Clean (cs : List Char) : Prop := ∀ x ∈ cs, isAsciiText x = true ∨ x = '\n'

namespace Clean

variable {cs ds : List Char}

theorem nil : Clean [] := nofun

theorem of_ascii (h : ∀ x ∈ cs, isAsciiText x = true) : Clean cs := fun x hx => .inl (h x hx)

theorem append (h : Clean cs) (h' : Clean ds) : Clean (cs ++ ds) := by
  intro x hx
  rcases List.mem_append.mp hx with hx | hx
  · exact h x hx
  · exact h' x hx

theorem cons {x : Char} (hx : isAsciiText x = true ∨ x = '\n') (h : Clean cs) :
    Clean (x :: cs) := by
  rw [Clean, List.forall_mem_cons]
  exact ⟨hx, h⟩

theorem spaces (n : Nat) : Clean (spaces n) := by
  intro x hx
  rw [List.eq_of_mem_replicate hx]
  exact .inl rfl

theorem newline (n : Nat) : Clean (newline n) := (spaces n).cons (.inr rfl)

theorem wrap (fold : Option Nat) (quoted : Bool) (column : Nat) (before : Option Char)
    (h : Clean cs) : Clean (wrap fold quoted column before cs) := by
  induction cs generalizing column before with
  | nil => exact nil
  | cons x cs ih =>
    have ih (column : Nat) (before : Option Char) :=
      ih column before fun y hy => h y (List.mem_cons_of_mem _ hy)
    have hx := h x List.mem_cons_self
    rw [Yaml.wrap]
    split
    · split
      · exact (newline _).append (ih _ _)
      · exact (ih _ _).cons hx
    · split
      · refine append ?_ ?_
        · split
          · exact nil.cons (.inr rfl)
          · exact (nil.cons (.inr rfl)).cons (.inr rfl)
        · split
          · exact ih _ _
          · exact (spaces _).append (ih _ _)
      · split
        · exact ((ih _ _).cons hx).cons hx
        · exact (ih _ _).cons hx

theorem foldMark (indent : Nat) (next : Option Char) : Clean (foldMark indent next) := by
  refine append ((newline indent).cons (.inl rfl)) ?_
  split
  · exact nil.cons (.inl rfl)
  · exact nil

theorem escaped (fold : Option Nat) (column : Nat) (first loose : Bool) (cs : List Char) :
    Clean (escaped fold column first loose cs) := by
  induction cs generalizing column first loose with
  | nil => exact nil
  | cons x cs ih =>
    rw [Yaml.escaped]
    split
    · rename_i e he
      dsimp only
      split
      · exact ((of_ascii (ascii_escape? he)).append (foldMark _ _)).append (ih _ _ _)
      · exact (of_ascii (ascii_escape? he)).append (ih _ _ _)
    · rename_i he
      have hx := Quoted.of_escape?_none he
      split
      · exact (foldMark _ _).append ((ih _ _ _).cons (.inl hx.1))
      · exact (ih _ _ _).cons (.inl hx.1)

theorem stringText (fold : Option Nat) (column : Nat) (cs : List Char) :
    Clean (stringText fold column cs) := by
  rw [Yaml.stringText]
  split
  · rename_i h
    exact wrap _ _ _ _ (of_ascii (bare_of_isPlain h).1.ascii)
  · split
    · rename_i h
      simp only [isSingle, Bool.and_eq_true, List.all_eq_true, Bool.or_eq_true, beq_iff_eq] at h
      exact ((wrap _ _ _ _ h.1.1).cons (.inl rfl)).append (nil.cons (.inl rfl))
    · exact ((escaped _ _ _ _ _).cons (.inl rfl)).append (nil.cons (.inl rfl))

theorem all_isAllowed (h : Clean cs) : cs.all isAllowed = true := by
  rw [List.all_eq_true]
  intro x hx
  rcases h x hx with hascii | rfl
  · simp only [isAsciiText, Bool.and_eq_true, decide_eq_true_eq] at hascii
    have hrange : 0x20 ≤ x.toNat ∧ x.toNat ≤ 0x7e := hascii
    simp [isAllowed, hrange]
  · rfl

theorem unifyNewlines_eq (h : Clean cs) : Text.unifyNewlines cs = cs :=
  Text.unifyNewlines_eq_self fun hr => absurd (h '\r' hr) (by decide)

end Clean

end Apidoc.Yaml
