import Apidoc.Proofs.Data.Ordered
import Apidoc.Selection.Chooser

/-!
# Choosing for one entry

A user includes or excludes the entry that a reference finds.  The selections of all other entries
stay as they are.  The entry's own selection is replaced by one that says no more than whether it is
included, so that a title or a description it had is lost.

* `Selections.effective`   what holds for an entry, with a selection or without;
* `Chooser.edits`          the selections after each way to choose;
* `Chooser.eq_of_mem_edits`, `Chooser.exists_of_mem_edits`   what choosing comes to, without an
                                                             entry and with one.
-/

namespace Apidoc

/-! ## what holds for an entry -/

/-- what holds for an entry: without a selection it is included, under its own title and description
-/
def Selections.effective (s : Selections) (id : Data) : Selection :=
  (Ordered.get? s id).getD (.default id true)

/-- The selection gives the entry no title and no description. -/
def Selection.Bare (s : Selection) : Prop := s.title = .null ∧ s.description = .null

namespace Selections

variable {s t : Selections} {id : String}

theorem includes_eq (s : Selections) (id : String) :
    s.includes id = (s.effective (.str id)).isIncluded := by
  unfold includes effective of?
  cases Ordered.get? s (.str id) with
  | none => rfl
  | some sel => rfl

theorem effective_set_self (s : Selections) (id : String) (sel : Selection) :
    effective (Ordered.set s (.str id) sel) (.str id) = sel := by
  rw [effective, Ordered.get?_set_self (Data.beq_str.mpr rfl), Option.getD_some]

theorem effective_set_of_ne (s : Selections) (sel : Selection) {k : Data} (h : k ≠ .str id) :
    effective (Ordered.set s (.str id) sel) k = s.effective k := by
  rw [effective, effective, Ordered.get?_set_str_of_ne h]

end Selections

/-! ## choosing -/

namespace Chooser

variable {entries : List Entry} {s t : Selections} {ref : String} {e : Entry}

/-- the selections after the entry that is referred to was toggled, included, or excluded -/
def edits (entries : List Entry) (s : Selections) (ref : String) : List Selections :=
  [(toggle entries s ref).1, (set entries s ref true).1, (set entries s ref false).1]

theorem choose_missing (h : find? entries ref = none) (choice : Entry → Bool) :
    (choose entries s ref choice).1 = s := by
  rw [choose, h]

theorem choose_found (h : find? entries ref = some e) (choice : Entry → Bool) :
    (choose entries s ref choice).1 = Ordered.set s (.str e.id)
    (.default (.str e.id) (choice e)) := by
  rw [choose, h]

theorem exists_of_mem_edits (h : find? entries ref = some e) (ht : t ∈ edits entries s ref) :
    ∃ b, t = Ordered.set s (.str e.id) (.default (.str e.id) b) := by
  simp only [edits, List.mem_cons, List.not_mem_nil, or_false] at ht
  rcases ht with rfl | rfl | rfl
  · exact ⟨_, choose_found h _⟩
  · exact ⟨_, choose_found h _⟩
  · exact ⟨_, choose_found h _⟩

theorem eq_of_mem_edits (h : find? entries ref = none) (ht : t ∈ edits entries s ref) : t = s := by
  simp only [edits, List.mem_cons, List.not_mem_nil, or_false] at ht
  rcases ht with rfl | rfl | rfl
  · exact choose_missing h _
  · exact choose_missing h _
  · exact choose_missing h _

theorem includes_toggle (h : find? entries ref = some e) :
    (toggle entries s ref).1.includes e.id = !s.includes e.id := by
  rw [toggle, choose_found h, Selections.includes_eq, Selections.effective_set_self]
  rfl

theorem includes_set (h : find? entries ref = some e) (b : Bool) :
    (set entries s ref b).1.includes e.id = b := by
  rw [set, choose_found h, Selections.includes_eq, Selections.effective_set_self]
  rfl

/-- Toggling twice leaves what was included before, and nothing else of the selection. -/
theorem effective_toggle_toggle (h : find? entries ref = some e) :
    (toggle entries (toggle entries s ref).1 ref).1.effective (.str e.id) =
      .default (.str e.id) (s.includes e.id) := by
  have htwice : (toggle entries (toggle entries s ref).1 ref).1 =
      Ordered.set (toggle entries s ref).1 (.str e.id)
        (.default (.str e.id) (!(toggle entries s ref).1.includes e.id)) :=
    choose_found h _
  rw [htwice, Selections.effective_set_self, includes_toggle h, Bool.not_not]

/-- **What choosing leaves alone.** Without an entry nothing changes.  With one, the selections of
the others stay, and the entry is included as was chosen; its title and description are kept exactly
if it has none, and toggling twice gives back what there was exactly if that says no more than
whether the entry is included. -/
theorem choosing_touches_flag_iff (entries : List Entry) (s : Selections) (ref : String) :
    (find? entries ref = none → ∀ t ∈ edits entries s ref, t = s) ∧
    ∀ e, find? entries ref = some e →
      (∀ t ∈ edits entries s ref, ∀ k, k ≠ .str e.id → Ordered.get? t k = Ordered.get? s k) ∧
      (toggle entries s ref).1.includes e.id = !s.includes e.id ∧
      (∀ b, (set entries s ref b).1.includes e.id = b) ∧
      ((∀ t ∈ edits entries s ref, (t.effective (.str e.id)).title =
        (s.effective (.str e.id)).title ∧
        (t.effective (.str e.id)).description = (s.effective (.str e.id)).description) ↔
          (s.effective (.str e.id)).Bare) ∧
      ((∀ k, (toggle entries (toggle entries s ref).1 ref).1.effective k = s.effective k) ↔
        ∃ b, s.effective (.str e.id) = .default (.str e.id) b) := by
  refine ⟨fun h t ht => eq_of_mem_edits h ht,
    fun e h => ⟨?_, includes_toggle h, includes_set h, ?_, ?_⟩⟩
  · intro t ht k hk
    obtain ⟨b, rfl⟩ := exists_of_mem_edits h ht
    exact Ordered.get?_set_str_of_ne hk s _
  · constructor
    · intro hkept
      obtain ⟨b, hb⟩ := exists_of_mem_edits h (t := (toggle entries s ref).1) List.mem_cons_self
      have htexts := hkept _ List.mem_cons_self
      rw [hb, Selections.effective_set_self] at htexts
      exact ⟨htexts.1.symm, htexts.2.symm⟩
    · rintro ⟨htitle, hdescription⟩ t ht
      obtain ⟨b, rfl⟩ := exists_of_mem_edits h ht
      rw [Selections.effective_set_self, htitle, hdescription]
      exact ⟨rfl, rfl⟩
  · constructor
    · intro hsame
      exact ⟨_, (hsame (.str e.id)).symm.trans (effective_toggle_toggle h)⟩
    · rintro ⟨b, hb⟩ k
      by_cases hk : k = .str e.id
      · rw [hk, effective_toggle_toggle h, Selections.includes_eq, hb]
        rfl
      · rw [toggle, choose_found h, Selections.effective_set_of_ne _ _ hk, toggle, choose_found h,
          Selections.effective_set_of_ne _ _ hk]

/-- a function that a user gave a title of their own -/
def titledEntries : List Entry := [⟨⟨"0123456789ab", "f()", .function, 0, "api.py", 1, none⟩, []⟩]

def titledSelections : Selections :=
  [(.str "0123456789ab", ⟨.str "0123456789ab", .bool true, .str "Start", .null⟩)]

/-- Toggling the entry once takes away its title, and toggling it once more does not bring the title
back. -/
theorem titledSelections_toggled :
    (find? titledEntries "1").map (·.id) = some "0123456789ab" ∧
    (titledSelections.effective (.str "0123456789ab")).title = .str "Start" ∧
    ((toggle titledEntries titledSelections "1").1.effective (.str "0123456789ab")).title = .null ∧
    (toggle titledEntries (toggle titledEntries titledSelections "1").1 "1").1.effective
      (.str "0123456789ab") ≠
      titledSelections.effective (.str "0123456789ab") := by
  refine ⟨rfl, rfl, rfl, fun h => ?_⟩
  have htitle : Data.null = .str "Start" := congrArg Selection.title h
  cases htitle

end Chooser

end Apidoc
