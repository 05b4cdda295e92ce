import Mathlib.Data.List.Forall2

/-!
# Results

What is known of a computation that may end with a fault, once it gave a result.

* `mapM_eq_ok`, `filterMap_of_mapM`   the results for the elements of a list;
* `foldlM_keeps`, `foldlM_in_step`    what is kept along a list, and two ways along it.
-/

namespace Apidoc

variable {ε ε' α β σ τ : Type}

theorem bind_eq_ok {x : Except ε α} {f : α → Except ε β} {b : β} :
    x >>= f = .ok b ↔ ∃ a, x = .ok a ∧ f a = .ok b := by
  cases x with
  | error e => exact ⟨nofun, nofun⟩
  | ok a => exact ⟨fun h => ⟨a, rfl, h⟩, fun ⟨a', ha, h⟩ => by cases ha; exact h⟩

theorem exists_of_isOk {x : Except ε α} (h : x.isOk) : ∃ a, x = .ok a := by
  cases x with
  | error e => cases h
  | ok a => exact ⟨a, rfl⟩

theorem ok_of_mapError {x : Except ε α} {f : ε → ε'} {a : α} (h : x.mapError f = .ok a) :
    x = .ok a := by
  cases x with
  | error e => cases h
  | ok b => exact congrArg Except.ok (Except.ok.inj h)

theorem ok_of_map {x : Except ε α} {f : α → β} {b : β} (h : x.map f = .ok b) :
    ∃ a, x = .ok a ∧ f a = b := by
  cases x with
  | error e => cases h
  | ok a => exact ⟨a, rfl, Except.ok.inj h⟩

/-! ## lists -/

theorem mapM_eq_ok {f : α → Except ε β} {xs : List α} {ys : List β} :
    xs.mapM f = .ok ys ↔ List.Forall₂ (fun x y => f x = .ok y) xs ys := by
  induction xs generalizing ys with
  | nil =>
    rw [List.mapM_nil, List.forall₂_nil_left_iff]
    exact ⟨fun h => (Except.ok.inj h).symm, fun h => h ▸ rfl⟩
  | cons x xs ih =>
    rw [List.mapM_cons, List.forall₂_cons_left_iff]
    constructor
    · intro h
      obtain ⟨y, hy, h⟩ := bind_eq_ok.1 h
      obtain ⟨zs, hzs, h⟩ := bind_eq_ok.1 h
      exact ⟨y, zs, hy, ih.1 hzs, (Except.ok.inj h).symm⟩
    · rintro ⟨y, zs, hy, hzs, rfl⟩
      exact bind_eq_ok.2 ⟨y, hy, bind_eq_ok.2 ⟨zs, ih.2 hzs, rfl⟩⟩

theorem filterMap_of_mapM {f : α → Option β} {xs : List α} {ys : List β} (h : xs.mapM f = some ys) :
    xs.filterMap f = ys := by
  induction xs generalizing ys with
  | nil =>
    cases h
    rfl
  | cons x xs ih =>
    rw [List.mapM_cons] at h
    obtain ⟨y, hy, h⟩ := Option.bind_eq_some_iff.1 h
    obtain ⟨zs, hzs, h⟩ := Option.bind_eq_some_iff.1 h
    cases h
    rw [List.filterMap_cons_some hy, ih hzs]

/-- What each step keeps holds after all of them; a step may use that it goes on from a start of the
list. -/
theorem foldlM_keeps {f : σ → α → Except ε σ} {P : List α → σ → Prop} {l : List α}
    (step : ∀ {done x a b}, done ++ [x] <+: l → P done a → f a x = .ok b → P (done ++ [x]) b)
    {a b : σ} (start : P [] a) (h : l.foldlM f a = .ok b) : P l b := by
  -- what is done grows at its end, so the fold is followed over every split of the list
  suffices key : ∀ rest done a, done ++ rest = l → P done a → rest.foldlM f a = .ok b → P l b from
    key l [] a rfl start h
  intro rest
  induction rest with
  | nil =>
    intro done a hl hP h
    cases h
    rwa [← hl, List.append_nil]
  | cons x rest ih =>
    intro done a hl hP h
    rw [List.foldlM_cons, bind_eq_ok] at h
    obtain ⟨a', hx, h⟩ := h
    have hl' : done ++ [x] ++ rest = l := by rw [List.append_assoc]; exact hl
    exact ih (done ++ [x]) a' hl' (step ⟨rest, hl'⟩ hP hx) h

/-- Two folds in step: what one comes to is seen in what the other comes to. -/
theorem foldlM_in_step {f : σ → α → Except ε σ} {g : τ → α → Except ε τ} {v : σ → τ}
    (step : ∀ {a x b}, f a x = .ok b → g (v a) x = .ok (v b)) {xs : List α} {a b : σ}
    (h : xs.foldlM f a = .ok b) : xs.foldlM g (v a) = .ok (v b) := by
  induction xs generalizing a with
  | nil =>
    cases h
    rfl
  | cons x xs ih =>
    rw [List.foldlM_cons, bind_eq_ok] at h ⊢
    obtain ⟨a', hx, h⟩ := h
    exact ⟨v a', step hx, ih h⟩

end Apidoc
