/-!
# Runs with a state and a fault

Actions on the disk, exchanges with the service and programs are all run from a state to a result or
a fault, and to the state that is left.

* `Run.bind_ok`, `Run.bind_error`         how two steps are run, from how the first one ends;
* `Run.ok_of_bind`, `Run.error_of_bind`   how the first one ended, from how both did;
* `Run.bind_snd`                          the state that is left by two steps.
-/

namespace Apidoc.Run

variable {ε σ α β : Type} {x : ExceptT ε (StateM σ) α} {s t : σ}

theorem bind_ok {a : α} (h : x.run s = (.ok a, t)) (f : α → ExceptT ε (StateM σ) β) :
    (x >>= f).run s = (f a).run t := by
  show ExceptT.bindCont f (x.run s).1 (x.run s).2 = _
  rw [h]
  rfl

theorem bind_error {c : ε} (h : x.run s = (.error c, t)) (f : α → ExceptT ε (StateM σ) β) :
    (x >>= f).run s = (.error c, t) := by
  show ExceptT.bindCont f (x.run s).1 (x.run s).2 = _
  rw [h]
  rfl

variable {f : α → ExceptT ε (StateM σ) β}

theorem ok_of_bind {b : β} (h : (x >>= f).run s = (.ok b, t)) :
    ∃ a u, x.run s = (.ok a, u) ∧ (f a).run u = (.ok b, t) := by
  cases hx : x.run s with
  | mk r u =>
    cases r with
    | ok a => exact ⟨a, u, rfl, (bind_ok hx f).symm.trans h⟩
    | error c => cases (bind_error hx f).symm.trans h

theorem error_of_bind {c : ε} (h : (x >>= f).run s = (.error c, t)) :
    x.run s = (.error c, t) ∨ ∃ a u, x.run s = (.ok a, u) ∧ (f a).run u = (.error c, t) := by
  cases hx : x.run s with
  | mk r u =>
    cases r with
    | ok a => exact .inr ⟨a, u, rfl, (bind_ok hx f).symm.trans h⟩
    | error c' =>
      cases (bind_error hx f).symm.trans h
      exact .inl rfl

theorem bind_snd (x : ExceptT ε (StateM σ) α) (f : α → ExceptT ε (StateM σ) β) (s : σ) :
    ((x >>= f).run s).2 = (x.run s).2 ∨ ∃ a, x.run s = (.ok a, (x.run s).2) ∧
      ((x >>= f).run s).2 = ((f a).run (x.run s).2).2 := by
  cases hx : x.run s with
  | mk r u =>
    cases r with
    | ok a => exact .inr ⟨a, rfl, by rw [bind_ok hx]⟩
    | error c => exact .inl (by rw [bind_error hx])

theorem bind_congr {f' : α → ExceptT ε (StateM σ) β}
    (h : ∀ a u, x.run s = (.ok a, u) → (f a).run u = (f' a).run u) :
    (x >>= f).run s = (x >>= f').run s := by
  cases hx : x.run s with
  | mk r u =>
    cases r with
    | ok a => rw [bind_ok hx, bind_ok hx, h a u hx]
    | error c => rw [bind_error hx, bind_error hx]

end Apidoc.Run
