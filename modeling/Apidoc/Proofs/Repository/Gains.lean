import Apidoc.Proofs.Repository.Folders

/-!
# What comes to a disk

* `Disk.Gains P`       a change in which only such nodes are put in their places as `P` allows, and
                       no directory is lost;
* `Action.Looks`       an action that leaves the disk as it is;
* `Action.Gains P`     an action after which the disk has gained such nodes only, whatever becomes
                       of it;
* `Action.Fails P`     the same of the runs that fail.
-/

namespace Apidoc

namespace Disk

variable {P Q : List String → Node → Prop} {d e e' : Disk}

def file? (d : Disk) (q : List String) : Option Content :=
  match d.node? q with
  | some (.file c) => some c
  | _ => none

theorem file?_eq_some {q : List String} {c : Content} :
    d.file? q = some c ↔ d.node? q = some (.file c) := by
  unfold file?
  split
  · simp [*]
  · rename_i h
    exact ⟨nofun, fun hc => absurd hc (h c)⟩

/-- Nodes come one by one: a directory where nothing was, or a file that takes the place of no
directory. -/
inductive Gains (P : List String → Node → Prop) : Disk → Disk → Prop
  | refl (d : Disk) : Gains P d d
  | step {d e : Disk} {q : List String} {n : Node} (hP : P q n) (hfree : d.node? q ≠ some .folder)
      (hnew : n = .folder → d.node? q = none) (more : Gains P (d.put q n) e) : Gains P d e

namespace Gains

theorem trans (h : Gains P d e) (h' : Gains P e e') : Gains P d e' := by
  induction h with
  | refl d => exact h'
  | step hP hfree hnew _ ih => exact .step hP hfree hnew (ih h')

theorem mono (h : Gains P d e) (hPQ : ∀ q n, P q n → Q q n) : Gains Q d e := by
  induction h with
  | refl d => exact .refl d
  | step hP hfree hnew _ ih => exact .step (hPQ _ _ hP) hfree hnew ih

theorem keepsFolders (h : Gains P d e) : KeepsFolders d e := by
  induction h with
  | refl d => exact fun _ hq => hq
  | step _ hfree _ _ ih => exact fun r hr => ih r (KeepsFolders.of_put hfree _ r hr)

theorem same (h : Gains P d e) {q : List String} (hq : ∀ n, ¬ P q n) : e.node? q = d.node? q := by
  induction h with
  | refl d => rfl
  | step hP _ _ _ ih =>
    rw [ih, node?_put_of_ne]
    rintro rfl
    exact hq _ hP

theorem file?_eq (h : Gains P d e) {q : List String} (hq : ∀ c, ¬ P q (.file c)) :
    e.file? q = d.file? q := by
  induction h with
  | refl d => rfl
  | @step d e r n hP hfree hnew _ ih =>
    rw [ih]
    by_cases hr : r = q
    · subst hr
      cases n with
      | file c => exact absurd hP (hq c)
      | folder =>
        have hne : r ≠ [] := ne_nil_of_node?_none (hnew rfl)
        simp only [file?, node?_put_self d hne, hnew rfl]
    · simp only [file?, node?_put_of_ne d hr]

/-- What may not come was there before. -/
theorem before (h : Gains P d e) {q : List String} {n : Node} (hq : ¬ P q n)
    (he : e.node? q = some n) : d.node? q = some n := by
  induction h with
  | refl d => exact he
  | @step d e r n' hP hfree _ _ ih =>
    have hput := ih he
    by_cases hr : r = q
    · subst hr
      have hne : r ≠ [] := fun e => hfree (e ▸ node?_nil d)
      rw [node?_put_self d hne] at hput
      exact absurd (Option.some.inj hput ▸ hP) hq
    · rwa [node?_put_of_ne d hr] at hput

theorem of_write {p : Path} {text : String} (h : d.write p text = .ok e)
    (hP : ∀ q, d.locate p = .ok q → P q (.file (.text text))) : Gains P d e := by
  obtain ⟨q, hq, hfree, rfl⟩ := write_cases h
  exact .step (hP q hq) hfree nofun (.refl _)

/-- Directories come at places to which a part of the path leads. -/
theorem of_makeFrom {anchor : Anchor} {made rest : List String}
    (h : d.makeFrom anchor made rest = .ok e) (hP : ∀ r q (b : Disk), r <+: made ++ rest →
      b.locate ⟨anchor, r⟩ = .ok q → P q .folder) : Gains P d e := by
  induction rest generalizing d made with
  | nil =>
    cases h
    exact .refl _
  | cons p ps ih =>
    have happend : made ++ p :: ps = made ++ [p] ++ ps := by simp
    rw [happend] at hP
    obtain ⟨q, hq, ⟨_, h⟩ | ⟨hnone, h⟩⟩ := makeFrom_cases h
    · exact ih h hP
    · exact .step (hP _ q d (List.prefix_append _ ps) hq) (by rw [hnone]; nofun)
        (fun _ => hnone) (ih h hP)

theorem of_append {p : Path} {text : String} (h : d.append p text = .ok e)
    (hP : ∀ q t, d.locate p = .ok q → P q (.file (.text t))) : Gains P d e := by
  unfold append at h
  split at h
  · exact of_write h fun q hq => hP q _ hq
  · cases h
    exact .refl d
  · cases h

end Gains

end Disk

/-! ## actions -/

namespace Action

variable {α β : Type} {P : List String → Node → Prop} {d d' : Disk}

/-- The action leaves the disk as it is. -/
def Looks (x : Action α) : Prop := ∀ d, (x.run d).2 = d

/-- Whatever becomes of the action, the disk gains such nodes only. -/
def Gains (P : List String → Node → Prop) (x : Action α) : Prop := ∀ d : Disk, d.Gains P (x.run d).2

/-- If the action fails, the disk gains such nodes only. -/
def Fails (P : List String → Node → Prop) (x : Action α) : Prop :=
  ∀ (d : Disk) (c : Fault) (d' : Disk), x.run d = (.error c, d') → d.Gains P d'

/-! ### looking -/

theorem Looks.bind {x : Action α} {f : α → Action β} (hx : x.Looks) (hf : ∀ a, (f a).Looks) :
    (x >>= f).Looks := by
  intro d
  rcases Run.bind_snd x f d with h | ⟨a, _, h⟩
  · rw [h, hx d]
  · rw [h, hf a, hx d]

theorem looks_pure (a : α) : (pure a : Action α).Looks := fun _ => rfl

theorem looks_throw (c : Fault) : (throw c : Action α).Looks := fun _ => rfl

theorem looks_lift (x : Except Fault α) : (lift x).Looks := by
  cases x with
  | ok a => exact looks_pure a
  | error c => exact looks_throw c

theorem looks_ask (f : Disk → Except DiskFault α) : (ask f).Looks := by
  refine Looks.bind (fun _ => rfl) fun d => ?_
  split
  · exact looks_pure _
  · exact looks_throw _

theorem looks_exists (p : Path) : (exists? p).Looks := looks_ask _

theorem looks_readText (p : Path) : (readText p).Looks := by
  refine (looks_ask _).bind fun c => ?_
  split
  · exact looks_pure _
  · exact looks_throw _

theorem Looks.run_eq {x : Action α} (h : x.Looks) {r : Except Fault α} (hrun : x.run d = (r, d')) :
    d' = d := by
  rw [← h d, hrun]

/-! ### gaining -/

theorem Looks.gains {x : Action α} (h : x.Looks) : x.Gains P := by
  intro d
  rw [h d]
  exact .refl d

theorem Gains.bind {x : Action α} {f : α → Action β} (hx : x.Gains P) (hf : ∀ a, (f a).Gains P) :
    (x >>= f).Gains P := by
  intro d
  rcases Run.bind_snd x f d with h | ⟨a, _, h⟩
  · rw [h]
    exact hx d
  · rw [h]
    exact (hx d).trans (hf a _)

/-- A change that fails is none. -/
theorem run_change_cases (f : Disk → Except DiskFault Disk) (d : Disk) :
    (∃ c, f d = .error c ∧ (change f).run d = (.error (.disk c), d)) ∨
      ∃ e, f d = .ok e ∧ (change f).run d = (.ok (), e) := by
  cases hf : f d with
  | ok e => exact .inr ⟨e, rfl, run_change_ok hf⟩
  | error c =>
    refine .inl ⟨c, rfl, ?_⟩
    rw [change, Run.bind_ok (run_get d), hf]
    rfl

theorem gains_change {f : Disk → Except DiskFault Disk} (h : ∀ d e, f d = .ok e → d.Gains P e) :
    (change f).Gains P := by
  intro d
  obtain ⟨c, _, hrun⟩ | ⟨e, he, hrun⟩ := run_change_cases f d
  · rw [hrun]
    exact .refl d
  · rw [hrun]
    exact h d e he

/-! ### failing -/

theorem Gains.fails {x : Action α} (h : x.Gains P) : x.Fails P := by
  intro d c d' hrun
  have hd := h d
  rwa [hrun] at hd

theorem fails_change (f : Disk → Except DiskFault Disk) : (change f).Fails P := by
  intro d c d' hrun
  obtain ⟨_, _, h⟩ | ⟨_, _, h⟩ := run_change_cases f d
  · rw [h] at hrun
    cases hrun
    exact .refl d
  · rw [h] at hrun
    cases hrun

/-- The second action has to fail so after such results only as the first one gives. -/
theorem Fails.bind {x : Action α} {f : α → Action β} (hx : x.Gains P)
    (hf : ∀ a, (∃ d e, x.run d = (.ok a, e)) → (f a).Fails P) : (x >>= f).Fails P := by
  intro d c d' hrun
  rcases Run.error_of_bind hrun with h | ⟨a, e, h, hrun⟩
  · exact hx.fails d c d' h
  · have hd := hx d
    rw [h] at hd
    exact hd.trans (hf a ⟨d, e, h⟩ e c d' hrun)

theorem Fails.map {x : Action α} (hx : x.Fails P) (f : α → β) : (f <$> x).Fails P := by
  intro d c d' hrun
  rw [← bind_pure_comp] at hrun
  rcases Run.error_of_bind hrun with h | ⟨a, e, _, h⟩
  · exact hx d c d' h
  · cases h

end Action

end Apidoc
