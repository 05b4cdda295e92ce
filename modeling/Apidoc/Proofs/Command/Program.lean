import Apidoc.Command.Program
import Apidoc.Proofs.Repository.Folders

/-!
# Runs of programs

* `Screen.shows`       whether an event can be shown;
* `Program.run_bind`   a run of two programs that succeeds is a run of one after a run of the other;
* `Program.Rests`      on some disk the program succeeds and leaves it as it is, whatever else is in
                       the world;
* `Program.Does`       on some disk the program ends as an action does;
* `Program.Agree`      on some disks two programs end alike;
* `Program.Stays`      the program does not end with an exit code;
* `Program.Leaves`       the program leaves a part of the world as it is;
* `Program.LeavesInput`   the program takes no lines of input.

What a program shows depends on nothing that it changes.  So what could be shown once can be shown
again (`Program.emit_cases`).
-/

namespace Apidoc

/-- Whether an event can be shown: on a plain screen it needs a text. -/
def Screen.shows (screen : Screen) (e : Event) : Bool := screen == .recorded || e.text?.isSome

theorem Screen.shows_of_text {e : Event} (h : e.text?.isSome = true) (screen : Screen) :
    screen.shows e = true := by
  rw [shows, h, Bool.or_true]

namespace Program

variable {α β : Type} {s : Surroundings} {w w' : World} {d : Disk}

theorem run_bind {x : Program α} {f : α → Program β} {b : β}
    (h : ((x >>= f).run s).run w = (.ok b, w')) :
    ∃ a w₁, (x.run s).run w = (.ok a, w₁) ∧ ((f a).run s).run w₁ = (.ok b, w') :=
  Run.ok_of_bind (f := fun a => (f a).run s) h

theorem run_bind_ok {x : Program α} {a : α} {w₁ : World} (h : (x.run s).run w = (.ok a, w₁))
    (f : α → Program β) : ((x >>= f).run s).run w = ((f a).run s).run w₁ :=
  Run.bind_ok h fun a => (f a).run s

theorem run_bind_halt {x : Program α} {c : Halt} {w₁ : World} (h : (x.run s).run w = (.error c, w₁))
    (f : α → Program β) : ((x >>= f).run s).run w = (.error c, w₁) :=
  Run.bind_error h fun a => (f a).run s

theorem run_bind_error {x : Program α} {f : α → Program β} {c : Halt}
    (h : ((x >>= f).run s).run w = (.error c, w')) :
    (x.run s).run w = (.error c, w') ∨
      ∃ a w₁, (x.run s).run w = (.ok a, w₁) ∧ ((f a).run s).run w₁ = (.error c, w') :=
  Run.error_of_bind (f := fun a => (f a).run s) h

theorem run_bind_congr {x : Program α} {f f' : α → Program β}
    (h : ∀ a w₁, (x.run s).run w = (.ok a, w₁) → ((f a).run s).run w₁ = ((f' a).run s).run w₁) :
    ((x >>= f).run s).run w = ((x >>= f').run s).run w :=
  Run.bind_congr (f := fun a => (f a).run s) h

/-! ## changing nothing -/

/-- On the disk `d` the program gives `a` and changes nothing there. -/
def Rests (p : Program α) (s : Surroundings) (d : Disk) (a : α) : Prop :=
  ∀ w : World, w.disk = d → ∃ w' : World, (p.run s).run w = (.ok a, w') ∧ w'.disk = d

theorem Rests.bind {p : Program α} {f : α → Program β} {a : α} {b : β} (hp : p.Rests s d a)
    (hf : (f a).Rests s d b) : (p >>= f).Rests s d b := by
  intro w hw
  obtain ⟨w₁, hrun, hw₁⟩ := hp w hw
  obtain ⟨w₂, hrun', hw₂⟩ := hf w₁ hw₁
  exact ⟨w₂, (run_bind_ok hrun f).trans hrun', hw₂⟩

theorem rests_pure (a : α) : (pure a : Program α).Rests s d a := fun w hw => ⟨w, rfl, hw⟩

theorem rests_read : (read : Program Surroundings).Rests s d s := fun w hw => ⟨w, rfl, hw⟩

/-! ## showing -/

/-- An event is put on the screen as one thing, or it cannot be shown on a plain screen at all. -/
theorem run_emit (s : Surroundings) (e : Event) :
    (∃ x, ∀ w, ((emit e).run s).run w = ((put x).run s).run w) ∨
      (s.screen = .plain ∧ e.text? = none) ∧ ∀ w, ((emit e).run s).run w =
        (.error (.fault .badStyle), w) := by
  have hread (w : World) : ((read : Program Surroundings).run s).run w = (.ok s, w) := rfl
  cases hscreen : s.screen with
  | recorded => exact .inl ⟨.event e, fun w => by rw [emit, run_bind_ok (hread w), hscreen]⟩
  | plain =>
    cases htext : e.text? with
    | some text =>
      exact .inl ⟨.out text, fun w => by rw [emit, run_bind_ok (hread w), hscreen, htext]; rfl⟩
    | none =>
      exact .inr ⟨⟨rfl, rfl⟩, fun w => by rw [emit, run_bind_ok (hread w), hscreen, htext]; rfl⟩

theorem emit_cases {e : Event} (h : ((emit e).run s).run w = (.ok (), w')) :
    w'.disk = w.disk ∧ ∀ d, (emit e).Rests s d () := by
  rcases run_emit s e with ⟨x, hput⟩ | ⟨hplain, hfails⟩
  · rw [hput] at h
    cases h
    exact ⟨rfl, fun d w hw => ⟨_, hput w, hw⟩⟩
  · cases (hfails w).symm.trans h

theorem rests_emit_shows {e : Event} (h : s.screen.shows e = true) (d : Disk) :
    (emit e).Rests s d () := by
  rcases run_emit s e with ⟨x, hput⟩ | ⟨⟨hplain, hnone⟩, _⟩
  · exact fun w hw => ⟨{ w with shown := w.shown ++ [x] }, hput w, hw⟩
  · rw [Screen.shows, hplain, hnone] at h
    cases h

theorem rests_emit_text {e : Event} (h : e.text?.isSome) (s : Surroundings) (d : Disk) :
    (emit e).Rests s d () :=
  rests_emit_shows (Screen.shows_of_text h s.screen) d

/-! ## working -/

theorem run_attempt (x : Action α) (s : Surroundings) (w : World) :
    ((attempt x).run s).run w = (.ok (x.run w.disk).1, { w with disk := (x.run w.disk).2 }) := rfl

theorem run_act {x : Action α} {r : Except Fault α} {d : Disk} (h : x.run w.disk = (r, d)) :
    ((act x).run s).run w = (r.mapError .fault, { w with disk := d }) := by
  rw [act, run_bind_ok (run_attempt x s w), h]
  cases r <;> rfl

theorem act_cases {x : Action α} {a : α} (h : ((act x).run s).run w = (.ok a, w')) :
    x.run w.disk = (.ok a, w'.disk) := by
  cases hx : x.run w.disk with
  | mk r d =>
    cases r with
    | ok b =>
      cases (run_act hx).symm.trans h
      rfl
    | error c => cases (run_act hx).symm.trans h

theorem rests_act {x : Action α} {a : α} (h : x.run d = (.ok a, d)) : (act x).Rests s d a := by
  rintro w rfl
  exact ⟨_, run_act h, rfl⟩

theorem run_talk (x : Exchange α) (s : Surroundings) (w : World) :
    ((talk x).run s).run w = ((x.run w.requests).1.mapError .fault,
      { w with requests := (x.run w.requests).2 }) := by
  rw [talk, run_bind_ok (x := get) (a := w) rfl]
  cases hx : x.run w.requests with
  | mk r log =>
    rw [run_bind_ok (x := set _) (a := ()) rfl]
    cases r <;> rfl

theorem talk_cases {x : Exchange α} {a : α} (h : ((talk x).run s).run w = (.ok a, w')) :
    x.run w.requests = (.ok a, w'.requests) := by
  rw [run_talk] at h
  cases hx : x.run w.requests with
  | mk r log =>
    rw [hx] at h
    cases r with
    | ok b =>
      cases h
      rfl
    | error c => cases h

theorem resolve_cases {text : String} {p : Path} (h : ((resolve text).run s).run w = (.ok p, w')) :
    w' = w ∧ p = (Path.ofText text).resolve w.disk.home := by
  cases h
  exact ⟨rfl, rfl⟩

theorem rests_resolve (text : String) (d : Disk) :
    (resolve text).Rests s d ((Path.ofText text).resolve d.home) := by
  rintro w rfl
  exact ⟨w, rfl, rfl⟩

theorem run_modulesOf (repo : Path) (includePrivate : Bool) (s : Surroundings) (w : World) :
    ∃ w' : World, w'.disk = w.disk ∧ ((modulesOf repo includePrivate).run s).run w =
      ((survey w.disk repo ⟨includePrivate, false, []⟩).modules.mapError
        (fun f => .fault f.toFault), w') := by
  refine ⟨{ w with malformed := w.malformed ++
    (survey w.disk repo ⟨includePrivate, false, []⟩).malformed }, rfl, ?_⟩
  rw [modulesOf, run_bind_ok (x := get) (a := w) rfl]
  rw [run_bind_ok (x := set _) (a := ()) rfl]
  cases (survey w.disk repo ⟨includePrivate, false, []⟩).modules <;> rfl

theorem modulesOf_cases {repo : Path} {includePrivate : Bool} {ms : List ModuleDoc}
    (h : ((modulesOf repo includePrivate).run s).run w = (.ok ms, w')) :
    w'.disk = w.disk ∧ (survey w.disk repo ⟨includePrivate, false, []⟩).modules = .ok ms := by
  obtain ⟨w₁, hw₁, hrun⟩ := run_modulesOf repo includePrivate s w
  cases hms : (survey w.disk repo ⟨includePrivate, false, []⟩).modules with
  | ok ms' =>
    rw [hms] at hrun
    cases hrun.symm.trans h
    exact ⟨hw₁, rfl⟩
  | error f =>
    rw [hms] at hrun
    cases hrun.symm.trans h

theorem rests_modulesOf {repo : Path} {includePrivate : Bool} {ms : List ModuleDoc}
    (h : (survey d repo ⟨includePrivate, false, []⟩).modules = .ok ms) :
    (modulesOf repo includePrivate).Rests s d ms := by
  rintro w rfl
  obtain ⟨w', hw', hrun⟩ := run_modulesOf repo includePrivate s w
  rw [h] at hrun
  exact ⟨w', hrun, hw'⟩

/-! ## exit codes -/

/-- The program does not end with an exit code. -/
def Stays (p : Program α) (s : Surroundings) : Prop :=
  ∀ (w : World) (code : Nat) (w' : World), (p.run s).run w ≠ (.error (.exit code), w')

theorem Stays.bind {p : Program α} {f : α → Program β} (hp : p.Stays s) (hf : ∀ a, (f a).Stays s) :
    (p >>= f).Stays s := by
  intro w code w' h
  cases hx : (p.run s).run w with
  | mk r w₁ =>
    cases r with
    | ok a => exact hf a w₁ code w' ((run_bind_ok hx f).symm.trans h)
    | error c =>
      change ExceptT.bindCont (fun a => (f a).run s) ((p.run s).run w).1
        ((p.run s).run w).2 = _ at h
      rw [hx] at h
      cases h
      exact hp w code _ hx

theorem stays_pure (a : α) : (pure a : Program α).Stays s := fun _ _ _ h => by cases h

theorem stays_read : (read : Program Surroundings).Stays s := fun _ _ _ h => by cases h

theorem stays_emit (e : Event) : (emit e).Stays s := by
  intro w code w' h
  rcases run_emit s e with ⟨x, hput⟩ | ⟨hplain, hfails⟩
  · cases (hput w).symm.trans h
  · cases (hfails w).symm.trans h

theorem stays_act (x : Action α) : (act x).Stays s := by
  intro w code w' h
  cases hx : x.run w.disk with
  | mk r d => cases r <;> cases (run_act hx).symm.trans h

theorem stays_attempt (x : Action α) : (attempt x).Stays s :=
  fun w _ _ h => by cases (run_attempt x s w).symm.trans h

theorem stays_talk (x : Exchange α) : (talk x).Stays s := by
  intro w code w' h
  rw [run_talk] at h
  cases hx : (x.run w.requests).1 <;>
    · rw [hx] at h
      cases h

theorem stays_fail (f : Fault) : (fail f : Program α).Stays s := fun _ _ _ h => by cases h

theorem stays_resolve (text : String) : (resolve text).Stays s := fun _ _ _ h => by cases h

theorem stays_modulesOf (repo : Path) (includePrivate : Bool) :
    (modulesOf repo includePrivate).Stays s := by
  intro w code w' h
  obtain ⟨w₁, _, hrun⟩ := run_modulesOf repo includePrivate s w
  cases hms : (survey w.disk repo ⟨includePrivate, false, []⟩).modules <;>
    · rw [hms] at hrun
      cases hrun.symm.trans h

/-! ## actions behind a program -/

/-- On the disk `d` the program ends as the action does and leaves the same disk, unless there is
something that a plain screen cannot show. -/
def Does (p : Program α) (s : Surroundings) (d : Disk) (x : Action α) : Prop :=
  ∀ w : World, w.disk = d →
    (∃ w' : World, (p.run s).run w = ((x.run d).1.mapError .fault, w') ∧ w'.disk = (x.run d).2) ∨
    s.screen = .plain ∧ ∃ w' : World, (p.run s).run w = (.error (.fault .badStyle), w')

theorem Does.bind {p : Program α} {f : α → Program β} {x : Action α} {y : α → Action β}
    (hp : p.Does s d x) (hf : ∀ a e, x.run d = (.ok a, e) → (f a).Does s e (y a)) :
    (p >>= f).Does s d (x >>= y) := by
  intro w hw
  rcases hp w hw with ⟨w₁, hrun, hw₁⟩ | ⟨hplain, w₁, hrun⟩
  · cases hx : x.run d with
    | mk r e =>
      rw [hx] at hrun hw₁
      cases r with
      | ok a =>
        rw [run_bind_ok hrun, Run.bind_ok hx]
        exact hf a e hx w₁ hw₁
      | error c =>
        have hxy : (x >>= y).run d = (.error c, e) := by
          show ExceptT.bindCont y (x.run d).1 (x.run d).2 = _
          rw [hx]
          rfl
        rw [hxy]
        exact .inl ⟨w₁, run_bind_halt hrun f, hw₁⟩
  · exact .inr ⟨hplain, w₁, run_bind_halt hrun f⟩

theorem Does.after {p : Program α} {f : α → Program β} {a : α} {y : Action β}
    (hp : p.Does s d (pure a)) (hf : (f a).Does s d y) : (p >>= f).Does s d y := by
  refine hp.bind (y := fun _ => y) fun b e h => ?_
  cases h
  exact hf

theorem Does.before {p : Program Unit} {f : Unit → Program Unit} {x : Action Unit}
    (hp : p.Does s d x) (hf : ∀ e, (f ()).Does s e (pure ())) : (p >>= f).Does s d x := by
  have hdoes := hp.bind (f := f) (y := pure) fun _ e _ => hf e
  rwa [bind_pure] at hdoes

theorem Does.of_rests {p : Program α} {a : α} (h : p.Rests s d a) : p.Does s d (pure a) :=
  fun w hw => .inl (h w hw)

theorem Does.cases {p : Program α} {x : Action α} {a : α} (h : p.Does s w.disk x)
    (hrun : (p.run s).run w = (.ok a, w')) : x.run w.disk = (.ok a, w'.disk) := by
  rcases h w rfl with ⟨w₁, hdoes, hw₁⟩ | ⟨_, w₁, hfails⟩
  · cases hx : x.run w.disk with
    | mk r d =>
      rw [hx] at hdoes hw₁
      cases r with
      | ok b =>
        cases hdoes.symm.trans hrun
        rw [hw₁]
      | error c => cases hdoes.symm.trans hrun
  · cases hfails.symm.trans hrun

theorem Stays.of_does {p : Program α} {x : Action α} (h : ∀ d, p.Does s d x) : p.Stays s := by
  intro w code w' hrun
  rcases h w.disk w rfl with ⟨w₁, hdoes, _⟩ | ⟨_, w₁, hfails⟩
  · cases hx : (x.run w.disk).1 with
    | ok a =>
      rw [hx] at hdoes
      cases hdoes.symm.trans hrun
    | error c =>
      rw [hx] at hdoes
      cases hdoes.symm.trans hrun
  · cases hfails.symm.trans hrun

theorem does_act (x : Action α) : (act x).Does s d x := by
  rintro w rfl
  exact .inl ⟨_, run_act rfl, rfl⟩

theorem does_emit (e : Event) : (emit e).Does s d (pure ()) := by
  intro w hw
  rcases run_emit s e with ⟨x, hput⟩ | ⟨hplain, hfails⟩
  · exact .inl ⟨{ w with shown := w.shown ++ [x] }, hput w, hw⟩
  · exact .inr ⟨hplain.1, w, hfails w⟩

/-! ## two programs -/

/-- On the disks `d` and `d'` the programs come to the same result, and to disks that `E` relates.
-/
def Agree (p q : Program α) (s : Surroundings) (d d' : Disk) (E : Disk → Disk → Prop) : Prop :=
  ∀ w w' : World, w.disk = d → w'.disk = d' → ∃ (r : Except Halt α) (w₁ w₁' : World),
    (p.run s).run w = (r, w₁) ∧ (q.run s).run w' = (r, w₁') ∧ E w₁.disk w₁'.disk

section

variable {d' : Disk} {E : Disk → Disk → Prop}

theorem Agree.bind {E₁ : Disk → Disk → Prop} {p q : Program α} {f f' : α → Program β}
    (hpq : p.Agree q s d d' E₁) (hE : ∀ e e', E₁ e e' → E e e')
    (hf : ∀ a w w', (p.run s).run w = (.ok a, w') → w.disk = d → ∀ e, E₁ w'.disk e →
      (f a).Agree (f' a) s w'.disk e E) :
    (p >>= f).Agree (q >>= f') s d d' E := by
  intro w w' hw hw'
  obtain ⟨r, w₁, w₁', hp, hq, hends⟩ := hpq w w' hw hw'
  cases r with
  | ok a =>
    rw [run_bind_ok hp, run_bind_ok hq]
    exact hf a w w₁ hp hw w₁'.disk hends w₁ w₁' rfl rfl
  | error c => exact ⟨.error c, w₁, w₁', run_bind_halt hp f, run_bind_halt hq f', hE _ _ hends⟩

theorem Agree.after {γ : Type} {p : Program α} {q : Program γ} {f : α → Program β}
    {f' : γ → Program β} {a : α} {c : γ} (hp : p.Rests s d a) (hq : q.Rests s d' c)
    (hf : (f a).Agree (f' c) s d d' E) : (p >>= f).Agree (q >>= f') s d d' E := by
  intro w w' hw hw'
  obtain ⟨w₁, hrun, hw₁⟩ := hp w hw
  obtain ⟨w₁', hrun', hw₁'⟩ := hq w' hw'
  rw [run_bind_ok hrun, run_bind_ok hrun']
  exact hf w₁ w₁' hw₁ hw₁'

theorem agree_emit (e : Event) (hE : E d d') : (emit e).Agree (emit e) s d d' E := by
  rintro w w' rfl rfl
  rcases run_emit s e with ⟨x, hput⟩ | ⟨hplain, hfails⟩
  · exact ⟨.ok (), _, _, hput w, hput w', hE⟩
  · exact ⟨_, w, w', hfails w, hfails w', hE⟩

theorem Agree.emit {e : Event} {f f' : Unit → Program β} (hE : E d d')
    (hf : (f ()).Agree (f' ()) s d d' E) : (emit e >>= f).Agree (emit e >>= f') s d d' E := by
  rintro w w' rfl rfl
  rcases run_emit s e with ⟨x, hput⟩ | ⟨hplain, hfails⟩
  · rw [run_bind_ok (hput w), run_bind_ok (hput w')]
    exact hf _ _ rfl rfl
  · exact ⟨_, w, w', run_bind_halt (hfails w) f, run_bind_halt (hfails w') f', hE⟩

theorem agree_modulesOf (repo : Path) (includePrivate : Bool) (d : Disk) :
    (modulesOf repo includePrivate).Agree (modulesOf repo includePrivate) s d d Eq := by
  intro w w' hw hw'
  obtain ⟨w₁, hw₁, hrun⟩ := run_modulesOf repo includePrivate s w
  obtain ⟨w₁', hw₁', hrun'⟩ := run_modulesOf repo includePrivate s w'
  rw [hw'] at hrun' hw₁'
  rw [hw] at hrun hw₁
  exact ⟨_, w₁, w₁', hrun, hrun', hw₁.trans hw₁'.symm⟩

theorem agree_act {x y : Action α} {r : Except Fault α} {e e' : Disk} (hx : x.run d = (r, e))
    (hy : y.run d' = (r, e')) (hE : E e e') : (act x).Agree (act y) s d d' E := by
  rintro w w' rfl rfl
  exact ⟨_, _, _, run_act hx, run_act hy, hE⟩

end

/-! ## what is left -/

/-- The program leaves a part of the world as it is. -/
def Leaves {γ : Type} (p : Program α) (s : Surroundings) (f : World → γ) : Prop :=
  ∀ w : World, f ((p.run s).run w).2 = f w

section

variable {γ : Type} {f : World → γ}

theorem Leaves.of_run {p : Program α} (h : p.Leaves s f) {r : Except Halt α}
    (hrun : (p.run s).run w = (r, w')) : f w' = f w := by
  have hw := h w
  rw [hrun] at hw
  exact hw

theorem Leaves.bind {p : Program α} {q : α → Program β} (hp : p.Leaves s f)
    (hq : ∀ a, (q a).Leaves s f) : (p >>= q).Leaves s f := by
  intro w
  cases hx : (p.run s).run w with
  | mk r w₁ =>
    cases r with
    | ok a => rw [run_bind_ok hx, hq a w₁, hp.of_run hx]
    | error c => rw [run_bind_halt hx, hp.of_run hx]

theorem leaves_pure (a : α) : (pure a : Program α).Leaves s f := fun _ => rfl

theorem leaves_fail (c : Fault) : (fail c : Program α).Leaves s f := fun _ => rfl

theorem leaves_resolve (text : String) : (resolve text).Leaves s f := fun _ => rfl

theorem leaves_emit (hf : ∀ w x, f { w with shown := x } = f w) (e : Event) :
    (emit e).Leaves s f := by
  intro w
  rcases run_emit s e with ⟨x, hput⟩ | ⟨hplain, hfails⟩
  · rw [hput]
    exact hf w _
  · rw [hfails]

theorem leaves_act (hf : ∀ w d, f { w with disk := d } = f w) (x : Action α) :
    (act x).Leaves s f := by
  intro w
  rw [run_act (w := w) (x := x) rfl]
  exact hf w _

theorem leaves_talk (hf : ∀ w log, f { w with requests := log } = f w) (x : Exchange α) :
    (talk x).Leaves s f := by
  intro w
  rw [run_talk]
  exact hf w _

theorem leaves_modulesOf (hf : ∀ w x, f { w with malformed := x } = f w) (repo : Path)
    (includePrivate : Bool) : (modulesOf repo includePrivate).Leaves s f := by
  intro w
  rw [modulesOf, run_bind_ok (x := get) (a := w) rfl, run_bind_ok (x := set _) (a := ()) rfl]
  cases (survey w.disk repo ⟨includePrivate, false, []⟩).modules <;> exact hf w _

end

def LeavesInput (p : Program α) (s : Surroundings) : Prop :=
  ∀ w : World, ((p.run s).run w).2.input = w.input

theorem LeavesInput.of_run {p : Program α} (h : p.LeavesInput s) {r : Except Halt α}
    (hrun : (p.run s).run w = (r, w')) :
    w'.input = w.input := Leaves.of_run (f := World.input) h hrun

end Program

end Apidoc
