import Apidoc.Proofs.Repository.Gains
import Apidoc.Proofs.Repository.Outcome
import Mathlib.Data.List.Forall2

/-!
# Writing again what is there

* `Disk.Has`             all that the disk has at a place is one node;
* `Disk.Has.put_eq`      putting it there again changes nothing;
* `Disk.putAll_putAll`   nor does putting many nodes in their places again, though some of them
                         share a place;
* `Disk.putAll_congr`    of nodes that share a place only the last one counts;
* `Action.Alike`         an action that looks at two disks and finds the same;
* `Disk.Gains.survey_eq` what comes to a disk besides modules does not change a survey.
-/

namespace Apidoc

namespace Disk

variable {P : List String → Node → Prop} {d e : Disk} {q : List String} {n : Node}

theorem mem_put {m : List String × Node} :
    m ∈ (d.put q n).nodes ↔ m = (q, n) ∨ m ∈ d.nodes ∧ m.1 ≠ q := by
  unfold put
  split
  case isTrue h =>
    obtain ⟨a, ha, haq⟩ := List.any_eq_true.mp h
    simp only [List.mem_map]
    constructor
    · rintro ⟨b, hb, rfl⟩
      split
      · exact .inl rfl
      · exact .inr ⟨hb, fun e => ‹¬ _› (beq_iff_eq.mpr e)⟩
    · rintro (rfl | ⟨hm, hne⟩)
      · exact ⟨a, ha, if_pos haq⟩
      · exact ⟨m, hm, if_neg (by simpa using hne)⟩
  case isFalse h =>
    have hnew (m : List String × Node) (hm : m ∈ d.nodes) : m.1 ≠ q := by
      intro hq
      exact h (List.any_eq_true.mpr ⟨m, hm, by simpa using hq⟩)
    rw [List.mem_append, List.mem_singleton]
    exact ⟨fun hm => hm.elim (fun hm => .inr ⟨hm, hnew m hm⟩) .inl,
      fun hm => hm.elim .inr fun hm => .inl hm.1⟩

theorem names_put (d : Disk) (q : List String) (n : Node) :
    (d.put q n).nodes.map (·.1) =
      if d.nodes.any fun m => m.1 == q then d.nodes.map (·.1) else d.nodes.map (·.1) ++ [q] := by
  unfold put
  split
  · rw [List.map_map]
    refine List.map_congr_left fun m _ => ?_
    rw [Function.comp_apply]
    split
    · exact (beq_iff_eq.mp ‹_›).symm
    · rfl
  · rw [List.map_append]
    rfl

/-! ## one node -/

/-- All that the disk has at a place is `n`. -/
structure Has (d : Disk) (q : List String) (n : Node) : Prop where
  there : ∃ m ∈ d.nodes, m.1 = q
  only : ∀ m ∈ d.nodes, m.1 = q → m.2 = n

theorem has_put (d : Disk) (q : List String) (n : Node) : (d.put q n).Has q n := by
  refine ⟨⟨(q, n), mem_put.mpr (.inl rfl), rfl⟩, fun m hm hq => ?_⟩
  rcases mem_put.mp hm with rfl | ⟨_, hne⟩
  · rfl
  · exact absurd hq hne

namespace Has

theorem put_eq (h : d.Has q n) : d.put q n = d := by
  obtain ⟨a, ha, haq⟩ := h.there
  have hany : (d.nodes.any fun m => m.1 == q) = true :=
    List.any_eq_true.mpr ⟨a, ha, by simpa using haq⟩
  have hmap : (d.nodes.map fun m => if m.1 == q then (q, n) else m) = d.nodes := by
    conv_rhs => rw [← List.map_id d.nodes]
    refine List.map_congr_left fun m hm => ?_
    by_cases hq : m.1 = q
    · rw [if_pos (beq_iff_eq.mpr hq)]
      exact Prod.ext hq.symm (h.only m hm hq).symm
    · exact if_neg (by simpa using hq)
  rw [put, if_pos hany, hmap]

theorem put_of_ne (h : d.Has q n) {r : List String} (hr : r ≠ q) (k : Node) :
    (d.put r k).Has q n := by
  obtain ⟨a, ha, haq⟩ := h.there
  refine ⟨⟨a, mem_put.mpr (.inr ⟨ha, fun e => hr (e.symm.trans haq)⟩), haq⟩, fun m hm hq => ?_⟩
  rcases mem_put.mp hm with rfl | ⟨hm, _⟩
  · exact absurd hq hr
  · exact h.only m hm hq

theorem node?_eq (h : d.Has q n) (hq : q ≠ []) : d.node? q = some n := by
  rw [← h.put_eq]
  exact node?_put_self d hq n

theorem of_gains (h : d.Has q n) (hd : d.Gains P e) (hq : ∀ k, ¬ P q k) : e.Has q n := by
  induction hd with
  | refl d => exact h
  | step hP _ _ _ ih => exact ih (h.put_of_ne (fun e => hq _ (e ▸ hP)) _)

theorem write_eq {p : Path} {text : String} (h : d.Has q (.file (.text text)))
    (hp : d.locate p = .ok q) (hq : q ≠ []) : d.write p text = .ok d := by
  have hfree : d.node? q ≠ some .folder := by
    rw [h.node?_eq hq]
    nofun
  rw [write_ok hp hfree, h.put_eq]

end Has

/-! ## many nodes -/

def putAll (d : Disk) (ps : List (List String × Node)) : Disk :=
  ps.foldl (fun d p => d.put p.1 p.2) d

def lastPut (ps : List (List String × Node)) (q : List String) : Option Node := ps.reverse.lookup q

theorem lastPut_cons (p : List String × Node) (ps : List (List String × Node)) (q : List String) :
    lastPut (p :: ps) q = (lastPut ps q).or (if q = p.1 then some p.2 else none) := by
  rw [lastPut, List.reverse_cons, List.lookup_append, lastPut, List.lookup_cons]
  by_cases hq : q = p.1
  · simp [hq]
  · have hne : (q == p.1) = false := beq_eq_false_iff_ne.mpr hq
    simp [hq, hne]

/-- What has a place keeps it and becomes what is put there last. -/
theorem putAll_eq_map {ps : List (List String × Node)} (h : ∀ p ∈ ps, ∃ m ∈ d.nodes, m.1 = p.1) :
    d.putAll ps = { d with nodes := d.nodes.map fun m => (m.1, (lastPut ps m.1).getD m.2) } := by
  induction ps generalizing d with
  | nil =>
    have hsame : (d.nodes.map fun m => (m.1, (lastPut [] m.1).getD m.2)) = d.nodes :=
      List.map_id d.nodes
    rw [hsame]
    rfl
  | cons p ps ih =>
    rw [List.forall_mem_cons] at h
    obtain ⟨⟨a, ha, hap⟩, hps⟩ := h
    have hany : (d.nodes.any fun m => m.1 == p.1) = true :=
      List.any_eq_true.mpr ⟨a, ha, by simpa using hap⟩
    have hkept : ∀ r ∈ ps, ∃ m ∈ (d.put p.1 p.2).nodes, m.1 = r.1 := by
      intro r hr
      obtain ⟨m, hm, hmr⟩ := hps r hr
      by_cases hmp : m.1 = p.1
      · exact ⟨(p.1, p.2), mem_put.mpr (.inl rfl), hmp.symm.trans hmr⟩
      · exact ⟨m, mem_put.mpr (.inr ⟨hm, hmp⟩), hmr⟩
    show (d.put p.1 p.2).putAll ps = _
    rw [ih hkept, put, if_pos hany]
    simp only [List.map_map]
    refine congrArg (Disk.mk d.home) (List.map_congr_left fun m _ => ?_)
    rw [Function.comp_apply, lastPut_cons]
    by_cases hm : m.1 = p.1
    · simp only [hm, beq_self_eq_true, if_true]
      cases lastPut ps p.1 <;> rfl
    · simp only [beq_eq_false_iff_ne.mpr hm, Bool.false_eq_true, if_false, if_neg hm,
        Option.or_none]

theorem mem_putAll {ps : List (List String × Node)} {m : List String × Node}
    (h : m ∈ (d.putAll ps).nodes) :
    lastPut ps m.1 = some m.2 ∨ m ∈ d.nodes ∧ lastPut ps m.1 = none := by
  induction ps generalizing d with
  | nil => exact .inr ⟨h, rfl⟩
  | cons p ps ih =>
    rw [lastPut_cons]
    rcases ih h with hlast | ⟨hm, hnone⟩
    · rw [hlast]
      exact .inl rfl
    · rw [hnone, Option.none_or]
      rcases mem_put.mp hm with rfl | ⟨hm, hne⟩
      · exact .inl (if_pos rfl)
      · exact .inr ⟨hm, if_neg hne⟩

theorem exists_putAll {ps : List (List String × Node)} {q : List String}
    (h : (∃ m ∈ d.nodes, m.1 = q) ∨ ∃ p ∈ ps, p.1 = q) : ∃ m ∈ (d.putAll ps).nodes, m.1 = q := by
  induction ps generalizing d with
  | nil => exact h.elim id (by simp)
  | cons p ps ih =>
    refine ih ?_
    by_cases hp : p.1 = q
    · exact .inl ⟨(p.1, p.2), mem_put.mpr (.inl rfl), hp⟩
    · rcases h with ⟨m, hm, hmq⟩ | ⟨r, hr, hrq⟩
      · exact .inl ⟨m, mem_put.mpr (.inr ⟨hm, fun e => hp (e.symm.trans hmq)⟩), hmq⟩
      · rcases List.mem_cons.mp hr with rfl | hr
        · exact absurd hrq hp
        · exact .inr ⟨r, hr, hrq⟩

theorem putAll_putAll (d : Disk) (ps : List (List String × Node)) :
    (d.putAll ps).putAll ps = d.putAll ps := by
  rw [putAll_eq_map fun p hp => exists_putAll (.inr ⟨p, hp, rfl⟩)]
  have hsame : ((d.putAll ps).nodes.map fun m => (m.1, (lastPut ps m.1).getD m.2)) =
      (d.putAll ps).nodes := by
    conv_rhs => rw [← List.map_id (d.putAll ps).nodes]
    refine List.map_congr_left fun m hm => ?_
    rcases mem_putAll hm with hlast | ⟨_, hnone⟩
    · rw [hlast]
      rfl
    · rw [hnone]
      rfl
  rw [hsame]

/-! ## the same in the end -/

/-- The same names in the same order, and under each of them the same in the end. -/
inductive EndsAlike {α β : Type} : List (α × β) → List (α × β) → Prop
  | nil : EndsAlike [] []
  | cons {p q : α × β} {ps qs : List (α × β)} (name : p.1 = q.1)
      (last : p.1 ∈ ps.map (·.1) ∨ p.2 = q.2)
      (rest : EndsAlike ps qs) : EndsAlike (p :: ps) (q :: qs)

namespace EndsAlike

variable {α β : Type} {ps qs : List (α × β)}

theorem refl (ps : List (α × β)) : EndsAlike ps ps := by
  induction ps with
  | nil => exact .nil
  | cons p ps ih => exact .cons rfl (.inr rfl) ih

theorem append_left (h : EndsAlike ps qs) (xs : List (α × β)) :
    EndsAlike (xs ++ ps) (xs ++ qs) := by
  induction xs with
  | nil => exact h
  | cons x xs ih => exact .cons rfl (.inr rfl) ih

theorem names_eq (h : EndsAlike ps qs) : qs.map (·.1) = ps.map (·.1) := by
  induction h with
  | nil => rfl
  | cons name _ _ ih => rw [List.map_cons, List.map_cons, name, ih]

theorem map {γ δ : Type} (h : EndsAlike ps qs) (f : α → γ) (k : β → δ) :
    EndsAlike (ps.map fun p => (f p.1, k p.2)) (qs.map fun p => (f p.1, k p.2)) := by
  induction h with
  | nil => exact .nil
  | @cons p q ps qs name last rest ih =>
    refine .cons (congrArg f name) (last.imp (fun hp => ?_) (congrArg k)) ih
    rw [List.map_map]
    obtain ⟨r, hr, heq⟩ := List.mem_map.mp hp
    exact List.mem_map.mpr ⟨r, hr, congrArg f heq⟩

/-- Of the members that share a name only the last one counts. -/
theorem of_last {γ : Type} {xs : List γ} {f f' : γ → α × β} (hnames : ∀ x ∈ xs, (f x).1 = (f' x).1)
    (hlast : ∀ before x after, xs = before ++ x :: after → (∀ y ∈ after, (f y).1 ≠ (f x).1) →
      (f x).2 = (f' x).2)
    (h : EndsAlike ps qs) : EndsAlike (xs.map f ++ ps) (xs.map f' ++ qs) := by
  induction xs with
  | nil => exact h
  | cons x xs ih =>
    rw [List.forall_mem_cons] at hnames
    refine .cons hnames.1 ?_ (ih hnames.2 fun before y after hxs => hlast
      (x :: before) y after (hxs ▸ rfl))
    by_cases hlater : ∃ y ∈ xs, (f y).1 = (f x).1
    · obtain ⟨y, hy, heq⟩ := hlater
      exact .inl (List.mem_map.mpr ⟨f y, List.mem_append_left _ (List.mem_map_of_mem hy), heq⟩)
    · exact .inr (hlast [] x xs rfl fun y hy heq => hlater ⟨y, hy, heq⟩)

end EndsAlike

/-- The same places in the same order, and other things only in some of them. -/
structure SameBut (names : List (List String)) (d e : Disk) : Prop where
  home : d.home = e.home
  nodes : List.Forall₂ (fun m n => m.1 = n.1 ∧ (m.1 ∈ names ∨ m.2 = n.2)) d.nodes e.nodes

theorem SameBut.put {names : List (List String)} {k : Node} (h : SameBut (q :: names) d e)
    (hlast : q ∈ names ∨ n = k) : SameBut names (d.put q n) (e.put q k) := by
  have hkeys : d.nodes.map (·.1) = e.nodes.map (·.1) := by
    rw [← List.forall₂_eq_eq_eq, List.forall₂_map_left_iff, List.forall₂_map_right_iff]
    exact h.nodes.imp fun _ _ hmn => hmn.1
  have hany : (e.nodes.any fun m => m.1 == q) = d.nodes.any fun m => m.1 == q := by
    have hnames (b : Disk) : (b.nodes.any fun m => m.1 == q) = (b.nodes.map (·.1)).any
        (· == q) := by
      rw [List.any_map]
      rfl
    rw [hnames, hnames, hkeys]
  unfold Disk.put
  rw [hany]
  split
  case isTrue =>
    refine ⟨h.home, ?_⟩
    rw [List.forall₂_map_left_iff, List.forall₂_map_right_iff]
    refine h.nodes.imp fun a b hab => ?_
    rw [← hab.1]
    split
    · exact ⟨rfl, hlast⟩
    · rename_i hne
      refine ⟨hab.1, hab.2.imp_left fun hmem =>
        (List.mem_cons.mp hmem).resolve_left fun heq => hne ?_⟩
      exact beq_iff_eq.mpr heq
  case isFalse hnone =>
    refine ⟨h.home, List.rel_append ?_ (.cons ⟨rfl, hlast⟩ .nil)⟩
    have hmem : ∀ m ∈ d.nodes, m.1 ≠ q := fun m hm heq =>
      hnone (List.any_eq_true.mpr ⟨m, hm, beq_iff_eq.mpr heq⟩)
    refine ((List.forall₂_and_left _ _).mpr ⟨hmem, h.nodes⟩).imp fun a b hab =>
      ⟨hab.2.1, hab.2.2.imp_left fun ha => ?_⟩
    exact (List.mem_cons.mp ha).resolve_left hab.1

theorem putAll_congr {ps qs : List (List String × Node)} (h : EndsAlike ps qs) (d : Disk) :
    d.putAll ps = d.putAll qs := by
  suffices hrun : ∀ d e, SameBut (ps.map (·.1)) d e → d.putAll ps = e.putAll qs by
    refine hrun d d ⟨rfl, List.forall₂_same.mpr fun m _ => ⟨rfl, .inr rfl⟩⟩
  induction h with
  | nil =>
    rintro ⟨home, nodes⟩ ⟨home', nodes'⟩ ⟨hhome, hnodes⟩
    obtain rfl : home = home' := hhome
    have hsame : nodes = nodes' := by
      rw [← List.forall₂_eq_eq_eq]
      refine hnodes.imp fun m n hmn => Prod.ext hmn.1 (hmn.2.resolve_left ?_)
      exact List.not_mem_nil
    rw [hsame]
  | @cons p q ps qs name last _ ih =>
    intro d e hde
    have hput : SameBut (ps.map (·.1)) (d.put p.1 p.2) (e.put q.1 q.2) := by
      rw [← name]
      exact hde.put last
    exact ih _ _ hput

/-! ## what stays -/

namespace Gains

theorem home_eq (h : d.Gains P e) : e.home = d.home := by
  induction h with
  | refl d => rfl
  | step _ _ _ _ ih =>
    rw [ih, put]
    split <;> rfl

theorem isSome_node? (h : d.Gains P e) (hq : (d.node? q).isSome) : (e.node? q).isSome := by
  induction h with
  | refl d => exact hq
  | @step d e r k _ hfree _ _ ih =>
    refine ih ?_
    by_cases hr : r = q
    · subst hr
      have hne : r ≠ [] := fun e => hfree (e ▸ node?_nil d)
      rw [node?_put_self d hne]
      rfl
    · rwa [node?_put_of_ne d hr]

end Gains

end Disk

/-! ## looking at two disks -/

theorem Disk.look_eq {d e : Disk} {p : Path} {q : List String} (hd : d.locate p = .ok q)
    (he : e.locate p = .ok q) (hq : e.node? q = d.node? q) :
    e.exists? p = d.exists? p ∧ e.read p = d.read p := by
  simp only [exists?, read, hd, he, hq, and_self]

namespace Action

variable {α β : Type} {d e : Disk}

/-- The action leaves both disks as they are and comes to the same result. -/
def Alike (x : Action α) (d e : Disk) : Prop := ∃ r, x.run d = (r, d) ∧ x.run e = (r, e)

namespace Alike

theorem run_eq {x : Action α} (h : x.Alike d e) {r : Except Fault α} {d' : Disk}
    (hx : x.run d = (r, d')) : x.run e = (r, e) := by
  obtain ⟨r', hd, he⟩ := h
  cases hd.symm.trans hx
  exact he

theorem bind {x : Action α} {f : α → Action β} (hx : x.Alike d e) (hf : ∀ a, (f a).Alike d e) :
    (x >>= f).Alike d e := by
  obtain ⟨r, hd, he⟩ := hx
  cases r with
  | ok a =>
    obtain ⟨r, hfd, hfe⟩ := hf a
    exact ⟨r, (Run.bind_ok hd f).trans hfd, (Run.bind_ok he f).trans hfe⟩
  | error c =>
    have hfails {d : Disk} (h : x.run d = (.error c, d)) : (x >>= f).run d = (.error c, d) := by
      show ExceptT.bindCont f (x.run d).1 (x.run d).2 = _
      rw [h]
      rfl
    exact ⟨.error c, hfails hd, hfails he⟩

theorem pure (a : α) : (Pure.pure a : Action α).Alike d e := ⟨.ok a, rfl, rfl⟩

theorem throw (c : Fault) : (MonadExcept.throw c : Action α).Alike d e := ⟨.error c, rfl, rfl⟩

theorem lift (x : Except Fault α) : (Action.lift x).Alike d e := by
  cases x with
  | ok a => exact .pure a
  | error c => exact .throw c

theorem ask {f : Disk → Except DiskFault α} (h : f e = f d) : (Action.ask f).Alike d e := by
  have hrun (b : Disk) : (Action.ask f).run b = ((f b).mapError .disk, b) := by
    rw [Action.ask, Run.bind_ok (run_get b)]
    cases f b <;> rfl
  exact ⟨_, hrun d, h ▸ hrun e⟩

theorem readText {p : Path} (h : e.read p = d.read p) : (Action.readText p).Alike d e := by
  refine (Alike.ask h).bind fun c => ?_
  split
  · exact .pure _
  · exact .throw _

end Alike

end Action

/-! ## surveys -/

theorem getLastD_append {α : Type} {xs ys : List α} (h : ys ≠ []) (a : α) :
    (xs ++ ys).getLastD a = ys.getLastD a := by
  rw [List.getLastD_eq_getLast?, List.getLastD_eq_getLast?, List.getLast?_append_of_ne_nil _ h]

def IsModuleName (name : String) : Prop := Glob.isMatch "*.py" name = true

instance (name : String) : Decidable (IsModuleName name) := inferInstanceAs (Decidable (_ = true))

theorem Disk.read_cases {d : Disk} {p : Path} {c : Content} (h : d.read p = .ok c) :
    ∃ q, d.locate p = .ok q ∧ d.node? q = some (.file c) := by
  unfold read at h
  split at h
  · cases h
  · rename_i q hq
    split at h
    · cases h
    · cases h
    · cases h
      exact ⟨q, hq, ‹_›⟩

theorem Disk.last_of_locate {d : Disk} {p : Path} {parts q : List String}
    (h : d.locate (p.below parts) = .ok q) (hne : parts ≠ [])
    (hparts : IsModuleName (parts.getLastD "")) : q.getLastD "" = parts.getLastD "" := by
  obtain ⟨start, last, rfl⟩ := parts.eq_nil_or_concat.resolve_left hne
  have hup : ¬ IsModuleName ".." := by decide
  have ha := rooted_of_locate h
  rw [List.concat_eq_append, List.getLastD_concat] at hparts
  rw [List.concat_eq_append, Path.below, ← List.append_assoc,
    locate_concat d ha _ fun e => hup (e ▸ hparts)] at h
  obtain ⟨folder, _, h⟩ := bind_eq_ok.mp h
  split at h
  · cases h
  · cases h
    rw [List.concat_eq_append, List.getLastD_concat, List.getLastD_concat]

theorem readContents_congr {d e : Disk} {repo : Path} {includePrivate : Bool}
    {files : List (List String)}
    (h : ∀ parts ∈ files, e.read (repo.below parts) = d.read (repo.below parts)) :
    readContents e repo includePrivate files = readContents d repo includePrivate files := by
  induction files with
  | nil => rfl
  | cons parts rest ih =>
    rw [List.forall_mem_cons] at h
    rw [readContents, readContents, h.1, ih h.2]

/-- No file comes under the name of a module, and no directory below `repo` does. -/
def Unsurveyed (repo : Path) (q : List String) (n : Node) : Prop :=
  ¬ IsModuleName (q.getLastD "") ∨ n = .folder ∧ q <+: repo.parts

namespace Disk.Gains

variable {d e : Disk} {repo : Path}

theorem moduleFiles_eq (h : d.Gains (Unsurveyed repo) e) (patterns : List String) :
    moduleFiles e repo patterns = moduleFiles d repo patterns := by
  by_cases hroot : repo.anchor = .root
  · rw [moduleFiles, moduleFiles, if_pos hroot, if_pos hroot]
  -- only the names of nodes count, and a new one is not looked at
  let look (ps : List String) : Option (List String) :=
    if ps.take repo.parts.length == repo.parts && !(ps.drop repo.parts.length).isEmpty &&
      Glob.isMatch "*.py" ((ps.drop repo.parts.length).getLastD "") &&
      !isExcluded patterns (ps.drop repo.parts.length) then
        some (ps.drop repo.parts.length) else none
  have hfiles (d : Disk) :
      moduleFiles d repo patterns = ((d.nodes.map (·.1)).filterMap look).mergeSort namesBefore := by
    rw [moduleFiles, if_neg hroot, List.filterMap_map]
    rfl
  have hlook {q : List String} {n : Node} (hq : Unsurveyed repo q n) : look q = none := by
    rw [Option.eq_none_iff_forall_ne_some]
    intro parts hparts
    obtain ⟨rfl, hne, hpy⟩ := surveyed_cases hparts
    rcases hq with hname | ⟨_, t, ht⟩
    · rw [getLastD_append hne] at hname
      exact hname hpy
    · rw [List.append_assoc, List.append_right_eq_self] at ht
      exact hne (List.append_eq_nil_iff.mp ht).1
  induction h with
  | refl d => rfl
  | @step d e q n hP _ _ _ ih =>
    rw [ih, hfiles, hfiles, names_put]
    split
    · rfl
    · rw [List.filterMap_append, List.filterMap_cons, hlook hP, List.filterMap_nil, List.append_nil]

theorem read_eq (h : d.Gains (Unsurveyed repo) e) {parts : List String} {c : Content}
    (hparts : Glob.isMatch "*.py" (parts.getLastD "")) (hne : parts ≠ [])
    (hread : d.read (repo.below parts) = .ok c) : e.read (repo.below parts) = .ok c := by
  obtain ⟨q, hq, hc⟩ := read_cases hread
  refine Disk.read_eq (h.keepsFolders.locate hq) ?_
  rw [← file?_eq_some] at hc ⊢
  rw [h.file?_eq, hc]
  rintro c (hname | ⟨hfolder, _⟩)
  · exact hname (last_of_locate hq hne hparts ▸ hparts)
  · cases hfolder

theorem survey_eq (h : d.Gains (Unsurveyed repo) e) {settings : SurveySettings}
    {ms : List ModuleDoc} (hms : (survey d repo settings).modules = .ok ms) :
    survey e repo settings = survey d repo settings := by
  have hread : ∀ parts ∈ moduleFiles d repo settings.allPatterns,
      e.read (repo.below parts) = d.read (repo.below parts) := by
    intro parts hparts
    have hs := mem_moduleFiles_iff.mp hparts
    have hnone := (((modules_survey d repo settings).1 ms).mp hms).1 parts hs
    cases hc : d.read (repo.below parts) with
    | error f =>
      rw [pathFault?, hc] at hnone
      cases hnone
    | ok c => exact h.read_eq (Glob.isMatch_py.mpr hs.named) hs.below hc
  unfold survey
  rw [h.moduleFiles_eq, readContents_congr hread]

end Disk.Gains

end Apidoc
