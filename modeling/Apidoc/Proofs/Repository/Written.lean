import Apidoc.Proofs.Run
import Apidoc.Repository.Action

/-!
# What stays on the disk

* `Disk.write_cases`     what writing a file does;
* `Disk.enter_append`    a path is followed in two parts;
* `Disk.inside?_of_enter`   where a path leads does not depend on the disk;
* `Disk.locate_below`    a path below a directory leads below where the directory is;
* `Disk.KeepsFolders`    a change after which every directory is still there, so that paths still
                         lead where they led;
* `Disk.node?_of_write`, `Disk.node?_of_written`   what is found after a file was written, under
                                                   another name and under its own;
* `Run.ok_of_bind`      a run of two actions that finishes is made of two that finish.
-/

namespace Apidoc

abbrev Path.below (p : Path) (name : List String) : Path := { p with parts := p.parts ++ name }

namespace Disk

variable {d d' : Disk}

/-! ## putting a node in its place -/

def replaced (parts : List String) (n : Node) (ms : List (List String × Node)) :
    List (List String × Node) :=
  ms.map fun m => if m.1 == parts then (parts, n) else m

theorem find?_replaced_self {parts : List String} (n : Node) {ms : List (List String × Node)}
    (h : (ms.any fun m => m.1 == parts) = true) :
    (replaced parts n ms).find? (fun m => m.1 == parts) = some (parts, n) := by
  induction ms with
  | nil => cases h
  | cons m ms ih =>
    rw [replaced, List.map_cons, List.find?_cons]
    by_cases hm : m.1 = parts
    · simp [hm]
    · have hne : (m.1 == parts) = false := beq_eq_false_iff_ne.mpr hm
      rw [List.any_cons, hne, Bool.false_or] at h
      simp only [hne, Bool.false_eq_true, if_false]
      exact ih h

theorem find?_replaced_of_ne {parts q : List String} (n : Node) (h : parts ≠ q)
    (ms : List (List String × Node)) :
    (replaced parts n ms).find? (fun m => m.1 == q) = ms.find? fun m => m.1 == q := by
  induction ms with
  | nil => rfl
  | cons m ms ih =>
    rw [replaced, List.map_cons, List.find?_cons, List.find?_cons, ← replaced, ih]
    by_cases hm : m.1 = parts
    · have hq : (parts == q) = false := beq_eq_false_iff_ne.mpr h
      simp only [hm, beq_self_eq_true, if_true, hq]
    · simp only [beq_eq_false_iff_ne.mpr hm, Bool.false_eq_true, if_false]

theorem find?_put (d : Disk) (parts : List String) (n : Node) (q : List String) :
    (d.put parts n).nodes.find? (fun m => m.1 == q) =
      if parts = q then some (parts, n) else d.nodes.find? fun m => m.1 == q := by
  unfold put
  split
  case isTrue h =>
    show (replaced parts n d.nodes).find? (fun m => m.1 == q) = _
    split
    case isTrue hq => exact hq ▸ find?_replaced_self n h
    case isFalse hq => exact find?_replaced_of_ne n hq d.nodes
  case isFalse h =>
    show (d.nodes ++ [(parts, n)]).find? (fun m => m.1 == q) = _
    rw [List.find?_append]
    split
    case isTrue hq =>
      have hnone : d.nodes.find? (fun m => m.1 == q) = none := by
        rw [List.find?_eq_none]
        intro m hm hmq
        exact h (List.any_eq_true.mpr ⟨m, hm, hq ▸ hmq⟩)
      simp [hnone, hq]
    case isFalse hq => simp [hq]

theorem node?_put_self (d : Disk) {parts : List String} (h : parts ≠ []) (n : Node) :
    (d.put parts n).node? parts = some n := by
  rw [node?, if_neg (by simpa using h), find?_put, if_pos rfl]
  rfl

theorem node?_put_of_ne (d : Disk) {parts q : List String} (h : parts ≠ q) (n : Node) :
    (d.put parts n).node? q = d.node? q := by
  rw [node?, node?, find?_put, if_neg h]

/-! ## following a path -/

theorem enter_append (d : Disk) (cur ps qs : List String) :
    d.enter cur (ps ++ qs) = (d.enter cur ps).bind fun c => d.enter c qs := by
  induction ps generalizing cur with
  | nil => rfl
  | cons p ps ih =>
    rw [List.cons_append, enter, enter]
    split
    · split
      · rfl
      · exact ih cur.dropLast
    · split
      · rfl
      · split
        · exact ih (cur ++ [p])
        · rfl
        · rfl

/-- Names that lead down from a directory. -/
def Descends (ps : List String) : Prop := ".." ∉ ps

theorem eq_append_of_enter {cur ps q : List String} (h : d.enter cur ps = .ok q)
    (hps : Descends ps) : q = cur ++ ps := by
  induction ps generalizing cur with
  | nil =>
    rw [enter] at h
    cases h
    exact (List.append_nil q).symm
  | cons p ps ih =>
    obtain ⟨hp, hps⟩ : p ≠ ".." ∧ Descends ps := by
      rw [Descends, List.mem_cons, not_or] at hps
      exact ⟨fun e => hps.1 e.symm, hps.2⟩
    rw [enter, if_neg hp] at h
    split at h
    · cases h
    · split at h
      · rw [ih h hps, List.append_assoc]
        rfl
      · cases h
      · cases h

theorem climb?_append (cur ps qs : List String) :
    Path.climb? cur (ps ++ qs) = (Path.climb? cur ps).bind fun c => Path.climb? c qs := by
  induction ps generalizing cur with
  | nil => rfl
  | cons p ps ih =>
    rw [List.cons_append, Path.climb?, Path.climb?]
    split
    · split
      · rfl
      · exact ih cur.dropLast
    · exact ih (cur ++ [p])

/-- Where a path leads does not depend on the disk. -/
theorem climb?_of_enter {cur ps q : List String} (h : d.enter cur ps = .ok q) :
    Path.climb? cur ps = some q := by
  induction ps generalizing cur with
  | nil =>
    cases h
    rfl
  | cons p ps ih =>
    rw [enter] at h
    rw [Path.climb?]
    split at h
    · rw [if_pos ‹_›]
      split at h
      · cases h
      · rw [if_neg ‹_›]
        exact ih h
    · rw [if_neg ‹_›]
      split at h
      · cases h
      · split at h
        · exact ih h
        · cases h
        · cases h

theorem inside?_of_enter {p : Path} {q : List String} (ha : p.anchor ≠ .root)
    (h : d.enter [] p.parts = .ok q) : p.inside? = some q := by
  rw [Path.inside?, if_neg ha]
  exact climb?_of_enter h

theorem locate_concat (d : Disk) {anchor : Anchor} (ha : anchor ≠ .root) (ps : List String)
    {last : String} (hlast : last ≠ "..") : d.locate ⟨anchor, ps ++ [last]⟩ =
      (d.enter [] ps).bind fun folder =>
        if isLong last then .error .longName else .ok (folder ++ [last]) := by
  unfold locate
  split
  · exact absurd ‹_› ha
  · simp only [List.getLast?_append, List.getLast?_singleton, Option.some_or, List.dropLast_concat]
    rfl

theorem rooted_of_locate {p : Path} {q : List String} (h : d.locate p = .ok q) :
    p.anchor ≠ .root := by
  intro ha
  simp only [locate, ha] at h
  cases h

/-- A path below a directory leads below where the directory is. -/
theorem locate_below {p : Path} {name q : List String}
    (h : d.locate (p.below name) = .ok q) (hname : Descends name) (hne : name ≠ []) :
    ∃ folder, d.enter [] p.parts = .ok folder ∧ q = folder ++ name := by
  have ha := rooted_of_locate h
  obtain ⟨start, last, rfl⟩ := name.eq_nil_or_concat.resolve_left hne
  rw [List.concat_eq_append] at *
  rw [Descends, List.mem_append, List.mem_singleton, not_or] at hname
  rw [Path.below, ← List.append_assoc, locate_concat d ha _ fun e => hname.2 e.symm,
    enter_append] at h
  cases hp : d.enter [] p.parts with
  | error c =>
    rw [hp] at h
    cases h
  | ok folder =>
    rw [hp] at h
    refine ⟨folder, rfl, ?_⟩
    change (d.enter folder start).bind _ = _ at h
    cases hs : d.enter folder start with
    | error c =>
      rw [hs] at h
      cases h
    | ok below =>
      rw [hs, eq_append_of_enter hs hname.1] at h
      change (if isLong last then _ else _) = _ at h
      split at h
      · cases h
      · cases h
        exact List.append_assoc ..

/-! ## changes that keep directories -/

/-- Every directory is still there. -/
def KeepsFolders (d d' : Disk) : Prop := ∀ q, d.node? q = some .folder → d'.node? q = some .folder

theorem KeepsFolders.enter (h : KeepsFolders d d') {cur ps q : List String}
    (hq : d.enter cur ps = .ok q) : d'.enter cur ps = .ok q := by
  induction ps generalizing cur with
  | nil => exact hq
  | cons p ps ih =>
    rw [Disk.enter] at hq ⊢
    split
    · rw [if_pos ‹_›] at hq
      split
      · rw [if_pos ‹_›] at hq
        cases hq
      · rw [if_neg ‹_›] at hq
        exact ih hq
    · rw [if_neg ‹_›] at hq
      split
      · rw [if_pos ‹_›] at hq
        cases hq
      · rw [if_neg ‹_›] at hq
        split at hq
        · rw [h _ ‹_›]
          exact ih hq
        · cases hq
        · cases hq

theorem KeepsFolders.locate (h : KeepsFolders d d') {p : Path} {q : List String}
    (hq : d.locate p = .ok q) : d'.locate p = .ok q := by
  unfold Disk.locate at hq ⊢
  split
  · simp only [‹p.anchor = _›] at hq
    cases hq
  · simp only at hq
    split
    · simpa only [*] using hq
    · simp only [*] at hq
      exact h.enter hq
    · simp only [*] at hq
      cases he : d.enter [] p.parts.dropLast with
      | error c =>
        rw [he] at hq
        cases hq
      | ok folder =>
        rw [he] at hq
        rw [h.enter he]
        exact hq

theorem write_cases {p : Path} {text : String} (h : d.write p text = .ok d') :
    ∃ q, d.locate p = .ok q ∧ d.node? q ≠ some .folder ∧ d' = d.put q (.file (.text text)) := by
  unfold write at h
  split at h
  · cases h
  · rename_i q hq
    split at h
    · cases h
    · cases h
      exact ⟨q, hq, ‹_›, rfl⟩

theorem KeepsFolders.of_put {q : List String} (h : d.node? q ≠ some .folder) (n : Node) :
    KeepsFolders d (d.put q n) := by
  intro r hr
  rwa [node?_put_of_ne]
  rintro rfl
  exact h hr

theorem node?_of_write {out : Path} {name other q : List String} {text : String}
    (h : d.write (out.below name) text = .ok d') (hname : Descends name ∧ name ≠ [])
    (hother : Descends other ∧ other ≠ []) (hne : name ≠ other)
    (hq : d.locate (out.below other) = .ok q) :
    d'.locate (out.below other) = .ok q ∧ d'.node? q = d.node? q := by
  obtain ⟨r, hr, hnode, rfl⟩ := write_cases h
  refine ⟨(KeepsFolders.of_put hnode _).locate hq, node?_put_of_ne d ?_ _⟩
  obtain ⟨folder, hfolder, rfl⟩ := locate_below hr hname.1 hname.2
  obtain ⟨folder', hfolder', rfl⟩ := locate_below hq hother.1 hother.2
  cases hfolder.symm.trans hfolder'
  exact fun e => hne (List.append_cancel_left e)

theorem node?_of_written {out : Path} {name : List String} {text : String}
    (h : d.write (out.below name) text = .ok d') (hname : Descends name ∧ name ≠ []) :
    ∃ q, d'.locate (out.below name) = .ok q ∧ d'.node? q = some (.file (.text text)) := by
  obtain ⟨q, hq, hnode, rfl⟩ := write_cases h
  refine ⟨q, (KeepsFolders.of_put hnode _).locate hq, node?_put_self d ?_ _⟩
  obtain ⟨folder, _, rfl⟩ := locate_below hq hname.1 hname.2
  exact List.append_ne_nil_of_right_ne_nil _ hname.2

theorem read_eq {p : Path} {q : List String} {c : Content} (hq : d.locate p = .ok q)
    (hc : d.node? q = some (.file c)) : d.read p = .ok c := by
  simp only [read, hq, hc]

end Disk

/-! ## runs -/

namespace Action

variable {α β : Type} {d d' : Disk}

theorem run_change {f : Disk → Except DiskFault Disk} (h : (change f).run d = (.ok (), d')) :
    f d = .ok d' := by
  obtain ⟨e, d1, he, h⟩ := Run.ok_of_bind h
  cases he
  split at h
  · cases h
    assumption
  · cases h

end Action

end Apidoc
