import Apidoc.Proofs.Repository.Written
import Mathlib.Data.List.Basic
import Mathlib.Data.List.Induction

/-!
# Directories that are made and files that are removed

* `Disk.folder_of_enter`      a path that can be followed leads to a directory;
* `Disk.Grounded`             a disk on which everything stands in a directory;
* `Disk.makeFrom_of_enter`    where a directory is there already, making it changes nothing;
* `Disk.DiffersAt`            disks that differ in one file only;
* `Disk.DiffersAt.makeFrom`   the same directories can be made on them;
* `Disk.Sheds`                a disk on which some files of another are missing;
* `Run.bind_ok`        after an action that succeeds the next one runs on the disk it left.
-/

namespace Apidoc

namespace Disk

variable {d d' e : Disk} {anchor : Anchor}

theorem node?_nil (d : Disk) : d.node? [] = some .folder := rfl

/-! ## following a path -/

/-- A path that can be followed leads through directories only. -/
theorem folder_of_prefix {cur ps q : List String} (hcur : ∀ r, r <+: cur → d.node? r = some .folder)
    (h : d.enter cur ps = .ok q) : ∀ r, r <+: q → d.node? r = some .folder := by
  induction ps generalizing cur with
  | nil =>
    cases h
    exact hcur
  | cons p ps ih =>
    rw [enter] at h
    split at h
    · split at h
      · cases h
      · exact ih (fun r hr => hcur r (hr.trans (List.dropLast_prefix cur))) h
    · split at h
      · cases h
      · split at h
        · rename_i hp
          refine ih (fun r hr => ?_) h
          rcases List.prefix_concat_iff.mp hr with rfl | hr
          · exact hp
          · exact hcur r hr
        · cases h
        · cases h

theorem folder_of_enter {ps q : List String} (h : d.enter [] ps = .ok q) :
    d.node? q = some .folder :=
  folder_of_prefix (fun _ hr => List.prefix_nil.mp hr ▸ node?_nil d) h q (List.prefix_refl q)

theorem enter_concat {ps f : List String} {p : String} (hf : d.enter [] ps = .ok f) :
    d.enter [] (ps ++ [p]) = d.enter f [p] := by
  rw [enter_append, hf]
  rfl

theorem locate_of_enter {ps q : List String} {p : String} (ha : anchor ≠ .root)
    (h : d.enter [] (ps ++ [p]) = .ok q) : d.locate ⟨anchor, ps ++ [p]⟩ = .ok q := by
  by_cases hp : p = ".."
  · subst hp
    unfold locate
    split
    · exact absurd ‹_› ha
    · simpa only [List.getLast?_append, List.getLast?_singleton, Option.some_or] using h
  · rw [locate_concat d ha ps hp]
    cases hf : d.enter [] ps with
    | error c =>
      rw [enter_append, hf] at h
      cases h
    | ok f =>
      rw [enter_concat hf, enter, if_neg hp] at h
      show (if isLong p then _ else _) = _
      split at h
      · cases h
      · rw [if_neg ‹_›]
        split at h
        · exact h
        · cases h
        · cases h

theorem locate_entered {p : Path} {g : List String} (hroot : p.anchor ≠ .root)
    (h : d.enter [] p.parts = .ok g) : d.locate p = .ok g ∧ d.node? g = some .folder := by
  refine ⟨?_, folder_of_enter h⟩
  obtain ⟨anchor, parts⟩ := p
  rcases parts.eq_nil_or_concat with rfl | ⟨ps, p, rfl⟩
  · unfold locate
    split
    · exact absurd ‹_› hroot
    · exact h
  · rw [List.concat_eq_append] at h ⊢
    exact locate_of_enter hroot h

/-- A path that never goes up leads where its names say. -/
theorem eq_of_locate {parts q : List String} (h : d.locate ⟨anchor, parts⟩ = .ok q)
    (hparts : Descends parts) : q = parts := by
  by_cases hne : parts = []
  · subst hne
    unfold locate at h
    split at h
    · cases h
    · exact (Except.ok.inj h).symm
  · have hbelow : d.locate (Path.below ⟨anchor, []⟩ parts) = .ok q := h
    obtain ⟨_, hnil, rfl⟩ := locate_below hbelow hparts hne
    cases hnil
    rfl

/-- What a name leads to can be followed if it is a directory, and is missing if there is nothing.
-/
theorem enter_of_locate {ps f q : List String} {p : String} (hf : d.enter [] ps = .ok f)
    (h : d.locate ⟨anchor, ps ++ [p]⟩ = .ok q) :
    (d.node? q = some .folder → d.enter [] (ps ++ [p]) = .ok q) ∧
      (d.node? q = none → ∀ more, d.enter [] (ps ++ p :: more) = .error .missing) := by
  have ha := rooted_of_locate h
  by_cases hp : p = ".."
  · have hq : d.enter [] (ps ++ [p]) = .ok q := by
      subst hp
      unfold locate at h
      split at h
      · cases h
      · simpa only [List.getLast?_append, List.getLast?_singleton, Option.some_or] using h
    refine ⟨fun _ => hq, fun hnone => ?_⟩
    rw [folder_of_enter hq] at hnone
    cases hnone
  · rw [locate_concat d ha ps hp, hf] at h
    change (if isLong p then _ else _) = _ at h
    split at h
    · cases h
    · cases h
      constructor
      · intro hfolder
        rw [enter_concat hf, enter, if_neg hp, if_neg ‹_›, hfolder]
        rfl
      · intro hnone more
        rw [enter_append, hf]
        show d.enter f (p :: more) = _
        rw [enter, if_neg hp, if_neg ‹_›, hnone]

/-! ## disks without gaps -/

/-- What is on the disk stands in a directory. -/
def Grounded (d : Disk) : Prop := ∀ n ∈ d.nodes, d.node? n.1.dropLast = some .folder

instance (d : Disk) : Decidable d.Grounded := inferInstanceAs (Decidable (∀ n ∈ d.nodes, _))

theorem exists_node {q : List String} {n : Node} (h : d.node? q = some n) (hq : q ≠ []) :
    ∃ m ∈ d.nodes, m.1 = q := by
  rw [node?, if_neg (by simpa using hq)] at h
  obtain ⟨m, hm, _⟩ := Option.map_eq_some_iff.mp h
  have hmem := List.mem_of_find?_eq_some hm
  exact ⟨m, hmem, by simpa using List.find?_some hm⟩

theorem Grounded.folder (h : d.Grounded) {r t : List String} {n : Node} (ht : t ≠ [])
    (hn : d.node? (r ++ t) = some n) : d.node? r = some .folder := by
  induction t using List.reverseRecOn generalizing n with
  | nil => exact absurd rfl ht
  | append_singleton t name ih =>
    obtain ⟨m, hm, hname⟩ := exists_node hn (by simp)
    have hparent := h m hm
    rw [hname, ← List.append_assoc, List.dropLast_concat] at hparent
    by_cases hnil : t = []
    · rwa [hnil, List.append_nil] at hparent
    · exact ih hnil hparent

theorem enter_of_folders {cur ps : List String} (hps : Descends ps)
    (hshort : ∀ p ∈ ps, isLong p = false) (hfolder : ∀ r, r ≠ [] → r <+: ps → d.node? (cur ++ r) =
      some .folder) : d.enter cur ps = .ok (cur ++ ps) := by
  induction ps generalizing cur with
  | nil => rw [enter, List.append_nil]
  | cons p ps ih =>
    rw [Descends, List.mem_cons, not_or] at hps
    rw [List.forall_mem_cons] at hshort
    have hp := hfolder [p] (by simp) (by simp)
    rw [enter, if_neg fun e => hps.1 e.symm, hshort.1, if_neg (by simp), hp]
    show d.enter (cur ++ [p]) ps = _
    rw [ih hps.2 hshort.2 fun r _ hr => ?_, List.append_assoc, List.singleton_append]
    have hcons := hfolder (p :: r) (by simp) (List.cons_prefix_cons.mpr ⟨rfl, hr⟩)
    rwa [List.append_assoc]

theorem short_of_enter {cur ps q : List String} (hps : Descends ps) (h : d.enter cur ps = .ok q) :
    ∀ p ∈ ps, isLong p = false := by
  induction ps generalizing cur with
  | nil => exact List.forall_mem_nil _
  | cons p ps ih =>
    rw [Descends, List.mem_cons, not_or] at hps
    rw [enter, if_neg fun e => hps.1 e.symm] at h
    split at h
    · cases h
    · split at h
      · exact List.forall_mem_cons.mpr ⟨Bool.eq_false_iff.mpr ‹_›, ih hps.2 h⟩
      · cases h
      · cases h

/-! ## making directories -/

theorem makeFrom_of_enter (ha : anchor ≠ .root) {made rest q : List String}
    (h : d.enter [] (made ++ rest) = .ok q) : d.makeFrom anchor made rest = .ok d := by
  induction rest generalizing made with
  | nil => rfl
  | cons p ps ih =>
    have happend : made ++ p :: ps = made ++ [p] ++ ps := by simp
    rw [happend] at h
    cases hp : d.enter [] (made ++ [p]) with
    | error c =>
      rw [enter_append, hp] at h
      cases h
    | ok f =>
      rw [makeFrom]
      simp only [locate_of_enter ha hp, folder_of_enter hp]
      exact ih h

/-- One directory on the way: it is there or it is made. -/
theorem makeFrom_cases {made ps : List String} {p : String}
    (h : d.makeFrom anchor made (p :: ps) = .ok e) :
    ∃ q, d.locate ⟨anchor, made ++ [p]⟩ = .ok q ∧
      (d.node? q = some .folder ∧ d.makeFrom anchor (made ++ [p]) ps = .ok e ∨
        d.node? q = none ∧ (d.put q .folder).makeFrom anchor (made ++ [p]) ps = .ok e) := by
  rw [makeFrom] at h
  split at h
  · cases h
  · rename_i q hq
    refine ⟨q, hq, ?_⟩
    split at h
    · exact .inl ⟨‹_›, h⟩
    · split at h
      · cases h
      · cases h
    · exact .inr ⟨‹_›, h⟩

theorem rooted_of_makeFrom {made rest : List String} (h : d.makeFrom anchor made rest = .ok e)
    (hne : rest ≠ []) : anchor ≠ .root := by
  cases rest with
  | nil => exact absurd rfl hne
  | cons p ps =>
    obtain ⟨q, hq, _⟩ := makeFrom_cases h
    exact rooted_of_locate hq

theorem ne_nil_of_node?_none {q : List String} (h : d.node? q = none) : q ≠ [] := by
  rintro rfl
  cases h

theorem node?_of_makeFrom {made rest : List String} (h : d.makeFrom anchor made rest = .ok e)
    {r : List String} {n : Node} (hn : d.node? r = some n) : e.node? r = some n := by
  induction rest generalizing d made with
  | nil =>
    cases h
    exact hn
  | cons p ps ih =>
    obtain ⟨q, hq, ⟨hfolder, h⟩ | ⟨hnone, h⟩⟩ := makeFrom_cases h
    · exact ih h hn
    · refine ih h ?_
      rwa [node?_put_of_ne]
      rintro rfl
      rw [hn] at hnone
      cases hnone

/-- A directory that can be made is there or missing; nothing else stands in its place. -/
theorem enter_before_makeFrom {made rest f : List String} (hf : d.enter [] made = .ok f)
    (h : d.makeFrom anchor made rest = .ok e) :
    (∃ g, d.enter [] (made ++ rest) = .ok g) ∨ d.enter [] (made ++ rest) = .error .missing := by
  induction rest generalizing made f with
  | nil => exact .inl ⟨f, (List.append_nil made).symm ▸ hf⟩
  | cons p ps ih =>
    obtain ⟨q, hq, ⟨hfolder, h⟩ | ⟨hnone, _⟩⟩ := makeFrom_cases h
    · have hrest := ih ((enter_of_locate hf hq).1 hfolder) h
      rwa [List.append_assoc] at hrest
    · exact .inr ((enter_of_locate hf hq).2 hnone ps)

theorem enter_of_makeFrom {made rest f : List String} (hf : d.enter [] made = .ok f)
    (h : d.makeFrom anchor made rest = .ok e) : ∃ g, e.enter [] (made ++ rest) = .ok g := by
  induction rest generalizing d made f with
  | nil =>
    cases h
    exact ⟨f, (List.append_nil made).symm ▸ hf⟩
  | cons p ps ih =>
    rw [← List.singleton_append, ← List.append_assoc]
    obtain ⟨q, hq, ⟨hfolder, h⟩ | ⟨hnone, h⟩⟩ := makeFrom_cases h
    · exact ih ((enter_of_locate hf hq).1 hfolder) h
    · have hkeeps : KeepsFolders d (d.put q .folder) := .of_put (by rw [hnone]; nofun) _
      have hfolder := node?_put_self d (ne_nil_of_node?_none hnone) .folder
      exact ih ((enter_of_locate (hkeeps.enter hf) (hkeeps.locate hq)).1 hfolder) h

/-! ## writing and removing a file -/

theorem write_ok {p : Path} {q : List String} (hq : d.locate p = .ok q)
    (hfree : d.node? q ≠ some .folder) (text : String) :
    d.write p text = .ok (d.put q (.file (.text text))) := by
  unfold write
  rw [hq]
  dsimp only
  split
  · exact absurd ‹_› hfree
  · rfl

theorem node?_put_file_ne_folder {q : List String} (hq : q ≠ []) (c : Content) {r : List String}
    (h : d.node? r ≠ some .folder) : (d.put q (.file c)).node? r ≠ some .folder := by
  by_cases hqr : q = r
  · subst hqr
    rw [node?_put_self d hq]
    nofun
  · rwa [node?_put_of_ne d hqr]

/-- The disks differ at `r` only, where neither has a directory. -/
structure DiffersAt (r : List String) (d d' : Disk) : Prop where
  before : d.node? r ≠ some .folder
  after : d'.node? r ≠ some .folder
  same : ∀ q, q ≠ r → d'.node? q = d.node? q

namespace DiffersAt

variable {r : List String}

theorem of_put (hr : r ≠ []) (hfree : d.node? r ≠ some .folder) (c : Content) :
    DiffersAt r d (d.put r (.file c)) :=
  ⟨hfree, by rw [node?_put_self d hr]; nofun, fun _ hq => node?_put_of_ne d (Ne.symm hq) _⟩

theorem symm (h : DiffersAt r d d') : DiffersAt r d' d :=
  ⟨h.after, h.before, fun q hq => (h.same q hq).symm⟩

theorem keepsFolders (h : DiffersAt r d d') : KeepsFolders d d' := by
  intro q hq
  rwa [h.same q]
  rintro rfl
  exact h.before hq

theorem put_folder (h : DiffersAt r d d') {q : List String} (hq : q ≠ []) (hqr : q ≠ r) :
    DiffersAt r (d.put q .folder) (d'.put q .folder) := by
  refine ⟨?_, ?_, fun s hs => ?_⟩
  · rw [node?_put_of_ne d hqr]
    exact h.before
  · rw [node?_put_of_ne d' hqr]
    exact h.after
  · by_cases hqs : q = s
    · subst hqs
      rw [node?_put_self d hq, node?_put_self d' hq]
    · rw [node?_put_of_ne d hqs, node?_put_of_ne d' hqs, h.same s hs]

/-- The same directories can be made on both disks, unless one of them would be at `r`. -/
theorem makeFrom (h : DiffersAt r d d') {made rest : List String}
    (hmade : d.makeFrom anchor made rest = .ok e) (hr : e.node? r ≠ some .folder) :
    ∃ e', d'.makeFrom anchor made rest = .ok e' ∧ DiffersAt r e e' ∧ e'.node? r = d'.node? r := by
  induction rest generalizing d d' made with
  | nil =>
    cases hmade
    exact ⟨d', rfl, h, rfl⟩
  | cons p ps ih =>
    obtain ⟨q, hq, ⟨hfolder, hmade⟩ | ⟨hnone, hmade⟩⟩ := makeFrom_cases hmade
    · obtain ⟨e', he', hdiffers, hnode⟩ := ih h hmade
      refine ⟨e', ?_, hdiffers, hnode⟩
      rw [Disk.makeFrom]
      simp only [h.keepsFolders.locate hq, h.keepsFolders q hfolder]
      exact he'
    · have hne := ne_nil_of_node?_none hnone
      have hqr : q ≠ r := by
        rintro rfl
        exact hr (node?_of_makeFrom hmade (node?_put_self d hne _))
      obtain ⟨e', he', hdiffers, hnode⟩ := ih (h.put_folder hne hqr) hmade
      rw [node?_put_of_ne d' hqr] at hnode
      refine ⟨e', ?_, hdiffers, hnode⟩
      rw [Disk.makeFrom]
      simp only [h.keepsFolders.locate hq, h.same q hqr, hnone]
      exact he'

end DiffersAt

/-- All that is on `d` but the file at `r` is on `d'`. -/
structure Lacks (r : List String) (d d' : Disk) : Prop extends DiffersAt r d d' where
  file : ∃ c, d.node? r = some (.file c)
  gone : d'.node? r = none

theorem remove_cases {p : Path} (h : d.remove p = .ok d') :
    ∃ r, d.locate p = .ok r ∧ Lacks r d d' := by
  unfold remove at h
  split at h
  · cases h
  · rename_i r hr
    split at h
    · cases h
    · cases h
    · rename_i c hc
      cases h
      have hne : r ≠ [] := by
        rintro rfl
        cases hc
      have hgone : Disk.node? { d with nodes := d.nodes.filter fun m => m.1 != r } r = none := by
        rw [node?, if_neg (by simpa using hne), Option.map_eq_none_iff, List.find?_eq_none]
        intro m hm
        simpa using (List.mem_filter.mp hm).2
      refine ⟨r, hr, ⟨?_, ?_, fun q hq => ?_⟩, ⟨c, hc⟩, hgone⟩
      · rw [hc]
        simp
      · rw [hgone]
        simp
      · have hnames (m : List String × Node) : decide ((m.1 != r) = true ∧ (m.1 == q) = true) =
            (m.1 == q) := by
          by_cases hm : m.1 = q
          · simp [hm, hq]
          · simp [hm]
        rw [node?, node?, List.find?_filter]
        simp only [hnames]

theorem remove_file {p : Path} {r : List String} {c : Content} (hr : d.locate p = .ok r)
    (hc : d.node? r = some (.file c)) : ∃ d', d.remove p = .ok d' := by
  simp only [remove, hr, hc]
  exact ⟨_, rfl⟩

/-- All that is on `d` but some of the files at `places` is on `d'`. -/
inductive Sheds (places : List (List String)) : Disk → Disk → Prop
  | refl (d : Disk) : Sheds places d d
  | step {d d' e : Disk} {r : List String} (hr : r ∈ places) (h : Lacks r d d')
      (more : Sheds places d' e) :
      Sheds places d e

namespace Sheds

variable {places : List (List String)}

theorem trans (h : Sheds places d d') (h' : Sheds places d' e) : Sheds places d e := by
  induction h with
  | refl d => exact h'
  | step hr hlacks _ ih => exact .step hr hlacks (ih h')

theorem keepsFolders (h : Sheds places d d') : KeepsFolders d d' := by
  induction h with
  | refl d => exact fun _ hq => hq
  | step _ hlacks _ ih => exact fun q hq => ih q (hlacks.keepsFolders q hq)

theorem keptFolders (h : Sheds places d d') : KeepsFolders d' d := by
  induction h with
  | refl d => exact fun _ hq => hq
  | step _ hlacks _ ih => exact fun q hq => hlacks.symm.keepsFolders q (ih q hq)

theorem same (h : Sheds places d d') {q : List String} (hq : q ∉ places) :
    d'.node? q = d.node? q := by
  induction h with
  | refl d => rfl
  | step hr hlacks _ ih => exact ih.trans (hlacks.same q fun e => hq (e ▸ hr))

theorem none (h : Sheds places d d') {q : List String} (hq : d.node? q = none) :
    d'.node? q = none := by
  induction h with
  | refl d => exact hq
  | @step d d' e r hr hlacks _ ih =>
    refine ih ?_
    by_cases hqr : q = r
    · exact hqr ▸ hlacks.gone
    · rw [hlacks.same q hqr, hq]

end Sheds

end Disk

/-! ## runs that succeed -/

namespace Action

variable {α β : Type} {d e : Disk}

theorem run_get (d : Disk) : (get : Action Disk).run d = (.ok d, d) := rfl

theorem run_ask_ok {f : Disk → Except DiskFault α} {a : α} (h : f d = .ok a) :
    (ask f).run d = (.ok a, d) := by
  rw [ask, Run.bind_ok (run_get d), h]
  rfl

theorem run_exists_ok {p : Path} {q : List String} (h : d.locate p = .ok q) :
    (exists? p).run d = (.ok (d.node? q).isSome, d) := by
  have hexists : d.exists? p = .ok (d.node? q).isSome := by simp only [Disk.exists?, h]
  exact run_ask_ok hexists

theorem run_exists_missing {p : Path} (h : d.locate p = .error .missing) :
    (exists? p).run d = (.ok false, d) := by
  have hexists : d.exists? p = .ok false := by simp only [Disk.exists?, h]
  exact run_ask_ok hexists

theorem run_change_ok {f : Disk → Except DiskFault Disk} (h : f d = .ok e) :
    (change f).run d = (.ok (), e) := by
  rw [change, Run.bind_ok (run_get d), h]
  rfl

theorem run_lift_eq (x : Except Fault α) (d : Disk) : (lift x).run d = (x, d) := by
  cases x <;> rfl

theorem run_lift_ok {x : Except Fault α} {a : α} (h : x = .ok a) (d : Disk) :
    (lift x).run d = (.ok a, d) := by
  rw [h]
  rfl

theorem run_readText_ok {p : Path} {s : String} (h : d.read p = .ok (.text s)) :
    (readText p).run d = (.ok (String.ofList (Text.unifyNewlines s.toList)), d) := by
  rw [readText, Run.bind_ok (run_ask_ok h)]
  rfl

end Action

end Apidoc
