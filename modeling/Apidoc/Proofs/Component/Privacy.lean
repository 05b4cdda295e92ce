import Apidoc.Proofs.Component.Keys
import Mathlib.Data.List.Forall2

/-!
# Private definitions only add

A source is read with its private definitions or without.  Whatever is read without them is read
with them too, and nothing else about it changes.

* `ClassDoc.Within`, `ModuleDoc.Within`   a class or a module with some of the members of another;
* `ClassDoc.listed`, `ModuleDoc.listed`   the members that are listed without the private ones;
* `addMember_listed`, `addDefinition_listed`   one statement adds to what is listed as it adds to
                                               the whole;
* `readSource_listed`    without the private definitions just what is listed is read.
-/

namespace Apidoc

open Syntax

/-! ## parts -/

/-- The class is the other one with some of its members. -/
structure ClassDoc.Within (c d : ClassDoc) : Prop where
  header : c.toHeader = d.toHeader
  bases : c.bases = d.bases
  decorators : c.decorators = d.decorators
  methods : c.methods.Sublist d.methods
  properties : c.properties.Sublist d.properties
  classVariables : c.classVariables.Sublist d.classVariables

structure ModuleDoc.Within (m n : ModuleDoc) : Prop where
  header : m.toHeader = n.toHeader
  imports : m.imports = n.imports
  exports : m.exports = n.exports
  classes : List.SublistForall₂ ClassDoc.Within m.classes n.classes
  functions : m.functions.Sublist n.functions
  constants : m.constants.Sublist n.constants

def ModuleDoc.topNames (m : ModuleDoc) : List String × List String × List String :=
  (m.classes.map (·.name), m.functions.map (·.name), m.constants.map (·.name))

/-! ## what is listed -/

def ClassDoc.listed (c : ClassDoc) : ClassDoc :=
  { c with
    methods := c.methods.filter fun m => isMemberListed false m.name
    properties := c.properties.filter fun p => isMemberListed false p.name
    classVariables := c.classVariables.filter fun v => isMemberListed false v.name }

def ModuleDoc.listed (m : ModuleDoc) : ModuleDoc :=
  { m with
    classes := (m.classes.filter fun c => isListed false m.exports c.name).map ClassDoc.listed
    functions := m.functions.filter fun f => isListed false m.exports f.name
    constants := m.constants.filter fun p => isListed false m.exports p.name }

theorem ClassDoc.listed_within (c : ClassDoc) : c.listed.Within c :=
  ⟨rfl, rfl, rfl, List.filter_sublist, List.filter_sublist, List.filter_sublist⟩

theorem ModuleDoc.listed_within (m : ModuleDoc) : m.listed.Within m where
  header := rfl
  imports := rfl
  exports := rfl
  classes := by
    refine List.sublistForall₂_iff.mpr ⟨m.classes.filter fun c =>
      isListed false m.exports c.name, ?_,
      List.filter_sublist⟩
    exact List.forall₂_map_left_iff.mpr (List.forall₂_same.mpr fun c _ => c.listed_within)
  functions := List.filter_sublist
  constants := List.filter_sublist

/-! ## names -/

theorem isMemberListed_private (name : String) : isMemberListed true name = true := by
  simp [isMemberListed]

theorem isListed_private {exports : Option (List String)} {name : String}
    (h : isListed false exports name = true) : isListed true exports name = true := by
  cases exports with
  | none => simp [isListed]
  | some names => exact h

/-- Where a module declares what is listed, being private does not count. -/
theorem isListed_declared {exports : Option (List String)} (h : exports.isSome = true)
    (name : String) : isListed true exports name = isListed false exports name := by
  cases exports with
  | none => cases h
  | some names => rfl

theorem filter_map_names {α : Type} {p q : String → Bool} (hpq : ∀ id, p id = true → q id = true)
    {f : String → α} {g : α → String} (hg : ∀ id, g (f id) = id) (ids : List String) :
    ((ids.filter q).map f).filter (fun x => p (g x)) = (ids.filter p).map f := by
  rw [List.filter_map, List.filter_filter]
  refine congrArg (List.map f) (List.filter_congr fun id _ => ?_)
  rw [Function.comp_apply, hg]
  cases hp : p id with
  | false => rfl
  | true => exact hpq id hp

theorem if_listed {ε σ α β : Type} {listed : σ → σ} {p q : Bool} {x : Except ε α}
    {y : Except ε β} {f : α → σ} {g : β → σ} {m n : σ} (hpq : p = true → q = true)
    (hx : ∀ a, x = .ok a → ∃ b, y = .ok b ∧ (p = true → listed (f a) = g b) ∧
      (p = false → listed (f a) = listed m))
    (h : (if q then x >>= fun a => pure (f a) else .ok m) = .ok n) :
    (if p then y >>= fun b => pure (g b) else .ok (listed m)) = .ok (listed n) := by
  cases q with
  | false =>
    have hp : p = false := by simpa using hpq
    cases h
    rw [hp]
    rfl
  | true =>
    obtain ⟨a, ha, h⟩ := bind_eq_ok.1 h
    obtain ⟨b, hb, hlisted, hunlisted⟩ := hx a ha
    rw [← Except.ok.inj h]
    cases p with
    | false => exact congrArg Except.ok (hunlisted rfl).symm
    | true => exact bind_eq_ok.2 ⟨b, hb, congrArg Except.ok (hlisted rfl).symm⟩

/-! ## members of classes -/

section

variable {path : String} {text : List Char}

theorem addMember_listed {parent : String} {c d : ClassDoc} {s : Stmt}
    (h : addMember ⟨path, text, true⟩ parent c s = .ok d) :
    addMember ⟨path, text, false⟩ parent c.listed s = .ok d.listed := by
  unfold addMember at h
  split at h
  · next span isAsync name signature returns decorators body =>
    rw [addMember]
    refine if_listed (fun _ => isMemberListed_private name) (fun m hm => ⟨m, hm, ?_⟩) h
    have hname : m.name = name := (Source.header_eq (readMethod_header hm)).1
    have hproperty : m.toProperty.name = name := hname
    split
    · simp +contextual [ClassDoc.listed, hproperty]
    · simp +contextual [ClassDoc.listed, hname]
  · next span id hint value =>
    rw [addMember]
    refine if_listed (fun _ => isMemberListed_private id) (fun p hp => ⟨p, hp, ?_⟩) h
    have hname : p.name = id := (Source.header_eq (readAnnotated_header hp)).1
    simp +contextual [ClassDoc.listed, hname]
  · next span targets value =>
    have hids :=
      filter_map_names (p := isMemberListed false) (fun id _ => isMemberListed_private id)
      (f := fun id => readAssignment ⟨path, text, true⟩ true span id value) (g := (·.name))
        (fun _ => rfl)
      (nameTargets targets)
    rw [addMember, ← Except.ok.inj h]
    simp only [ClassDoc.listed, List.filter_append, hids]
    rfl
  · next hfunction hannotated hassign =>
    cases h
    unfold addMember
    split
    · exact absurd rfl (hfunction _ _ _ _ _ _ _)
    · exact absurd rfl (hannotated _ _ _ _)
    · exact absurd rfl (hassign _ _ _)
    · rfl

theorem addMember_header {src : Source} {parent : String} {c d : ClassDoc} {s : Stmt}
    (h : addMember src parent c s = .ok d) : d.toHeader = c.toHeader := by
  unfold addMember at h
  split at h
  · split at h
    · obtain ⟨m, _, h⟩ := bind_eq_ok.1 h
      rw [← Except.ok.inj h]
      split <;> rfl
    · cases h
      rfl
  · split at h
    · obtain ⟨p, _, h⟩ := bind_eq_ok.1 h
      rw [← Except.ok.inj h]
    · cases h
      rfl
  · rw [← Except.ok.inj h]
  · cases h
    rfl

theorem readClass_listed {span : Span} {name : String} {bases decorators : List Expr}
    {body : List Stmt} {c : ClassDoc}
    (h : readClass ⟨path, text, true⟩ span name bases decorators body = .ok c) :
    c.name = name ∧ readClass ⟨path, text, false⟩ span name bases decorators body =
      .ok c.listed := by
  obtain ⟨bs, hbs, h⟩ := bind_eq_ok.1 h
  obtain ⟨ds, hds, h⟩ := bind_eq_ok.1 h
  have hname : c.name = name := foldlM_keeps (P := fun _ (c : ClassDoc) => c.name = name)
    (fun _ hname hstep => (congrArg Header.name (addMember_header hstep)).trans hname) rfl h
  have hlisted := foldlM_in_step (v := ClassDoc.listed) addMember_listed h
  simp only [ClassDoc.listed, List.filter_nil] at hlisted
  refine ⟨hname, bind_eq_ok.2 ⟨bs, hbs, bind_eq_ok.2 ⟨ds, hds, ?_⟩⟩⟩
  exact hlisted

/-! ## definitions of modules -/

theorem addDefinition_listed {m n : ModuleDoc} {s : Stmt}
    (h : addDefinition ⟨path, text, true⟩ m s = .ok n) :
    addDefinition ⟨path, text, false⟩ m.listed s = .ok n.listed := by
  unfold addDefinition at h
  split at h
  · next span name bases decorators body =>
    rw [addDefinition]
    refine if_listed isListed_private (fun c hc => ⟨c.listed, (readClass_listed hc).2, ?_⟩) h
    have hname : c.name = name := (readClass_listed hc).1
    simp +contextual [ModuleDoc.listed, hname]
  · next span isAsync name signature returns decorators body =>
    rw [addDefinition]
    refine if_listed isListed_private (fun f hf => ⟨f, hf, ?_⟩) h
    have hname : f.name = name := (Source.header_eq (readFunction_header hf)).1
    simp +contextual [ModuleDoc.listed, hname]
  · next span targets value =>
    have hids := filter_map_names (p := isListed false m.exports) (q := isListed true m.exports)
      (fun _ => isListed_private) (f := fun id => readAssignment
        ⟨path, text, true⟩ false span id value)
      (g := (·.name)) (fun _ => rfl) (nameTargets targets)
    rw [addDefinition, ← Except.ok.inj h]
    simp only [ModuleDoc.listed, List.filter_append, hids]
    rfl
  · next span id hint value =>
    rw [addDefinition]
    refine if_listed isListed_private (fun p hp => ⟨p, hp, ?_⟩) h
    have hname : p.name = id := (Source.header_eq (readAnnotated_header hp)).1
    simp +contextual [ModuleDoc.listed, hname]
  · next hclass hfunction hassign hannotated =>
    cases h
    unfold addDefinition
    split
    · exact absurd rfl (hclass _ _ _ _ _)
    · exact absurd rfl (hfunction _ _ _ _ _ _ _)
    · exact absurd rfl (hassign _ _ _)
    · exact absurd rfl (hannotated _ _ _ _)
    · rfl

structure ModuleDoc.Listed (m : ModuleDoc) : Prop where
  classes : ∀ c ∈ m.classes, isListed true m.exports c.name = true
  functions : ∀ f ∈ m.functions, isListed true m.exports f.name = true
  constants : ∀ p ∈ m.constants, isListed true m.exports p.name = true

theorem ModuleDoc.Listed.addDefinition {m n : ModuleDoc} {s : Stmt} (hm : m.Listed)
    (h : addDefinition ⟨path, text, true⟩ m s = .ok n) : n.Listed := by
  unfold Apidoc.addDefinition at h
  split at h
  · split at h
    · next hlisted =>
      obtain ⟨c, hc, h⟩ := bind_eq_ok.1 h
      rw [← (readClass_listed hc).1] at hlisted
      cases h
      exact { hm with
        classes := List.forall_mem_append.2 ⟨hm.classes, List.forall_mem_singleton.2 hlisted⟩ }
    · cases h
      exact hm
  · split at h
    · next hlisted =>
      obtain ⟨f, hf, h⟩ := bind_eq_ok.1 h
      rw [← (Source.header_eq (readFunction_header hf)).1] at hlisted
      cases h
      exact { hm with
        functions := List.forall_mem_append.2 ⟨hm.functions, List.forall_mem_singleton.2 hlisted⟩ }
    · cases h
      exact hm
  · cases h
    refine { hm with constants := List.forall_mem_append.2 ⟨hm.constants, ?_⟩ }
    intro p hp
    obtain ⟨id, hid, rfl⟩ := List.mem_map.1 hp
    exact (List.mem_filter.1 hid).2
  · split at h
    · next hlisted =>
      obtain ⟨p, hp, h⟩ := bind_eq_ok.1 h
      rw [← (Source.header_eq (readAnnotated_header hp)).1] at hlisted
      cases h
      exact { hm with
        constants := List.forall_mem_append.2 ⟨hm.constants, List.forall_mem_singleton.2 hlisted⟩ }
    · cases h
      exact hm
  · cases h
    exact hm

theorem ModuleDoc.Listed.topNames_listed {m : ModuleDoc} (hm : m.Listed)
    (h : m.exports.isSome = true) : m.listed.topNames = m.topNames := by
  have hclasses : m.classes.filter (fun c => isListed false m.exports c.name) = m.classes :=
    List.filter_eq_self.2 fun c hc => isListed_declared h c.name ▸ hm.classes c hc
  have hfunctions : m.functions.filter (fun f => isListed false m.exports f.name) = m.functions :=
    List.filter_eq_self.2 fun f hf => isListed_declared h f.name ▸ hm.functions f hf
  have hconstants : m.constants.filter (fun p => isListed false m.exports p.name) = m.constants :=
    List.filter_eq_self.2 fun p hp => isListed_declared h p.name ▸ hm.constants p hp
  simp only [topNames, listed, hclasses, hfunctions, hconstants, List.map_map]
  rfl

end

/-- A source that is read with its private definitions is read without them too, as what is listed.
-/
theorem readSource_listed {path name text : String} {n : ModuleDoc}
    (h : readSource true path name text = .ok n) :
    readSource false path name text = .ok n.listed ∧ n.Listed := by
  unfold readSource at h ⊢
  dsimp only at h ⊢
  cases hparse : parseModule (Text.unifyNewlines text.toList) with
  | none =>
    rw [hparse] at h
    cases h
  | some ss =>
    rw [hparse] at h
    have hn := ok_of_mapError h
    have hlisted := foldlM_in_step (v := ModuleDoc.listed) addDefinition_listed hn
    simp only [ModuleDoc.listed, List.filter_nil, List.map_nil] at hlisted
    refine ⟨?_, ?_⟩
    · show Except.mapError _ (readModule _ _ _) = _
      rw [show readModule _ _ _ = _ from hlisted]
      rfl
    · exact foldlM_keeps (P := fun _ m => m.Listed) (fun _ hm hstep => hm.addDefinition hstep)
        ⟨List.forall_mem_nil _, List.forall_mem_nil _, List.forall_mem_nil _⟩ hn

/-- **Private definitions only add.** The module that is read without them is the other one with
some of its definitions: those that are listed.  If the module declares its exports, both have the
same names at the top. -/
theorem public_within_private {path name text : String} {m n : ModuleDoc}
    (hm : readSource false path name text = .ok m) (hn : readSource true path name text = .ok n) :
    m.Within n ∧ (m.exports.isSome = true → m.topNames = n.topNames) ∧ m = n.listed := by
  obtain ⟨hlisted, hall⟩ := readSource_listed hn
  obtain rfl := Except.ok.inj (hm.symm.trans hlisted)
  exact ⟨n.listed_within, hall.topNames_listed, rfl⟩

/-- private names at the top and in a class, some of them bound together with others -/
def boxText : String :=
  "class Box:\n    _size = size = 1\n    def __init__(self): pass\n    def _grow(self): pass\n\n" ++
  "class _Lid: pass\n\ndef _open(): pass\n\n__version__ = _build = 1\n"

theorem boxText_within : ∃ m n, readSource false "box.py" "box" boxText = .ok m ∧
    readSource true "box.py" "box" boxText = .ok n ∧ m.components.length = 5 ∧
    n.components.length = 10 ∧
    m.Within n := by
  have heval (includePrivate : Bool) :
    (readSource includePrivate "box.py" "box" boxText).toOption.any
      (fun m => m.components.length == if includePrivate then 10 else 5) = true := by
    revert includePrivate
    decide +kernel
  have hpublic := heval false
  have hprivate := heval true
  cases hm : readSource false "box.py" "box" boxText with
  | error e => rw [hm] at hpublic; cases hpublic
  | ok m =>
    cases hn : readSource true "box.py" "box" boxText with
    | error e => rw [hn] at hprivate; cases hprivate
    | ok n =>
      rw [hm] at hpublic
      rw [hn] at hprivate
      exact ⟨m, n, rfl, rfl, eq_of_beq hpublic, eq_of_beq hprivate, (public_within_private hm hn).1⟩

end Apidoc
