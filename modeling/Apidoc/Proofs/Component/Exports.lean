import Apidoc.Proofs.Component.Privacy
import Apidoc.Proofs.Text.Words

/-!
# Names that are listed

Which definitions of a module are shown is decided by their names: by the exports the module
declares, or else by the underscores they start with.  A module is executed from top to bottom, and
the statements that assign to its exports can bind them anew or extend them; only the first plain
assignment is read.

* `ModuleDoc.ListedFrom`     what reading keeps from statement to statement: just what is listed is
                             there;
* `underscored_listed_iff`   when no private name is shown;
* `executed`                 the exports that executing a module leaves;
* `exports_executed_iff`     when these are the exports that are read.
-/

namespace Apidoc

open Syntax

/-! ## definitions by name -/

def Syntax.Stmt.definitions : Stmt → List (Kind × String)
  | .classDef _ name _ _ _ => [(.classDef, name)]
  | .function _ _ name _ _ _ _ => [(.function, name)]
  | .assign _ targets _ => (nameTargets targets).map fun id => (.constant, id)
  | .annotated _ (.name id) _ _ => [(.constant, id)]
  | _ => []

def ModuleDoc.definitions (m : ModuleDoc) : List (Kind × String) :=
  m.classes.map (fun c => (.classDef, c.name)) ++ m.functions.map (fun f => (.function, f.name)) ++
    m.constants.map (fun p => (.constant, p.name))

def ClassDoc.memberNames (c : ClassDoc) : List String :=
  c.methods.map (·.name) ++ c.properties.map (·.name) ++ c.classVariables.map (·.name)

/-- From the statements just the definitions with listed names were read, and in classes just such
members. -/
structure ModuleDoc.ListedFrom (includePrivate : Bool) (e : Option (List String)) (ss : List Stmt)
    (m : ModuleDoc) : Prop where
  exports : m.exports = e
  definitions : m.definitions.Perm ((ss.flatMap Stmt.definitions).filter fun d =>
    isListed includePrivate e d.2)
  members : ∀ c ∈ m.classes, ∀ n ∈ c.memberNames, isMemberListed includePrivate n = true

theorem addMember_memberNames {src : Source} {parent : String} {c d : ClassDoc} {s : Stmt}
    (hc : ∀ n ∈ c.memberNames, isMemberListed src.includePrivate n = true)
    (h : addMember src parent c s = .ok d) :
    ∀ n ∈ d.memberNames, isMemberListed src.includePrivate n = true := by
  simp only [ClassDoc.memberNames, List.forall_mem_append, List.forall_mem_map] at hc ⊢
  obtain ⟨⟨hmethods, hproperties⟩, hbindings⟩ := hc
  unfold addMember at h
  split at h
  · split at h
    · next hlisted =>
      obtain ⟨m, hm, h⟩ := bind_eq_ok.1 h
      rw [← (Source.header_eq (readMethod_header hm)).1] at hlisted
      rw [← Except.ok.inj h]
      split
      · exact ⟨⟨hmethods, List.forall_mem_append.2
          ⟨hproperties, List.forall_mem_singleton.2 hlisted⟩⟩, hbindings⟩
      · exact ⟨⟨List.forall_mem_append.2 ⟨hmethods, List.forall_mem_singleton.2 hlisted⟩,
          hproperties⟩, hbindings⟩
    · cases h
      exact ⟨⟨hmethods, hproperties⟩, hbindings⟩
  · split at h
    · next hlisted =>
      obtain ⟨p, hp, h⟩ := bind_eq_ok.1 h
      rw [← (Source.header_eq (readAnnotated_header hp)).1] at hlisted
      rw [← Except.ok.inj h]
      exact ⟨⟨hmethods, hproperties⟩, List.forall_mem_append.2
        ⟨hbindings, List.forall_mem_singleton.2 hlisted⟩⟩
    · cases h
      exact ⟨⟨hmethods, hproperties⟩, hbindings⟩
  · rw [← Except.ok.inj h]
    refine ⟨⟨hmethods, hproperties⟩, List.forall_mem_append.2
      ⟨hbindings, List.forall_mem_map.2 fun id hid => ?_⟩⟩
    exact (List.mem_filter.1 hid).2
  · cases h
    exact ⟨⟨hmethods, hproperties⟩, hbindings⟩

theorem readClass_memberNames {src : Source} {span : Span} {name : String}
    {bases decorators : List Expr} {body : List Stmt} {c : ClassDoc}
    (h : readClass src span name bases decorators body = .ok c) :
    c.name = name ∧ ∀ n ∈ c.memberNames, isMemberListed src.includePrivate n = true := by
  obtain ⟨bs, -, h⟩ := bind_eq_ok.1 h
  obtain ⟨ds, -, h⟩ := bind_eq_ok.1 h
  refine foldlM_keeps (P := fun _ (c : ClassDoc) =>
    c.name = name ∧ ∀ n ∈ c.memberNames, isMemberListed src.includePrivate n = true) ?_ ?_ h
  · intro done s a b _ ha hstep
    exact ⟨(congrArg Header.name (addMember_header hstep)).trans ha.1,
      addMember_memberNames ha.2 hstep⟩
  · exact ⟨rfl, List.forall_mem_nil _⟩

section

variable (m : ModuleDoc)

theorem ModuleDoc.definitions_class (c : ClassDoc) :
    { m with classes := m.classes ++ [c] }.definitions.Perm
      (m.definitions ++ [(Kind.classDef, c.name)]) := by
  simp only [definitions, List.map_append, List.append_assoc]
  rw [← List.append_assoc (m.functions.map _)]
  exact .append_left _ List.perm_append_comm

theorem ModuleDoc.definitions_function (f : FunctionDoc) :
    { m with functions := m.functions ++ [f] }.definitions.Perm
      (m.definitions ++ [(Kind.function, f.name)]) := by
  simp only [definitions, List.map_append, List.append_assoc]
  exact .append_left _ (.append_left _ List.perm_append_comm)

theorem ModuleDoc.definitions_constants (ps : List PropertyDoc) :
    { m with constants := m.constants ++ ps }.definitions =
      m.definitions ++ ps.map fun p => (.constant, p.name) := by
  simp only [definitions, List.map_append, List.append_assoc]

end

theorem ModuleDoc.ListedFrom.step {src : Source} {e : Option (List String)}
    {ss : List Stmt} {s : Stmt} {m n : ModuleDoc} (hm : m.ListedFrom src.includePrivate e ss)
    (h : addDefinition src m s = .ok n) : n.ListedFrom src.includePrivate e (ss ++ [s]) := by
  obtain ⟨rfl, hdefinitions, hmembers⟩ := hm
  suffices hadds : n.exports = m.exports ∧
      n.definitions.Perm (m.definitions ++ s.definitions.filter fun d =>
        isListed src.includePrivate m.exports d.2) ∧
      ∀ c ∈ n.classes, c ∈ m.classes ∨
      ∀ n ∈ c.memberNames, isMemberListed src.includePrivate n = true by
    refine ⟨hadds.1, ?_, fun c hc => (hadds.2.2 c hc).elim (hmembers c) id⟩
    rw [List.flatMap_append, List.filter_append, List.flatMap_singleton]
    exact hadds.2.1.trans (.append_right _ hdefinitions)
  unfold addDefinition at h
  split at h
  · split at h
    · next hlisted =>
      obtain ⟨c, hc, hn⟩ := bind_eq_ok.1 h
      obtain ⟨rfl, hlistedMembers⟩ := readClass_memberNames hc
      rw [← Except.ok.inj hn]
      refine ⟨rfl, by simpa [Stmt.definitions, hlisted] using m.definitions_class c, fun d hd => ?_⟩
      exact (List.mem_append.1 hd).imp_right fun hd => by rwa [List.mem_singleton.1 hd]
    · next hlisted =>
      cases h
      exact ⟨rfl, by simp [Stmt.definitions, hlisted], fun c => .inl⟩
  · split at h
    · next hlisted =>
      obtain ⟨f, hf, hn⟩ := bind_eq_ok.1 h
      obtain ⟨rfl, -⟩ := Source.header_eq (readFunction_header hf)
      rw [← Except.ok.inj hn]
      exact ⟨rfl, by simpa [Stmt.definitions,
        hlisted] using m.definitions_function f, fun c => .inl⟩
    · next hlisted =>
      cases h
      exact ⟨rfl, by simp [Stmt.definitions, hlisted], fun c => .inl⟩
  · rw [← Except.ok.inj h]
    refine ⟨rfl, ?_, fun c => .inl⟩
    rw [m.definitions_constants, Stmt.definitions, List.map_map, List.filter_map]
    rfl
  · split at h
    · next hlisted =>
      obtain ⟨p, hp, hn⟩ := bind_eq_ok.1 h
      obtain ⟨rfl, -⟩ := Source.header_eq (readAnnotated_header hp)
      rw [← Except.ok.inj hn, m.definitions_constants]
      exact ⟨rfl, by simp [Stmt.definitions, hlisted], fun c => .inl⟩
    · next hlisted =>
      cases h
      exact ⟨rfl, by simp [Stmt.definitions, hlisted], fun c => .inl⟩
  · next hclass hfunction hassign hannotated =>
    cases h
    have hnone : s.definitions = [] := by
      unfold Stmt.definitions
      split
      · exact absurd rfl (hclass _ _ _ _ _)
      · exact absurd rfl (hfunction _ _ _ _ _ _ _)
      · exact absurd rfl (hassign _ _ _)
      · exact absurd rfl (hannotated _ _ _ _)
      · rfl
    rw [hnone, List.filter_nil, List.append_nil]
    exact ⟨rfl, .refl _, fun c => .inl⟩

theorem readModule_listedFrom {src : Source} {name : String} {ss : Module} {m : ModuleDoc}
    (h : readModule src name ss = .ok m) : m.ListedFrom src.includePrivate (exportsOf ss) ss :=
  foldlM_keeps (P := fun done m => m.ListedFrom src.includePrivate (exportsOf ss) done)
    (fun _ hm hstep => hm.step hstep) ⟨rfl, .refl _, List.forall_mem_nil _⟩ h

/-! ## underscores -/

/-- a name without an underscore at its start, or with two at the start and at the end -/
def IsOpenName (name : String) : Prop :=
  ¬ "_".toList <+: name.toList ∨ "__".toList <+: name.toList ∧ "__".toList <:+ name.toList

theorem startsWith_iff {word name : String} :
    startsWith word name = true ↔ word.toList <+: name.toList :=
  Text.dropWord?_isSome

/-- Special methods have underscores on both sides. -/
theorem isOpenName_of_member {name : String} (h : isMemberListed false name = true) :
    IsOpenName name := by
  have hspecial : ∀ s ∈ specialMethods, "__".toList <+: s.toList ∧
    "__".toList <:+ s.toList := by decide
  rw [isMemberListed, Bool.false_or, Bool.or_eq_true, List.contains_iff_mem, Bool.not_eq_true'] at h
  refine h.symm.imp (fun hplain hstart => ?_) (hspecial name)
  rw [startsWith_iff.2 hstart] at hplain
  cases hplain

/-- At the top two underscores at the start are enough. -/
theorem isListed_open_iff {name : String} :
    isListed false none name = true ↔ ¬ "_".toList <+: name.toList ∨
    "__".toList <+: name.toList := by
  have hlisted : isListed false none name = (!startsWith "_" name || startsWith "__" name) := by
    simp [isListed]
  rw [hlisted, Bool.or_eq_true, Bool.not_eq_true', ← Bool.not_eq_true, startsWith_iff,
    startsWith_iff]

/-- **when no private name is shown** Of a module that declares no exports, read without its private
definitions, the members of classes that are shown never have private names, and the definitions at
the top have none if and only if every name there that starts with two underscores ends with two as
well. -/
theorem underscored_listed_iff {path name text : String} {m : ModuleDoc}
    (h : readSource false path name text = .ok m) (hexports : m.exports = none) :
    (∀ c ∈ m.classes, ∀ n ∈ c.memberNames, IsOpenName n) ∧
    ∃ ss, parseModule (Text.unifyNewlines text.toList) = some ss ∧
      ((∀ d ∈ m.definitions, IsOpenName d.2) ↔
        ∀ d ∈ ss.flatMap Stmt.definitions, "__".toList <+: d.2.toList →
        "__".toList <:+ d.2.toList) := by
  unfold readSource at h
  dsimp only at h
  split at h
  · cases h
  next ss hss =>
  obtain ⟨hread, hdefinitions, hmembers⟩ := readModule_listedFrom (ok_of_mapError h)
  rw [← hread, hexports] at hdefinitions
  refine ⟨fun c hc n hn => isOpenName_of_member (hmembers c hc n hn), ss, hss, ?_⟩
  simp only [hdefinitions.mem_iff, List.mem_filter, isListed_open_iff]
  constructor
  · intro hall d hd htwo
    -- two underscores at the start are one at the start
    have hone : "_".toList <+: d.2.toList := List.IsPrefix.trans (by decide) htwo
    exact ((hall d ⟨hd, .inr htwo⟩).resolve_left fun hnone => hnone hone).2
  · rintro hall d ⟨hd, hnone | htwo⟩
    · exact .inl hnone
    · exact .inr ⟨htwo, hall d hd htwo⟩

def lidText : String :=
  "class Lid:\n    __fit = 1\n    def __init__(self): pass\n__version__ = _build = 1\n"

theorem lidText_open : ∃ m, readSource false "lid.py" "lid" lidText = .ok m ∧ m.exports = none ∧
    m.definitions = [(.classDef, "Lid"), (.constant, "__version__")] ∧
    ∀ d ∈ m.definitions, IsOpenName d.2 := by
  have heval : (readSource false "lid.py" "lid" lidText).toOption.map
    (fun m => (m.exports, m.definitions)) =
      some (none, [(.classDef, "Lid"), (.constant, "__version__")]) := by decide +kernel
  have hnames : (parseModule (Text.unifyNewlines lidText.toList)).map
    (fun ss => ss.flatMap Stmt.definitions) =
      some [(.classDef, "Lid"), (.constant, "__version__"), (.constant, "_build")] := by
        decide +kernel
  cases h : readSource false "lid.py" "lid" lidText with
  | error e =>
    rw [h] at heval
    cases heval
  | ok m =>
    rw [h] at heval
    obtain ⟨hexports, hdefinitions⟩ := Prod.mk.inj (Option.some.inj heval)
    obtain ⟨-, ss, hss, hopen⟩ := underscored_listed_iff h hexports
    rw [hss] at hnames
    refine ⟨m, rfl, hexports, hdefinitions, hopen.2 ?_⟩
    rw [show ss.flatMap Stmt.definitions = _ from Option.some.inj hnames]
    decide

/-- A name at the top with two underscores at its start only is shown. -/
theorem secret_shown : (readSource false "keys.py" "keys" "__secret = 1\n").toOption.map
    (fun m => (m.exports, m.definitions)) = some (none, [(.constant, "__secret")]) ∧
    ¬ IsOpenName "__secret" := by
  refine ⟨by decide +kernel, ?_⟩
  rintro (hstart | ⟨-, hend⟩)
  · exact hstart (by decide)
  · exact absurd hend (by decide)

/-! ## executing a module -/

/-- what the exports are bound to: the names in a list or in a tuple -/
structure ExportValue where
  isList : Bool
  names : List String

/-- A list is extended by any sequence, a tuple by tuples only. -/
def ExportValue.extend (v w : ExportValue) : Option ExportValue :=
  if v.isList || !w.isList then some { v with names := v.names ++ w.names } else none

/-- a statement that assigns to the exports: plainly, with a type hint, or adding to them -/
inductive ExportStep where
  | assign (v : ExportValue)
  | annotate (v : ExportValue)
  | extend (v : ExportValue)

namespace ExportStep

def run (v : ExportValue) : ExportStep → Option ExportValue
  | .assign w => some w
  | .annotate w => some w
  | .extend w => v.extend w

def assigned? : ExportStep → Option (List String)
  | .assign v => some v.names
  | _ => none

/-- what the steps leave; the first one has to bind the name -/
def execute : List ExportStep → Option ExportValue
  | .assign v :: rest => rest.foldlM run v
  | .annotate v :: rest => rest.foldlM run v
  | _ => none

end ExportStep

def exportValue? : Expr → Option ExportValue
  | .list es => (es.mapM textElement).map (⟨true, ·⟩)
  | .tuple es => (es.mapM textElement).map (⟨false, ·⟩)
  | _ => none

def exportStep? : Stmt → Option ExportStep
  | .assign _ [.name "__all__"] value => (exportValue? value).map .assign
  | .annotated _ (.name "__all__") _ (some value) => (exportValue? value).map .annotate
  | .augmented (.name "__all__") .add value => (exportValue? value).map .extend
  | _ => none

/-- Whether the statement assigns to the exports or defines something under their name. -/
def assignsExports : Stmt → Bool
  | .assign _ targets _ => targets.any bindsExports
  | .annotated _ target _ value => bindsExports target && value.isSome
  | .augmented target _ _ => bindsExports target
  | .function _ _ name _ _ _ _ => name == "__all__"
  | .classDef _ name _ _ _ => name == "__all__"
  | _ => false

def executed (ss : Module) : Option (List String) :=
  (ExportStep.execute (ss.filterMap exportStep?)).map (·.names)

theorem declaredExports_eq {s : Stmt} {step : ExportStep} (h : exportStep? s = some step) :
    declaredExports s = step.assigned? := by
  unfold exportStep? at h
  split at h
  · next span value =>
    obtain ⟨v, hv, rfl⟩ := Option.map_eq_some_iff.1 h
    have hbinds : [Expr.name "__all__"].any bindsExports = true := rfl
    unfold exportValue? at hv
    split at hv
    · obtain ⟨names, hnames, rfl⟩ := Option.map_eq_some_iff.1 hv
      exact (if_pos (e := none) hbinds).trans (congrArg some (filterMap_of_mapM hnames))
    · obtain ⟨names, hnames, rfl⟩ := Option.map_eq_some_iff.1 hv
      exact (if_pos (e := none) hbinds).trans (congrArg some (filterMap_of_mapM hnames))
    · cases hv
  · obtain ⟨v, -, rfl⟩ := Option.map_eq_some_iff.1 h
    rfl
  · obtain ⟨v, -, rfl⟩ := Option.map_eq_some_iff.1 h
    rfl
  · cases h

theorem declaredExports_eq_none {s : Stmt} (h : assignsExports s = false) :
    declaredExports s = none := by
  cases s with
  | assign span targets value => exact if_neg (Bool.eq_false_iff.1 h)
  | _ => rfl

section

variable {ss : Module} (hplain : ∀ s ∈ ss, assignsExports s = true → (exportStep? s).isSome)

include hplain

theorem exportsOf_eq :
    exportsOf ss = (ss.filterMap exportStep?).findSome? ExportStep.assigned? := by
  induction ss with
  | nil => rfl
  | cons s ss ih =>
    obtain ⟨hs, hss⟩ := List.forall_mem_cons.1 hplain
    have ih := ih hss
    rw [exportsOf, List.findSome?_cons]
    cases hstep : exportStep? s with
    | none =>
      have hnot : assignsExports s = false := by
        rw [← Bool.not_eq_true]
        intro hs'
        exact absurd (hs hs') (by rw [hstep]; exact Bool.false_ne_true)
      rw [declaredExports_eq_none hnot, List.filterMap_cons_none hstep]
      exact ih
    | some step =>
      rw [declaredExports_eq hstep, List.filterMap_cons_some hstep, List.findSome?_cons, ← ih,
        exportsOf]

end

/-- A plain assignment makes what came before it immaterial. -/
theorem ExportStep.execute_assign {before after : List ExportStep} {v w : ExportValue}
    (h : execute (before ++ .assign v :: after) = some w) : after.foldlM run v = some w := by
  have hlater {u : ExportValue} {before : List ExportStep}
      (h : (before ++ .assign v :: after).foldlM run u = some w) : after.foldlM run v = some w := by
    rw [List.foldlM_append] at h
    obtain ⟨x, -, h⟩ := Option.bind_eq_some_iff.1 h
    exact h
  cases before with
  | nil => exact h
  | cons first before =>
    cases first with
    | assign u => exact hlater h
    | annotate u => exact hlater h
    | extend u => cases h

/-- **when the exports that are read are those that executing the module leaves** In a module whose
exports are only bound to lists or tuples of texts, plainly or with a type hint, and extended by
such, the exports that are read are those that executing the statements leaves if and only if one of
the statements is a plain assignment and those after the first such leave its names as they are.
Then just the definitions that are exported are shown. -/
theorem exports_executed_iff {ss : Module} {names : List String}
    (hplain : ∀ s ∈ ss, assignsExports s = true → (exportStep? s).isSome)
    (hleft : executed ss = some names) :
    (exportsOf ss = some names ↔ ∃ before v after, ss.filterMap exportStep? = before ++
      .assign v :: after ∧
      (∀ step ∈ before, step.assigned? = none) ∧ (after.foldlM ExportStep.run v).map (·.names) =
        some v.names) ∧
    ∀ src name m, readModule src name ss = .ok m → m.exports = exportsOf ss ∧
    (exportsOf ss = some names →
      m.definitions.Perm ((ss.flatMap Stmt.definitions).filter fun d => d.2 ∈ names)) := by
  obtain ⟨w, hw, rfl⟩ := Option.map_eq_some_iff.1 hleft
  refine ⟨?_, fun src name m hm => ?_⟩
  · rw [exportsOf_eq hplain, List.findSome?_eq_some_iff]
    constructor
    · rintro ⟨before, step, after, hsteps, hstep, hbefore⟩
      cases step with
      | assign v =>
        rw [hsteps] at hw
        refine ⟨before, v, after, hsteps, hbefore, ?_⟩
        rw [ExportStep.execute_assign hw]
        exact hstep.symm
      | annotate v => cases hstep
      | extend v => cases hstep
    · rintro ⟨before, v, after, hsteps, hbefore, hkept⟩
      rw [hsteps] at hw
      rw [ExportStep.execute_assign hw] at hkept
      exact ⟨before, .assign v, after, hsteps, hkept.symm, hbefore⟩
  · obtain ⟨hread, hdefinitions, -⟩ := readModule_listedFrom hm
    refine ⟨hread, fun hexports => ?_⟩
    rw [hexports] at hdefinitions
    simpa [isListed] using hdefinitions

/-- exports that are bound twice and then extended by nothing -/
def boundText : String := "__all__: list = []\n__all__ = 'a',\n__all__ += ()\n"

theorem boundText_executed :
    ∃ ss, parseModule boundText.toList = some ss ∧ executed ss = some ["a"] ∧
    ∃ before v after, ss.filterMap exportStep? = before ++ .assign v :: after ∧
      (∀ step ∈ before, step.assigned? = none) ∧ (after.foldlM ExportStep.run v).map (·.names) =
        some v.names := by
  have heval : (parseModule boundText.toList).map (fun ss =>
      (ss.all fun s => !assignsExports s || (exportStep? s).isSome, executed ss, exportsOf ss)) =
        some (true, some ["a"], some ["a"]) := by decide +kernel
  obtain ⟨ss, hss, heval⟩ := Option.map_eq_some_iff.1 heval
  obtain ⟨hplain, hrest⟩ := Prod.mk.inj heval
  obtain ⟨hleft, hread⟩ := Prod.mk.inj hrest
  refine ⟨ss, hss, hleft, (exports_executed_iff (fun s hs hassigns => ?_) hleft).1.1 hread⟩
  simpa [hassigns] using List.all_eq_true.1 hplain s hs

def extendedText : String := "__all__ = ['a']\n__all__ += ['b']\na = b = 1\n"

/-- What is added to the exports is not read, and a definition that is exported is left out. -/
theorem extendedText_dropped :
    (parseModule extendedText.toList).map (fun ss =>
      (ss.all fun s => !assignsExports s || (exportStep? s).isSome, executed ss, exportsOf ss)) =
        some (true, some ["a", "b"], some ["a"]) ∧
    (readSource false "ab.py" "ab" extendedText).toOption.map (·.definitions) =
      some [(.constant, "a")] := by
  decide +kernel

end Apidoc
