import Apidoc.Component.Reader
import Apidoc.Proofs.Result
import Apidoc.Proofs.Syntax.StatementLines
import Apidoc.Proofs.Text.Cut
import Mathlib.Data.List.Nodup
import Mathlib.Data.List.Perm.Basic
import Std.Data.String.ToInt

/-!
# Keys of components

The key of a component is the path of its file, a name and a line.  Which keys of a module are equal
is decided by the names and lines alone (`Mark`).

* `componentKey_inj`        a key tells the name and the line;
* `ModuleDoc.keys`          the keys of all components of a module, in the order of `components`;
* `Origin`                  marks, and the statements they were read from;
* `ModuleDoc.ReadFrom`      what reading keeps from statement to statement;
* `ModuleDoc.Unclashing`    the condition under which all keys of a module differ.
-/

namespace Apidoc

open Syntax

/-! ## marks and keys -/

abbrev Mark : Type := String × Int

theorem componentKey_inj {path : String} {p q : Mark} :
    componentKey path p.1 p.2 = componentKey path q.1 q.2 ↔ p = q := by
  refine ⟨fun h => ?_, fun h => by rw [h]⟩
  have hcolon (n : Int) : ':' ∉ (toString n).toList := not_mem_toString (by decide) rfl n
  obtain ⟨hname, hline⟩ := cut_last_inj rfl (hcolon _) (hcolon _) h
  have hname := String.toList_inj.2 hname
  simp only [String.toList_append, List.append_cancel_left_eq, String.toList_inj] at hname
  exact Prod.ext hname (Int.repr_inj.1 hline)

def Header.mark (h : Header) : Mark := (h.name, h.line)

namespace ClassDoc

/-- methods and properties, which are called after the class -/
def memberMarks (c : ClassDoc) : List Mark :=
  c.methods.map (fun m => (c.name ++ "." ++ m.name, m.line)) ++
    c.properties.map (fun p => (c.name ++ "." ++ p.name, p.line))

def variableMarks (c : ClassDoc) : List Mark := c.classVariables.map fun v => v.mark

def marks (c : ClassDoc) : List Mark := c.mark :: c.memberMarks ++ c.variableMarks

/-- the marks that can share a line: the class and its variables -/
def openMarks (c : ClassDoc) : List Mark := c.mark :: c.variableMarks

end ClassDoc

namespace ModuleDoc

def functionMarks (m : ModuleDoc) : List Mark := m.functions.map fun f => f.mark

def constantMarks (m : ModuleDoc) : List Mark := m.constants.map fun p => p.mark

def marks (m : ModuleDoc) : List Mark :=
  m.mark :: m.classes.flatMap ClassDoc.marks ++ m.functionMarks ++ m.constantMarks

def openMarks (m : ModuleDoc) : List Mark :=
  m.classes.flatMap ClassDoc.openMarks ++ m.functionMarks ++ m.constantMarks

def keys (m : ModuleDoc) : List String := m.marks.map fun p => componentKey m.path p.1 p.2

theorem keys_nodup (m : ModuleDoc) : m.keys.Nodup ↔ m.marks.Nodup :=
  List.nodup_map_iff fun _ _ h => componentKey_inj.1 h

end ModuleDoc

/-! ## identities -/

/-- Every component of the class has the identity that its key gives. -/
structure ClassDoc.Keyed (path : String) (c : ClassDoc) : Prop where
  own : c.id = componentId path c.name c.line
  methods : ∀ m ∈ c.methods, m.id = componentId path (c.name ++ "." ++ m.name) m.line
  properties : ∀ p ∈ c.properties, p.id = componentId path (c.name ++ "." ++ p.name) p.line
  bindings : ∀ v ∈ c.classVariables, v.id = componentId path v.name v.line

theorem ClassDoc.Keyed.ids {path : String} {c : ClassDoc} (h : c.Keyed path) :
    c.components.map Component.id = c.marks.map fun p => componentId path p.1 p.2 := by
  simp only [components, marks, memberMarks, variableMarks, List.map_cons, List.map_append,
    List.map_map, List.cons_append, List.append_assoc]
  exact congrArg₂ List.cons h.own (congrArg₂ _ (List.map_congr_left h.methods)
    (congrArg₂ _ (List.map_congr_left h.properties) (List.map_congr_left h.bindings)))

structure ModuleDoc.Keyed (m : ModuleDoc) : Prop where
  own : m.id = componentId m.path m.name m.line
  classes : ∀ c ∈ m.classes, c.Keyed m.path
  functions : ∀ f ∈ m.functions, f.id = componentId m.path f.name f.line
  constants : ∀ p ∈ m.constants, p.id = componentId m.path p.name p.line

theorem ModuleDoc.Keyed.ids {m : ModuleDoc} (h : m.Keyed) :
    m.components.map Component.id = m.keys.map digestId := by
  have hkeys : m.keys.map digestId = m.marks.map fun p => componentId m.path p.1 p.2 := by
    rw [keys, List.map_map]
    exact List.map_congr_left fun p _ => rfl
  simp only [hkeys, components, marks, functionMarks, constantMarks, List.map_cons, List.map_append,
    List.map_map, List.map_flatMap, List.cons_append, List.append_assoc]
  exact congrArg₂ List.cons h.own (congrArg₂ _ (List.flatMap_congr fun c hc => (h.classes c hc).ids)
    (congrArg₂ _ (List.map_congr_left h.functions) (List.map_congr_left h.constants)))

/-! ## marks and the statements they come from -/

def Mark.In (p : Mark) (s : Stmt) : Prop := ∃ l ∈ s.lines, p.2 = l

theorem Mark.In.ne {p q : Mark} {s t : Stmt} (hp : p.In s) (hq : q.In t) (h : s.Apart t)
    (hdef : s.isDefinition ∨ t.isDefinition) : p ≠ q := by
  rintro rfl
  obtain ⟨a, ha, hpa⟩ := hp
  obtain ⟨b, hb, hpb⟩ := hq
  have hlt := h hdef a ha b hb
  omega

/-- Each block of marks comes from a definition among the statements and shares no mark with the
others; single marks may come from any statement. -/
structure Origin (ss : List Stmt) (blocks : List (List Mark)) (singles : List Mark) : Prop where
  apart : blocks.Pairwise List.Disjoint
  defined : ∀ b ∈ blocks, ∃ s ∈ ss, s.isDefinition ∧ ∀ p ∈ b, p.In s
  bound : ∀ p ∈ singles, ∃ s ∈ ss, p.In s
  disjoint : ∀ b ∈ blocks, b.Disjoint singles

namespace Origin

variable {ss : List Stmt} {s : Stmt} {blocks : List (List Mark)} {singles : List Mark}

theorem nil : Origin [] [] [] :=
  ⟨.nil, nofun, nofun, nofun⟩

theorem later (h : Origin ss blocks singles) (s : Stmt) : Origin (ss ++ [s]) blocks singles where
  apart := h.apart
  defined b hb := by
    obtain ⟨t, ht, hin⟩ := h.defined b hb
    exact ⟨t, List.mem_append_left _ ht, hin⟩
  bound p hp := by
    obtain ⟨t, ht, hin⟩ := h.bound p hp
    exact ⟨t, List.mem_append_left _ ht, hin⟩
  disjoint := h.disjoint

theorem define (h : Origin ss blocks singles) (hs : ∀ t ∈ ss, t.Apart s) (hdef : s.isDefinition)
    {b : List Mark} (hb : ∀ p ∈ b, p.In s) {blocks' : List (List Mark)}
    (hperm : blocks'.Perm (b :: blocks)) : Origin (ss ++ [s]) blocks' singles where
  apart := by
    rw [hperm.pairwise_iff List.disjoint_symm, List.pairwise_cons]
    refine ⟨fun b' hb' p hp hp' => ?_, h.apart⟩
    obtain ⟨t, ht, hdef', hin⟩ := h.defined b' hb'
    exact (hin p hp').ne (hb p hp) (hs t ht) (.inl hdef') rfl
  defined b' hb' := by
    rcases List.mem_cons.1 (hperm.mem_iff.1 hb') with rfl | hb'
    · exact ⟨s, by simp, hdef, hb⟩
    · exact (h.later s).defined b' hb'
  bound := (h.later s).bound
  disjoint b' hb' := by
    rcases List.mem_cons.1 (hperm.mem_iff.1 hb') with rfl | hb'
    · intro p hp hp'
      obtain ⟨t, ht, hin⟩ := h.bound p hp'
      exact hin.ne (hb p hp) (hs t ht) (.inr hdef) rfl
    · exact h.disjoint b' hb'

theorem defineOne {ps ps' : List Mark} {p : Mark} (h : Origin ss (ps.map fun p => [p]) singles)
    (hs : ∀ t ∈ ss, t.Apart s) (hdef : s.isDefinition) (hp : p.In s) (hperm : ps'.Perm (p :: ps)) :
    Origin (ss ++ [s]) (ps'.map fun p => [p]) singles :=
  h.define hs hdef (List.forall_mem_singleton.2 hp) (hperm.map _)

theorem bind (h : Origin ss blocks singles) (hs : ∀ t ∈ ss, t.Apart s) {more : List Mark}
    (hmore : ∀ p ∈ more, p.In s) : Origin (ss ++ [s]) blocks (singles ++ more) where
  apart := h.apart
  defined := (h.later s).defined
  bound p hp := by
    rcases List.mem_append.1 hp with hp | hp
    · exact (h.later s).bound p hp
    · exact ⟨s, by simp, hmore p hp⟩
  disjoint b hb p hp hp' := by
    rcases List.mem_append.1 hp' with hp' | hp'
    · exact h.disjoint b hb hp hp'
    · obtain ⟨t, ht, hdef, hin⟩ := h.defined b hb
      exact (hin p hp).ne (hmore p hp') (hs t ht) (.inl hdef) rfl

/-- Equal marks are in one block, or are both single. -/
theorem nodup_iff (h : Origin ss blocks singles) :
    (blocks.flatten ++ singles).Nodup ↔ (∀ b ∈ blocks, b.Nodup) ∧ singles.Nodup := by
  rw [List.nodup_append', List.nodup_flatten]
  refine ⟨fun ⟨⟨hb, _⟩, hs, _⟩ => ⟨hb, hs⟩, fun ⟨hb, hs⟩ => ⟨⟨hb, h.apart⟩, hs, ?_⟩⟩
  intro p hp
  obtain ⟨b, hb, hpb⟩ := List.mem_flatten.1 hp
  exact h.disjoint b hb hpb

end Origin

/-! ## reading step by step -/

theorem apart_from_done {done ss : List Stmt} {s : Stmt} (h : ss.Pairwise Stmt.Apart)
    (hp : done ++ [s] <+: ss) : ∀ t ∈ done, t.Apart s :=
  fun t ht => (List.pairwise_append.1 (h.sublist hp.sublist)).2.2 t ht s (List.mem_singleton_self s)

/-! ## classes -/

/-- A class that starts on the line, as far as the statements of its body have been read. -/
structure ClassDoc.ReadFrom (path name : String) (line : Nat) (ss : List Stmt) (c : ClassDoc) :
    Prop where
  name_eq : c.name = name
  line_eq : c.line = line
  keyed : c.Keyed path
  origin : Origin ss (c.memberMarks.map fun p => [p]) c.variableMarks

namespace ClassDoc.ReadFrom

variable {path name : String} {line : Nat} {ss : List Stmt} {s : Stmt} {c : ClassDoc}

theorem later (h : c.ReadFrom path name line ss) (s : Stmt) :
    c.ReadFrom path name line (ss ++ [s]) :=
  { h with origin := h.origin.later s }

theorem method (h : c.ReadFrom path name line ss) (hs : ∀ t ∈ ss, t.Apart s) (hdef : s.isDefinition)
    {m : MethodDoc} (hid : m.id = componentId path (name ++ "." ++ m.name) m.line)
    (hin : Mark.In (name ++ "." ++ m.name, m.line) s) :
    ReadFrom path name line (ss ++ [s]) { c with methods := c.methods ++ [m] } := by
  obtain rfl := h.name_eq
  refine ⟨rfl, h.line_eq, { h.keyed with methods := ?_ }, ?_⟩
  · exact List.forall_mem_append.2 ⟨h.keyed.methods, List.forall_mem_singleton.2 hid⟩
  · refine h.origin.defineOne hs hdef hin ?_
    simp only [memberMarks, List.map_append, List.map_cons, List.map_nil, List.append_assoc]
    exact List.perm_middle

theorem property (h : c.ReadFrom path name line ss) (hs : ∀ t ∈ ss, t.Apart s)
    (hdef : s.isDefinition) {p : PropertyDoc}
    (hid : p.id = componentId path (name ++ "." ++ p.name) p.line)
    (hin : Mark.In (name ++ "." ++ p.name, p.line) s) :
    ReadFrom path name line (ss ++ [s]) { c with properties := c.properties ++ [p] } := by
  obtain rfl := h.name_eq
  refine ⟨rfl, h.line_eq, { h.keyed with properties := ?_ }, ?_⟩
  · exact List.forall_mem_append.2 ⟨h.keyed.properties, List.forall_mem_singleton.2 hid⟩
  · refine h.origin.defineOne hs hdef hin ?_
    simp only [memberMarks, List.map_append, List.map_cons, List.map_nil, ← List.append_assoc]
    exact List.perm_append_singleton _ _

theorem bind (h : c.ReadFrom path name line ss) (hs : ∀ t ∈ ss, t.Apart s) {vs : List PropertyDoc}
    (hvs : ∀ v ∈ vs, v.id = componentId path v.name v.line ∧ v.mark.In s) :
    ReadFrom path name line (ss ++ [s]) { c with classVariables := c.classVariables ++ vs } := by
  refine ⟨h.name_eq, h.line_eq, { h.keyed with bindings := ?_ }, ?_⟩
  · exact List.forall_mem_append.2 ⟨h.keyed.bindings, fun v hv => (hvs v hv).1⟩
  · rw [variableMarks, List.map_append]
    exact h.origin.bind hs (List.forall_mem_map.2 fun v hv => (hvs v hv).2)

end ClassDoc.ReadFrom

theorem readMethod_header {src : Source} {parent name : String} {span : Span} {isAsync : Bool}
    {signature : Signature} {returns : Option Expr} {decorators : List Expr} {body : List Stmt}
    {m : MethodDoc}
    (h : readMethod src parent span isAsync name signature returns decorators body = .ok m) :
    m.toHeader = src.header name (parent ++ "." ++ name) span (documentation body) := by
  obtain ⟨ds, -, h⟩ := bind_eq_ok.1 h
  obtain ⟨ps, -, h⟩ := bind_eq_ok.1 h
  obtain ⟨hint, -, h⟩ := bind_eq_ok.1 h
  rw [← Except.ok.inj h]

theorem readAnnotated_header {src : Source} {isClassVariable : Bool} {span : Span} {name : String}
    {hint : Expr} {value : Option Expr} {p : PropertyDoc}
    (h : readAnnotated src isClassVariable span name hint value = .ok p) :
    p.toHeader = src.header name name span none := by
  obtain ⟨hint', -, h⟩ := bind_eq_ok.1 h
  rw [← Except.ok.inj h]

theorem Source.header_eq {src : Source} {h : Header} {name key : String} {span : Span}
    {docs : Option String} (hh : h = src.header name key span docs) :
    h.name = name ∧ h.line = span.line ∧ h.id = componentId src.path key span.line := by
  subst hh
  exact ⟨rfl, rfl, rfl⟩

theorem readAnnotated_key {src : Source} {isClassVariable : Bool} {span : Span} {name : String}
    {hint : Expr} {value : Option Expr} {p : PropertyDoc}
    (h : readAnnotated src isClassVariable span name hint value = .ok p) :
    p.id = componentId src.path p.name p.line ∧
    p.mark.In (.annotated span (.name name) hint value) := by
  obtain ⟨hname, hline, hid⟩ := Source.header_eq (readAnnotated_header h)
  exact ⟨by rw [hname, hline]; exact hid, span.line, List.mem_singleton_self _, hline⟩

theorem readAssignment_key {src : Source} {isClassVariable : Bool} {span : Span} {ids : List String}
    {targets : List Expr} {value : Expr} {p : PropertyDoc}
    (h : p ∈ ids.map fun id => readAssignment src isClassVariable span id value) :
    p.id = componentId src.path p.name p.line ∧ p.mark.In (.assign span targets value) := by
  obtain ⟨id, -, rfl⟩ := List.mem_map.1 h
  exact ⟨rfl, span.line, List.mem_singleton_self _, rfl⟩

theorem addMember_keeps {src : Source} {parent : String} {line : Nat} {ss : List Stmt} {s : Stmt}
    {c c' : ClassDoc} (hs : ∀ t ∈ ss, t.Apart s) (hc : c.ReadFrom src.path parent line ss)
    (h : addMember src parent c s = .ok c') : c'.ReadFrom src.path parent line (ss ++ [s]) := by
  unfold addMember at h
  split at h
  · split at h
    · next span isAsync name signature returns decorators body _ =>
      obtain ⟨m, hm, h⟩ := bind_eq_ok.1 h
      obtain ⟨hname, hline, hid⟩ := Source.header_eq (readMethod_header hm)
      have hkey : m.id = componentId src.path (parent ++ "." ++ m.name) m.line := by
        rw [hname, hline]
        exact hid
      have hin : Mark.In (parent ++ "." ++ m.name, m.line)
          (.function span isAsync name signature returns decorators body) :=
        ⟨span.line, List.mem_singleton_self _, hline⟩
      rw [← Except.ok.inj h]
      split
      · exact hc.property (p := m.toProperty) hs rfl hkey hin
      · exact hc.method hs rfl hkey hin
    · cases h
      exact hc.later _
  · split at h
    · obtain ⟨p, hp, h⟩ := bind_eq_ok.1 h
      rw [← Except.ok.inj h]
      exact hc.bind hs (List.forall_mem_singleton.2 (readAnnotated_key hp))
    · cases h
      exact hc.later _
  · rw [← Except.ok.inj h]
    exact hc.bind hs fun p hp => readAssignment_key hp
  · cases h
    exact hc.later _

theorem readClass_readFrom {src : Source} {span : Span} {name : String}
    {bases decorators : List Expr} {body : List Stmt} {c : ClassDoc}
    (hbody : body.Pairwise Stmt.Apart) (h : readClass src span name bases decorators body = .ok c) :
    c.ReadFrom src.path name span.line body := by
  obtain ⟨bs, -, h⟩ := bind_eq_ok.1 h
  obtain ⟨ds, -, h⟩ := bind_eq_ok.1 h
  refine foldlM_keeps (P := fun ss c => c.ReadFrom src.path name span.line ss) ?_ ?_ h
  · exact fun hp hc hstep => addMember_keeps (apart_from_done hbody hp) hc hstep
  · exact ⟨rfl, rfl, ⟨rfl, List.forall_mem_nil _, List.forall_mem_nil _,
      List.forall_mem_nil _⟩, .nil⟩

namespace ClassDoc.ReadFrom

variable {path name : String} {line : Nat} {body : List Stmt} {c : ClassDoc}

theorem below (h : c.ReadFrom path name line body) (hbody : BodyLines line body) :
    ∀ p ∈ c.memberMarks, c.line < p.2 := by
  intro p hp
  obtain ⟨s, hs, hdef, hin⟩ := h.origin.defined [p] (List.mem_map.2 ⟨p, hp, rfl⟩)
  obtain ⟨l, hl, hpl⟩ := hin p (List.mem_singleton_self p)
  have hlt := hbody.below s hs hdef l hl
  rw [h.line_eq, hpl]
  exact Int.ofNat_lt.2 hlt

theorem marks_nodup (h : c.ReadFrom path name line body) (hbody : BodyLines line body) :
    c.marks.Nodup ↔ c.openMarks.Nodup := by
  have hmem : c.mark ∉ c.memberMarks := fun hm => Int.lt_irrefl _ (h.below hbody _ hm)
  have hone : ∀ b ∈ c.memberMarks.map (fun p => [p]), b.Nodup :=
    List.forall_mem_map.2 fun p _ => List.nodup_singleton p
  have hrest := h.origin.nodup_iff
  rw [← List.flatMap_def, List.flatMap_singleton', and_iff_right hone] at hrest
  rw [marks, openMarks, List.cons_append, List.nodup_cons, List.nodup_cons, hrest, List.mem_append,
    or_iff_right hmem]

theorem marks_in (h : c.ReadFrom path name line body) {span : Span} (hline : span.line = line)
    (bases decorators : List Expr) :
    ∀ p ∈ c.marks, p.In (.classDef span name bases decorators body) := by
  have inner {p : Mark} {s : Stmt} (hs : s ∈ body) (hin : p.In s) :
      p.In (.classDef span name bases decorators body) := by
    obtain ⟨l, hl, hpl⟩ := hin
    exact ⟨l, List.mem_cons_of_mem _ (mem_linesIn.2 ⟨s, hs, hl⟩), hpl⟩
  intro p hp
  rcases List.mem_cons.1 hp with rfl | hp
  · exact ⟨span.line, List.mem_cons_self, by rw [hline]; exact h.line_eq⟩
  rcases List.mem_append.1 hp with hp | hp
  · obtain ⟨s, hs, -, hin⟩ := h.origin.defined [p] (List.mem_map.2 ⟨p, hp, rfl⟩)
    exact inner hs (hin p (List.mem_singleton_self p))
  · obtain ⟨s, hs, hin⟩ := h.origin.bound p hp
    exact inner hs hin

end ClassDoc.ReadFrom

/-! ## modules -/

structure ModuleDoc.ReadFrom (path name : String) (ss : List Stmt) (m : ModuleDoc) : Prop where
  path_eq : m.path = path
  mark_eq : m.mark = (name, 1)
  keyed : m.Keyed
  classes : ∀ c ∈ m.classes, (c.marks.Nodup ↔ c.openMarks.Nodup) ∧ ∀ p ∈ c.memberMarks, 1 < p.2
  origin : Origin ss (m.classes.map ClassDoc.marks ++ m.functions.map fun f =>
    [f.mark]) m.constantMarks

namespace ModuleDoc.ReadFrom

variable {path name : String} {ss : List Stmt} {s : Stmt} {m : ModuleDoc}

theorem later (h : m.ReadFrom path name ss) (s : Stmt) : m.ReadFrom path name (ss ++ [s]) :=
  { h with origin := h.origin.later s }

theorem classDef (h : m.ReadFrom path name ss) (hs : ∀ t ∈ ss, t.Apart s) (hdef : s.isDefinition)
    {c : ClassDoc} (hkeyed : c.Keyed path) (hin : ∀ p ∈ c.marks, p.In s)
    (hopen : (c.marks.Nodup ↔ c.openMarks.Nodup) ∧ ∀ p ∈ c.memberMarks, 1 < p.2) :
    ReadFrom path name (ss ++ [s]) { m with classes := m.classes ++ [c] } := by
  obtain rfl := h.path_eq
  refine ⟨rfl, h.mark_eq, { h.keyed with classes := ?_ }, ?_, ?_⟩
  · exact List.forall_mem_append.2 ⟨h.keyed.classes, List.forall_mem_singleton.2 hkeyed⟩
  · exact List.forall_mem_append.2 ⟨h.classes, List.forall_mem_singleton.2 hopen⟩
  · refine h.origin.define hs hdef hin ?_
    simp only [List.map_append, List.map_cons, List.map_nil, List.append_assoc]
    exact List.perm_middle

theorem function (h : m.ReadFrom path name ss) (hs : ∀ t ∈ ss, t.Apart s) (hdef : s.isDefinition)
    {f : FunctionDoc} (hid : f.id = componentId path f.name f.line) (hin : f.mark.In s) :
    ReadFrom path name (ss ++ [s]) { m with functions := m.functions ++ [f] } := by
  obtain rfl := h.path_eq
  refine ⟨rfl, h.mark_eq, { h.keyed with functions := ?_ }, h.classes, ?_⟩
  · exact List.forall_mem_append.2 ⟨h.keyed.functions, List.forall_mem_singleton.2 hid⟩
  · refine h.origin.define hs hdef (List.forall_mem_singleton.2 hin) ?_
    simp only [List.map_append, List.map_cons, List.map_nil, ← List.append_assoc]
    exact List.perm_append_singleton _ _

theorem bind (h : m.ReadFrom path name ss) (hs : ∀ t ∈ ss, t.Apart s) {vs : List PropertyDoc}
    (hvs : ∀ v ∈ vs, v.id = componentId path v.name v.line ∧ v.mark.In s) :
    ReadFrom path name (ss ++ [s]) { m with constants := m.constants ++ vs } := by
  obtain rfl := h.path_eq
  refine ⟨rfl, h.mark_eq, { h.keyed with constants := ?_ }, h.classes, ?_⟩
  · exact List.forall_mem_append.2 ⟨h.keyed.constants, fun v hv => (hvs v hv).1⟩
  · rw [constantMarks, List.map_append]
    exact h.origin.bind hs (List.forall_mem_map.2 fun v hv => (hvs v hv).2)

end ModuleDoc.ReadFrom

theorem readFunction_header {src : Source} {name : String} {span : Span} {isAsync : Bool}
    {signature : Signature} {returns : Option Expr} {decorators : List Expr} {body : List Stmt}
    {f : FunctionDoc}
    (h : readFunction src span isAsync name signature returns decorators body = .ok f) :
    f.toHeader = src.header name name span (documentation body) := by
  obtain ⟨ps, -, h⟩ := bind_eq_ok.1 h
  obtain ⟨hint, -, h⟩ := bind_eq_ok.1 h
  obtain ⟨ds, -, h⟩ := bind_eq_ok.1 h
  rw [← Except.ok.inj h]

theorem addDefinition_keeps {src : Source} {name : String} {ss : List Stmt} {s : Stmt}
    {m m' : ModuleDoc} (hs : ∀ t ∈ ss, t.Apart s) (hbody : s.Indented)
    (hlines : ∀ l ∈ s.lines, 1 ≤ l) (hm : m.ReadFrom src.path name ss)
    (h : addDefinition src m s = .ok m') : m'.ReadFrom src.path name (ss ++ [s]) := by
  unfold addDefinition at h
  split at h
  · split at h
    · next span name bases decorators body _ =>
      obtain ⟨c, hc, h⟩ := bind_eq_ok.1 h
      have hread := readClass_readFrom hbody.apart hc
      rw [← Except.ok.inj h]
      refine hm.classDef hs rfl hread.keyed (hread.marks_in rfl bases decorators)
        ⟨hread.marks_nodup hbody, fun p hp => ?_⟩
      -- a class starts on the first line at the earliest, and its members below
      have hbelow := hread.below hbody p hp
      have hone := hlines span.line List.mem_cons_self
      rw [hread.line_eq] at hbelow
      omega
    · cases h
      exact hm.later _
  · split at h
    · next span isAsync name signature returns decorators body _ =>
      obtain ⟨f, hf, h⟩ := bind_eq_ok.1 h
      obtain ⟨hname, hline, hid⟩ := Source.header_eq (readFunction_header hf)
      rw [← Except.ok.inj h]
      refine hm.function hs rfl ?_ ⟨span.line, List.mem_singleton_self _, hline⟩
      rw [hname, hline]
      exact hid
    · cases h
      exact hm.later _
  · rw [← Except.ok.inj h]
    exact hm.bind hs fun p hp => readAssignment_key hp
  · split at h
    · obtain ⟨p, hp, h⟩ := bind_eq_ok.1 h
      rw [← Except.ok.inj h]
      exact hm.bind hs (List.forall_mem_singleton.2 (readAnnotated_key hp))
    · cases h
      exact hm.later _
  · cases h
    exact hm.later _

theorem readModule_readFrom {src : Source} {name : String} {ss : Module} {m : ModuleDoc}
    (happart : ss.Pairwise Stmt.Apart) (hbodies : ∀ s ∈ ss, s.Indented)
    (hlines : ∀ s ∈ ss, ∀ l ∈ s.lines, 1 ≤ l) (h : readModule src name ss = .ok m) :
    m.ReadFrom src.path name ss := by
  refine foldlM_keeps (P := fun ss m => m.ReadFrom src.path name ss) ?_ ?_ h
  · intro done s a b hp ha hstep
    have hmem : s ∈ ss := hp.subset (by simp)
    exact addDefinition_keeps (apart_from_done happart hp) (hbodies s hmem) (hlines s hmem) ha hstep
  · exact ⟨rfl, rfl, ⟨rfl, List.forall_mem_nil _, List.forall_mem_nil _, List.forall_mem_nil _⟩,
      List.forall_mem_nil _, .nil⟩

theorem readSource_readFrom {includePrivate : Bool} {path name text : String} {m : ModuleDoc}
    (h : readSource includePrivate path name text = .ok m) : ∃ ss, m.ReadFrom path name ss := by
  unfold readSource at h
  dsimp only at h
  split at h
  · cases h
  · next ss hss =>
    obtain ⟨happart, hbodies, hlines⟩ := parseModule_lines hss
    exact ⟨ss, readModule_readFrom happart hbodies hlines (ok_of_mapError h)⟩

/-! ## clashes -/

/-- No two components that may share a line share their name as well: nothing on the first line is
called like the module, no variable of a class is called like another one on its line, or like the
class on whose line it stands, and no constant like another one on its line. -/
structure ModuleDoc.Unclashing (m : ModuleDoc) : Prop where
  opening : m.mark ∉ m.openMarks
  classes : ∀ c ∈ m.classes, c.openMarks.Nodup
  constants : m.constantMarks.Nodup

instance (m : ModuleDoc) : Decidable m.Unclashing :=
  decidable_of_iff (m.mark ∉ m.openMarks ∧ (∀ c ∈ m.classes, c.openMarks.Nodup) ∧
    m.constantMarks.Nodup)
    ⟨fun ⟨h, h', h''⟩ => ⟨h, h', h''⟩, fun h => ⟨h.opening, h.classes, h.constants⟩⟩

namespace ModuleDoc.ReadFrom

variable {path name : String} {ss : List Stmt} {m : ModuleDoc}

/-- On the first line there is neither a method nor a property. -/
theorem mark_mem (h : m.ReadFrom path name ss) :
    m.mark ∈ m.classes.flatMap ClassDoc.marks ↔ m.mark ∈ m.classes.flatMap ClassDoc.openMarks := by
  have hmark (c : ClassDoc) (hc : c ∈ m.classes) : m.mark ∈ c.marks ↔ m.mark ∈ c.openMarks := by
    have hnot : m.mark ∉ c.memberMarks := fun hmem => by
      have hlt := (h.classes c hc).2 _ hmem
      rw [h.mark_eq] at hlt
      exact Int.lt_irrefl _ hlt
    rw [ClassDoc.marks, ClassDoc.openMarks, List.cons_append, List.mem_cons, List.mem_cons,
      List.mem_append, or_iff_right hnot]
  rw [List.mem_flatMap, List.mem_flatMap]
  exact exists_congr fun c => and_congr_right fun hc => hmark c hc

theorem marks_nodup (h : m.ReadFrom path name ss) : m.marks.Nodup ↔ m.Unclashing := by
  have hrest := h.origin.nodup_iff
  -- a function is a block of one mark, so only the blocks of classes can repeat one
  rw [List.flatten_append, ← List.flatMap_def, ← List.flatMap_def, ← List.map_eq_flatMap,
    List.forall_mem_append, List.forall_mem_map, List.forall_mem_map,
    and_iff_left fun f _ => List.nodup_singleton _] at hrest
  have hmark : m.mark ∉ m.classes.flatMap ClassDoc.marks ++ m.functionMarks ++ m.constantMarks ↔
      m.mark ∉ m.openMarks := by
    rw [openMarks, List.mem_append, List.mem_append, List.mem_append, List.mem_append, h.mark_mem]
  rw [marks, List.cons_append, List.cons_append, List.nodup_cons, hmark, functionMarks, hrest]
  constructor
  · rintro ⟨hopen, hclasses, hconstants⟩
    exact ⟨hopen, fun c hc => (h.classes c hc).1.1 (hclasses c hc), hconstants⟩
  · rintro ⟨hopen, hclasses, hconstants⟩
    exact ⟨hopen, fun c hc => (h.classes c hc).1.2 (hclasses c hc), hconstants⟩

end ModuleDoc.ReadFrom

/-- **which identities of a module are distinct** -/
theorem readSource_ids_nodup_iff {includePrivate : Bool} {path name text : String} {m : ModuleDoc}
    (h : readSource includePrivate path name text = .ok m) :
    m.path = path ∧ m.mark = (name, 1) ∧ m.components.map Component.id = m.keys.map digestId ∧
      (m.keys.Nodup ↔ m.Unclashing) ∧
      ((∀ k ∈ m.keys, ∀ k' ∈ m.keys, digestId k = digestId k' → k = k') →
        ((m.components.map Component.id).Nodup ↔ m.Unclashing)) := by
  obtain ⟨ss, hm⟩ := readSource_readFrom h
  have hkeys := m.keys_nodup.trans hm.marks_nodup
  refine ⟨hm.path_eq, hm.mark_eq, hm.keyed.ids, hkeys, fun hinj => ?_⟩
  rw [hm.keyed.ids, ← hkeys]
  exact ⟨List.Nodup.of_map _, List.Nodup.map_on hinj⟩

/-- statements that share lines, but no name with the line -/
def shapesText : String :=
  "class Shape:\n    x = 1; y = x\n    def area(self): pass\n\nsize = 1; unit = 2\ndef draw(): pass\n"

theorem shapesText_keys : ∃ m, readSource false "shapes.py" "shapes" shapesText = .ok m ∧
    m.components.length = 8 ∧ m.Unclashing ∧ m.keys.Nodup := by
  have heval : (readSource false "shapes.py" "shapes" shapesText).toOption.any
      (fun m => decide (m.components.length = 8 ∧ m.Unclashing)) = true := by decide +kernel
  cases h : readSource false "shapes.py" "shapes" shapesText with
  | error e => rw [h] at heval; cases heval
  | ok m =>
    rw [h] at heval
    obtain ⟨hlength, hclash⟩ := of_decide_eq_true heval
    obtain ⟨-, -, -, hkeys, -⟩ := readSource_ids_nodup_iff h
    exact ⟨m, rfl, hlength, hclash, hkeys.2 hclash⟩

/-- A function on the first line may be called like its module, and then has its key. -/
theorem main_keys_clash : ∃ m, readSource false "main.py" "main" "def main():\n    pass\n" = .ok m ∧
    m.keys = ["main.py:main:1", "main.py:main:1"] ∧ ¬ m.keys.Nodup := by
  have heval : (readSource false "main.py" "main" "def main():\n    pass\n").toOption.any
      (fun m => m.keys == ["main.py:main:1", "main.py:main:1"]) = true := by decide +kernel
  cases h : readSource false "main.py" "main" "def main():\n    pass\n" with
  | error e => rw [h] at heval; cases heval
  | ok m =>
    rw [h] at heval
    have hkeys := eq_of_beq heval
    exact ⟨m, rfl, hkeys, by rw [hkeys]; decide⟩

end Apidoc
