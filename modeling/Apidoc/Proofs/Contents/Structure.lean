import Apidoc.Proofs.Contents.Entries
import Apidoc.Proofs.Contents.Pruning

/-!
# The table of contents as an image of the modules

* `Seated`                a forest below some entries, in which all headings say where their entries
                          lie;
* `sift_contents`         members of classes that are taken out of the contents are those that
                          settings leave out;
* `count_contents`        how many entries of each kind the contents have;
* `contents_mirror_modules`   the three together.
-/

namespace Apidoc

open Entry (Lies flatten sift)

variable {α : Type} {s : ContentsSettings}

/-! ## places -/

/-- The heading says how deep its entry lies, and in which. -/
structure Entry.Located (above : List Entry) (e : Entry) : Prop where
  level : e.heading.level = above.length
  parent : e.heading.parent = above.getLast?.map Entry.id

/-- Below the entries `above`, all headings of the forest say where their entries lie. -/
def Seated (above es : List Entry) : Prop :=
  ∀ ⦃rest : List Entry⦄ ⦃e : Entry⦄, Lies es rest e → e.Located (above ++ rest)

namespace Seated

variable {above es fs : List Entry}

theorem nil (above : List Entry) : Seated above [] := fun _ _ h => absurd h Entry.lies_nil

theorem append (h : Seated above es) (h' : Seated above fs) : Seated above (es ++ fs) := by
  intro rest e hlies
  cases hlies with
  | top hmem =>
    rcases List.mem_append.mp hmem with hmem | hmem
    · exact h (.top hmem)
    · exact h' (.top hmem)
  | inside hmem hlies =>
    rcases List.mem_append.mp hmem with hmem | hmem
    · exact h (.inside hmem hlies)
    · exact h' (.inside hmem hlies)

theorem map {xs : List α} {f : α → Entry} (htop : ∀ x ∈ xs, (f x).Located above)
    (hbelow : ∀ x ∈ xs, Seated (above ++ [f x]) (f x).children) : Seated above (xs.map f) := by
  intro rest e hlies
  cases hlies with
  | top hmem =>
    obtain ⟨x, hx, rfl⟩ := List.mem_map.mp hmem
    rw [List.append_nil]
    exact htop x hx
  | inside hmem hlies =>
    obtain ⟨x, hx, rfl⟩ := List.mem_map.mp hmem
    have hdeeper := hbelow x hx hlies
    rwa [List.append_assoc, List.singleton_append] at hdeeper

theorem leaves {xs : List α} {f : α → Heading} (h : ∀ x ∈ xs, (leaf (f x)).Located above) :
    Seated above (xs.map fun x => leaf (f x)) :=
  map h fun _ _ => nil _

end Seated

theorem Entry.located_below {above : List Entry} {a : Entry} {h : Heading} {below : List Entry}
    (hlevel : h.level = above.length + 1) (hparent : h.parent = some a.id) :
    (mk h below).Located (above ++ [a]) where
  level := by rw [List.length_append, List.length_singleton]; exact hlevel
  parent := by rw [List.getLast?_concat]; exact hparent

theorem seated_members (s : ContentsSettings) (c : ClassDoc) (m : ModuleDoc) :
    Seated [moduleEntry s m, classEntry s m.id c] (memberEntries s c) := by
  have hbelow {h : Heading} (hlevel : h.level = 2) (hparent : h.parent = some c.id) :
      (leaf h).Located ([moduleEntry s m] ++ [classEntry s m.id c]) :=
        Entry.located_below hlevel hparent
  refine .append ?_ ?_
  · split
    · exact .leaves fun _ _ => hbelow rfl rfl
    · exact .nil _
  · split
    · exact (Seated.leaves fun _ _ => hbelow rfl rfl).append (.leaves fun _ _ => hbelow rfl rfl)
    · exact .nil _

theorem seated_module (s : ContentsSettings) (m : ModuleDoc) :
    Seated [moduleEntry s m] (moduleEntry s m).children := by
  have hbelow {h : Heading} {below : List Entry} (hlevel : h.level = 1)
    (hparent : h.parent = some m.id) :
      (Entry.mk h below).Located ([] ++ [moduleEntry s m]) := Entry.located_below hlevel hparent
  refine .append (.append ?_ ?_) ?_
  · exact .map (fun _ _ => hbelow rfl rfl) fun c _ => seated_members s c m
  · exact .leaves fun _ _ => hbelow rfl rfl
  · exact .leaves fun _ _ => hbelow rfl rfl

theorem seated_contents (s : ContentsSettings) (ms : List ModuleDoc) : Seated [] (contents s ms) :=
  .map (fun _ _ => ⟨rfl, rfl⟩) fun m _ => seated_module s m

/-! ## settings -/

/-- an entry of a kind with nothing below it -/
structure Entry.IsLeaf (k : Kind) (e : Entry) : Prop where
  bare : e.children = []
  kind : e.heading.kind = k

theorem Entry.IsLeaf.eq_mk {k : Kind} {e : Entry} (h : e.IsLeaf k) : e = .mk e.heading [] := by
  obtain ⟨heading, below⟩ := e
  rw [show below = [] from h.bare]
  rfl

section

variable {keep : Kind → Bool}

theorem Entry.sift_leaves {k : Kind} {f : α → Entry} (hf : ∀ x, (f x).IsLeaf k) (keep : Kind → Bool)
    (xs : List α) : sift (fun h => keep h.kind) (xs.map f) = if keep k then xs.map f else [] := by
  induction xs with
  | nil => rw [List.map_nil, Entry.sift_nil, ite_self]
  | cons x xs ih =>
    rw [List.map_cons, (hf x).eq_mk, Entry.sift_cons, ih, (hf x).kind, Entry.sift_nil]
    split
    · rfl
    · rfl

theorem Entry.sift_map_kept {f g : α → Entry} (h : ∀ x, sift (fun h => keep h.kind) [f x] = [g x])
    (xs : List α) : sift (fun h => keep h.kind) (xs.map f) = xs.map g := by
  induction xs with
  | nil => rw [List.map_nil, List.map_nil, Entry.sift_nil]
  | cons x xs ih =>
    rw [List.map_cons, List.map_cons, ← List.singleton_append, Entry.sift_append, h, ih,
      List.singleton_append]

/-- The settings under which only members of the given kinds are listed, of those that were listed
before. -/
def ContentsSettings.keeping (s : ContentsSettings) (keep : Kind → Bool) : ContentsSettings :=
  ⟨s.methods && keep .method, s.properties && keep .property⟩

variable (keep) (hpair : keep .variable = keep .property)
include hpair

theorem sift_members (s : ContentsSettings) (c : ClassDoc) :
    sift (fun h => keep h.kind) (memberEntries s c) = memberEntries (s.keeping keep) c := by
  rw [memberEntries, memberEntries, ContentsSettings.keeping, Entry.sift_append]
  refine congrArg₂ _ ?_ ?_
  · cases s.methods with
    | false => exact Entry.sift_nil _
    | true => exact Entry.sift_leaves (k := .method) (fun _ => ⟨rfl, rfl⟩) keep c.methods
  · cases s.properties with
    | false => exact Entry.sift_nil _
    | true =>
      rw [if_pos rfl, Entry.sift_append,
        Entry.sift_leaves (k := .property) (fun _ => ⟨rfl, rfl⟩) keep c.properties,
        Entry.sift_leaves (k := .variable) (fun _ => ⟨rfl, rfl⟩) keep c.classVariables, hpair,
        Bool.true_and]
      split
      · rfl
      · rfl

theorem sift_contents (hmodule : keep .module = true) (hclass : keep .classDef = true)
    (hfunction : keep .function = true) (hconstant : keep .constant = true) (s : ContentsSettings)
    (ms : List ModuleDoc) :
    sift (fun h => keep h.kind) (contents s ms) = contents (s.keeping keep) ms := by
  refine Entry.sift_map_kept (fun m => ?_) ms
  have hclasses : sift (fun h => keep h.kind) (m.classes.map (classEntry s m.id)) =
      m.classes.map (classEntry (s.keeping keep) m.id) := by
    refine Entry.sift_map_kept (fun c => ?_) m.classes
    rw [classEntry, Entry.sift_kept hclass, sift_members keep hpair, Entry.sift_nil, classEntry]
  have hfunctions :=
    Entry.sift_leaves (k := .function) (f := functionEntry m.id)
      (fun _ => ⟨rfl, rfl⟩) keep m.functions
  have hconstants :=
    Entry.sift_leaves (k := .constant) (f := constantEntry m.id) (fun _ => ⟨rfl, rfl⟩) keep
    (m.constants.filter fun p => isSignificant p.name)
  rw [if_pos hfunction] at hfunctions
  rw [if_pos hconstant] at hconstants
  rw [moduleEntry, Entry.sift_kept hmodule, Entry.sift_nil, Entry.sift_append, Entry.sift_append,
    hclasses, hfunctions, hconstants, moduleEntry]

end

/-! ## numbers -/

def Entry.count (p : Kind → Bool) (es : List Entry) : Nat :=
  (flatten es).countP fun e => p e.heading.kind

section

variable (p : Kind → Bool)

theorem Entry.count_append (es fs : List Entry) :
    Entry.count p (es ++ fs) = Entry.count p es + Entry.count p fs := by
  rw [Entry.count, Entry.flatten_append, List.countP_append, Entry.count, Entry.count]

theorem Entry.count_cons (h : Heading) (below after : List Entry) :
    Entry.count p (.mk h below :: after) =
      (p h.kind).toNat + Entry.count p below + Entry.count p after := by
  rw [Entry.count, Entry.flatten_cons, List.countP_cons, List.countP_append, Entry.count,
    Entry.count]
  cases hp : p h.kind with
  | false => simp [Entry.heading, hp]
  | true => simp [Entry.heading, hp]; omega

theorem Entry.count_leaves {k : Kind} {f : α → Entry} (hf : ∀ x, (f x).IsLeaf k) (xs : List α) :
    Entry.count p (xs.map f) = (p k).toNat * xs.length := by
  induction xs with
  | nil => rfl
  | cons x xs ih =>
    rw [List.map_cons, (hf x).eq_mk, Entry.count_cons, ih, (hf x).kind, List.length_cons,
      Nat.mul_succ]
    show (p k).toNat + 0 + _ = _
    omega

theorem count_classes (parent : String) (cs : List ClassDoc) :
    Entry.count p (cs.map (classEntry .full parent)) =
      (p .classDef).toNat * cs.length + (p .method).toNat * (cs.flatMap (·.methods)).length +
        (p .property).toNat * (cs.flatMap (·.properties)).length +
        (p .variable).toNat * (cs.flatMap (·.classVariables)).length := by
  induction cs with
  | nil => rfl
  | cons c cs ih =>
    have hmembers : Entry.count p (memberEntries .full c) = (p .method).toNat * c.methods.length +
        ((p .property).toNat * c.properties.length +
          (p .variable).toNat * c.classVariables.length) := by
      rw [memberEntries, if_pos (show ContentsSettings.full.methods = true from rfl),
        if_pos (show ContentsSettings.full.properties = true from rfl), Entry.count_append,
        Entry.count_append, Entry.count_leaves p (k := .method) fun _ => ⟨rfl, rfl⟩,
        Entry.count_leaves p (k := .property) fun _ => ⟨rfl, rfl⟩,
        Entry.count_leaves p (k := .variable) fun _ => ⟨rfl, rfl⟩]
    rw [List.map_cons, classEntry, Entry.count_cons, hmembers, ih]
    simp only [List.flatMap_cons, List.length_append, List.length_cons, Nat.mul_add, Nat.mul_one]
    show (p .classDef).toNat + _ + _ = _
    omega

theorem count_contents (ms : List ModuleDoc) :
    Entry.count p (contents .full ms) =
      (p .module).toNat * ms.length + (p .classDef).toNat * (ms.flatMap (·.classes)).length +
        (p .function).toNat * (ms.flatMap (·.functions)).length +
        (p .method).toNat * ((ms.flatMap (·.classes)).flatMap (·.methods)).length +
        (p .property).toNat * ((ms.flatMap (·.classes)).flatMap (·.properties)).length +
        (p .variable).toNat * ((ms.flatMap (·.classes)).flatMap (·.classVariables)).length +
        (p .constant).toNat * (ms.flatMap fun m => m.constants.filter fun c =>
          isSignificant c.name).length := by
  induction ms with
  | nil => rfl
  | cons m ms ih =>
    have hfunctions :=
      Entry.count_leaves p (k := .function) (f := functionEntry m.id)
        (fun _ => ⟨rfl, rfl⟩) m.functions
    have hconstants :=
      Entry.count_leaves p (k := .constant) (f := constantEntry m.id) (fun _ => ⟨rfl, rfl⟩)
      (m.constants.filter fun c => isSignificant c.name)
    rw [contents, List.map_cons, ← contents, moduleEntry, Entry.count_cons, Entry.count_append,
      Entry.count_append, count_classes, hfunctions, hconstants, ih]
    simp only [List.flatMap_cons, List.flatMap_append, List.length_append, List.length_cons,
      Nat.mul_add, Nat.mul_one]
    show (p .module).toNat + _ + _ = _
    omega

end

/-- **The contents mirror the modules.** Every heading says how deep its entry lies and in which.
Contents that leave out methods, or properties and variables, are those that list them with these
entries taken out.  And there is an entry for every module, class, function, method, property and
variable that the statistics count. -/
theorem contents_mirror_modules (s : ContentsSettings) (ms : List ModuleDoc) :
    (∀ above e, Lies (contents s ms) above e →
      e.heading.level = above.length ∧ e.heading.parent = above.getLast?.map Entry.id) ∧
    contents ⟨false, s.properties⟩ ms = sift (fun h => h.kind != .method)
    (contents ⟨true, s.properties⟩ ms) ∧
    contents ⟨s.methods, false⟩ ms =
      sift (fun h => h.kind != .property && h.kind != .variable) (contents ⟨s.methods, true⟩ ms) ∧
    Entry.count (· == .module) (contents .full ms) = (statistics ms).modules ∧
    Entry.count (· == .classDef) (contents .full ms) = (statistics ms).classes ∧
    Entry.count (· == .function) (contents .full ms) = (statistics ms).functions ∧
    Entry.count (· == .method) (contents .full ms) = (statistics ms).methods ∧
    Entry.count (fun k => k == .property || k == .variable) (contents .full ms) =
      (statistics ms).properties := by
  refine ⟨fun above e hlies => ?_, ?_, ?_, ?_⟩
  · have hlocated := seated_contents s ms hlies
    exact ⟨hlocated.level, hlocated.parent⟩
  · rw [sift_contents (· != .method) rfl rfl rfl rfl rfl]
    exact congrArg (fun b => contents ⟨false, b⟩ ms) (Bool.and_true s.properties).symm
  · rw [sift_contents (fun k => k != .property && k != .variable) rfl rfl rfl rfl rfl]
    exact congrArg (fun b => contents ⟨b, false⟩ ms) (Bool.and_true s.methods).symm
  · have hmembers (cs : List ClassDoc) :
      (cs.flatMap fun c => c.properties ++ c.classVariables).length =
        (cs.flatMap (·.properties)).length + (cs.flatMap (·.classVariables)).length := by
      induction cs with
      | nil => rfl
      | cons c cs ih =>
        simp only [List.flatMap_cons, List.length_append, ih]
        omega
    simp only [count_contents]
    refine ⟨?_, ?_, ?_, ?_, ?_⟩
    · simp [statistics, beq_eq_decide]
    · simp [statistics, beq_eq_decide]
    · simp [statistics, beq_eq_decide]
    · simp [statistics, beq_eq_decide]
    · rw [statistics, hmembers]
      simp [beq_eq_decide]

end Apidoc
