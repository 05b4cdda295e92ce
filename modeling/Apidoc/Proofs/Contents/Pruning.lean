import Apidoc.Contents.Entry
import Apidoc.Data.Ordered

/-!
# Pruned forests

An entry goes together with all that lies below it, so it stays in a forest exactly if no entry that
it lies in has to go.

* `Lies`                an entry at its place in a forest, below other entries;
* `occurrences`         all entries of a forest at their places, in the order of `flatten`;
* `sift`                the forest without the entries whose headings are not to be kept;
* `flatten_sift`        what stays are the entries all of whose lineage is to be kept;
* `sift_sift`           two kinds of entries can go one after the other or at once;
* `pruned_by_choices`   what this says of a forest and the choices that a user made.
-/

namespace Apidoc

namespace Entry

/-- Induction over a forest: what lies below its first entry, and the entries after that. -/
@[elab_as_elim]
theorem forest_induction {motive : List Entry → Prop} (nil : motive [])
    (cons : ∀ h below after, motive below → motive after → motive (.mk h below :: after)) :
    ∀ es, motive es
  | [] => nil
  | .mk h below :: after =>
    cons h below after (forest_induction nil cons below) (forest_induction nil cons after)

theorem flatten_cons (h : Heading) (below after : List Entry) :
    flatten (.mk h below :: after) = .mk h below :: (flatten below ++ flatten after) := by
  rw [flatten, flattenOne, List.cons_append]

/-! ## places -/

/-- The entry is in the forest, below the entries `above`, the topmost first. -/
inductive Lies : List Entry → List Entry → Entry → Prop
  | top {es : List Entry} {e : Entry} (h : e ∈ es) : Lies es [] e
  | inside {es above : List Entry} {a e : Entry} (h : a ∈ es) (he : Lies a.children above e) :
      Lies es (a :: above) e

structure Occurrence where
  above : List Entry
  entry : Entry

def Occurrence.lineage (o : Occurrence) : List Entry := o.above ++ [o.entry]

/-- All entries of a forest that lies below the entries `above`. -/
def occurrences (above : List Entry) : List Entry → List Occurrence
  | [] => []
  | .mk h below :: after =>
    ⟨above, .mk h below⟩ :: (occurrences (above ++ [.mk h below]) below ++ occurrences above after)

theorem map_occurrences (above es : List Entry) :
    (occurrences above es).map (·.entry) = flatten es := by
  induction es using forest_induction generalizing above with
  | nil => rw [occurrences, List.map_nil, flatten]
  | cons h below after ihBelow ihAfter =>
    rw [occurrences, flatten_cons, List.map_cons, List.map_append, ihBelow, ihAfter]

theorem lies_nil {above : List Entry} {e : Entry} : ¬ Lies [] above e := by
  intro h
  cases h with
  | top h => cases h
  | inside h _ => cases h

theorem lies_cons {h : Heading} {below after above : List Entry} {e : Entry} :
    Lies (.mk h below :: after) above e ↔
      (above = [] ∧ e = .mk h below) ∨ (∃ rest, above = .mk h below :: rest ∧ Lies below rest e) ∨
        Lies after above e := by
  constructor
  · intro hlies
    cases hlies with
    | top hmem =>
      rcases List.mem_cons.mp hmem with rfl | hmem
      · exact .inl ⟨rfl, rfl⟩
      · exact .inr (.inr (.top hmem))
    | inside hmem hlies =>
      rcases List.mem_cons.mp hmem with rfl | hmem
      · exact .inr (.inl ⟨_, rfl, hlies⟩)
      · exact .inr (.inr (.inside hmem hlies))
  · rintro (⟨rfl, rfl⟩ | ⟨rest, rfl, hlies⟩ | hlies)
    · exact .top List.mem_cons_self
    · exact .inside List.mem_cons_self hlies
    · cases hlies with
      | top hmem => exact .top (List.mem_cons_of_mem _ hmem)
      | inside hmem hlies => exact .inside (List.mem_cons_of_mem _ hmem) hlies

theorem mem_occurrences {above es : List Entry} {o : Occurrence} :
    o ∈ occurrences above es ↔ ∃ rest, o.above = above ++ rest ∧ Lies es rest o.entry := by
  induction es using forest_induction generalizing above with
  | nil =>
    rw [occurrences]
    exact ⟨nofun, fun ⟨_, _, hlies⟩ => absurd hlies lies_nil⟩
  | cons h below after ihBelow ihAfter =>
    rw [occurrences, List.mem_cons, List.mem_append, ihBelow, ihAfter]
    constructor
    · rintro (rfl | ⟨rest, habove, hlies⟩ | ⟨rest, habove, hlies⟩)
      · exact ⟨[], (List.append_nil above).symm, .top List.mem_cons_self⟩
      · exact ⟨.mk h below :: rest, by rw [habove, List.append_assoc, List.singleton_append],
          .inside List.mem_cons_self hlies⟩
      · exact ⟨rest, habove, lies_cons.mpr (.inr (.inr hlies))⟩
    · rintro ⟨rest, habove, hlies⟩
      rcases lies_cons.mp hlies with ⟨rfl, he⟩ | ⟨deeper, rfl, hbelow⟩ | hafter
      · rw [List.append_nil] at habove
        exact .inl (by rw [← habove, ← he])
      · exact .inr (.inl ⟨deeper, by rw [habove, List.append_assoc, List.singleton_append], hbelow⟩)
      · exact .inr (.inr ⟨rest, habove, hafter⟩)

theorem mem_occurrences_nil {es : List Entry} {o : Occurrence} :
    o ∈ occurrences [] es ↔ Lies es o.above o.entry := by
  rw [mem_occurrences]
  exact ⟨fun ⟨_, habove, hlies⟩ => habove ▸ hlies, fun hlies => ⟨o.above, rfl, hlies⟩⟩

/-! ## sifting -/

mutual

def siftOne (keep : Heading → Bool) : Entry → List Entry
  | .mk h below => if keep h then [.mk h (sift keep below)] else []

/-- The forest without the entries whose headings are not to be kept, and without all below them. -/
def sift (keep : Heading → Bool) : List Entry → List Entry
  | [] => []
  | e :: after => siftOne keep e ++ sift keep after

end

theorem sift_nil (keep : Heading → Bool) : sift keep [] = [] := by rw [sift]

theorem sift_cons (keep : Heading → Bool) (h : Heading) (below after : List Entry) :
    sift keep (.mk h below :: after) =
      if keep h then .mk h (sift keep below) :: sift keep after else sift keep after := by
  rw [sift, siftOne]
  split
  · rfl
  · rfl

theorem sift_kept {keep : Heading → Bool} {h : Heading} (hkeep : keep h = true)
    (below after : List Entry) :
    sift keep (.mk h below :: after) = .mk h (sift keep below) :: sift keep after := by
  rw [sift_cons, if_pos hkeep]

theorem prune_eq_sift (wanted : String → Bool) (es : List Entry) :
    prune wanted es = sift (fun h => wanted h.id) es := by
  induction es using forest_induction with
  | nil => rw [prune, sift_nil]
  | cons h below after ihBelow ihAfter =>
    rw [prune, pruneOne, sift_cons, ihBelow, ihAfter]
    split
    · rfl
    · rfl

theorem sift_append (keep : Heading → Bool) (es fs : List Entry) :
    sift keep (es ++ fs) = sift keep es ++ sift keep fs := by
  induction es with
  | nil => rw [sift_nil, List.nil_append, List.nil_append]
  | cons e es ih => rw [List.cons_append, sift, sift, ih, List.append_assoc]

theorem sift_sift (keep keep' : Heading → Bool) (es : List Entry) :
    sift keep' (sift keep es) = sift (fun h => keep h && keep' h) es := by
  induction es using forest_induction with
  | nil => rw [sift_nil, sift_nil, sift_nil]
  | cons h below after ihBelow ihAfter =>
    rw [sift_cons, sift_cons]
    by_cases hkeep : keep h = true
    · rw [if_pos hkeep, sift_cons, ihBelow, ihAfter, hkeep, Bool.true_and]
    · rw [if_neg hkeep, if_neg (by simp [hkeep]), ihAfter]

def Occurrence.isKept (keep : Heading → Bool) (o : Occurrence) : Bool :=
  o.lineage.all fun e => keep e.heading

theorem filter_occurrences_below {keep : Heading → Bool} {above es : List Entry} {a : Entry}
    (ha : a ∈ above) (hgoes : keep a.heading = false) :
    (occurrences above es).filter (·.isKept keep) = [] := by
  rw [List.filter_eq_nil_iff]
  intro o ho hkept
  obtain ⟨rest, habove, _⟩ := mem_occurrences.mp ho
  have hmem : a ∈ o.lineage := by simp [Occurrence.lineage, habove, ha]
  rw [Occurrence.isKept, List.all_eq_true] at hkept
  exact absurd (hkept a hmem) (by simp [hgoes])

/-- Below entries that stay, the headings that are left are those of the entries that have to stay.
-/
theorem flatten_sift (keep : Heading → Bool) (es : List Entry) {above : List Entry}
    (habove : ∀ a ∈ above, keep a.heading = true) :
    (flatten (sift keep es)).map heading = ((occurrences above es).filter (·.isKept keep)).map
      (·.entry.heading) := by
  induction es using forest_induction generalizing above with
  | nil => rw [sift_nil, occurrences, flatten, List.filter_nil, List.map_nil, List.map_nil]
  | cons h below after ihBelow ihAfter =>
    rw [sift_cons, occurrences]
    by_cases hkeep : keep h = true
    · have hlineage : ∀ a ∈ above ++ [.mk h below], keep a.heading = true :=
        List.forall_mem_append.mpr ⟨habove, List.forall_mem_singleton.mpr hkeep⟩
      have hkept : Occurrence.isKept keep ⟨above, .mk h below⟩ = true :=
        List.all_eq_true.mpr hlineage
      rw [if_pos hkeep, flatten_cons, List.map_cons, List.map_append, ihBelow hlineage,
        ihAfter habove, List.filter_cons_of_pos hkept, List.filter_append, List.map_cons,
        List.map_append]
      rfl
    · have hgoes : keep (mk h below).heading = false := Bool.eq_false_iff.mpr hkeep
      have hself : mk h below ∈ above ++ [.mk h below] := by simp
      have hlost : ¬ Occurrence.isKept keep ⟨above, .mk h below⟩ = true := by
        intro hkept
        rw [List.all_eq_true.mp hkept _ hself] at hgoes
        cases hgoes
      rw [if_neg hkeep, ihAfter habove, List.filter_cons_of_neg hlost, List.filter_append,
        filter_occurrences_below hself hgoes, List.nil_append]

/-! ## choices -/

theorem isWanted_iff {choices : List (String × Bool)} {id : String} :
    isWanted choices id = true ↔ Ordered.get? choices id ≠ some false := by
  show (Ordered.get? choices id).getD true = true ↔ _
  cases Ordered.get? choices id with
  | none => simp
  | some b => simp

/-- **Pruning.** What is left of a forest, in its order, are the entries at their places for which
no choice says no, neither for themselves nor for an entry that they lie in.  Pruned again by the
same choices the forest stays, and pruned by other choices it is what it is when pruned by all of
them at once. -/
theorem pruned_by_choices (es : List Entry) (choices : List (String × Bool)) :
    (occurrences [] es).map (·.entry) = flatten es ∧
    (∀ o, o ∈ occurrences [] es ↔ Lies es o.above o.entry) ∧
    (flatten (prune (isWanted choices) es)).map heading =
      ((occurrences [] es).filter fun o =>
        ∀ a ∈ o.lineage, Ordered.get? choices a.id ≠ some false).map (·.entry.heading) ∧
    prune (isWanted choices) (prune (isWanted choices) es) = prune (isWanted choices) es ∧
    ∀ more both : List (String × Bool),
      (∀ id, Ordered.get? both id = some false ↔
        Ordered.get? choices id = some false ∨ Ordered.get? more id = some false) →
      prune (isWanted more) (prune (isWanted choices) es) = prune (isWanted both) es := by
  have htwice (first second : String → Bool) :
      prune second (prune first es) = prune (fun id => first id && second id) es := by
    rw [prune_eq_sift, prune_eq_sift, prune_eq_sift, sift_sift]
  refine ⟨map_occurrences [] es, fun _ => mem_occurrences_nil, ?_, ?_, fun more both hboth => ?_⟩
  · rw [prune_eq_sift, flatten_sift _ es (List.forall_mem_nil _)]
    refine congrArg (List.map _) (List.filter_congr fun o _ => ?_)
    rw [Bool.eq_iff_iff, Occurrence.isKept, List.all_eq_true, decide_eq_true_iff]
    exact forall₂_congr fun a _ => isWanted_iff
  · rw [htwice]
    simp only [Bool.and_self]
  · have hsame : (fun id => isWanted choices id && isWanted more id) = isWanted both := by
      funext id
      rw [Bool.eq_iff_iff, Bool.and_eq_true, isWanted_iff, isWanted_iff, isWanted_iff, Ne, Ne, Ne,
        hboth, not_or]
    rw [htwice, hsame]

/-- an entry of which only the id matters -/
def named (id : String) (below : List Entry) : Entry :=
  .mk ⟨id, id, .function, 0, "m.py", 1, none⟩ below

/-- a forest in which ids come again, beside and below one another -/
def thicket : List Entry :=
  [named "m" [named "c" [named "f" [], named "c" []], named "f" []],
    named "f" [named "c" [], named "m" []]]

/-- Without `c` there is an `f` left below `m` and one beside it, and without `f` there is none. -/
theorem thicket_pruned :
    (∀ id, Ordered.get? [("f", false), ("m", true), ("c", false)] id = some false ↔
      Ordered.get? [("c", false)] id = some false ∨ Ordered.get? [("m", true), ("f", false)] id =
        some false) ∧
    (flatten (prune (isWanted [("c", false)]) thicket)).map (·.id) = ["m", "f", "f", "m"] ∧
    prune (isWanted [("m", true), ("f", false)]) (prune (isWanted [("c", false)]) thicket) =
      prune (isWanted [("f", false), ("m", true), ("c", false)]) thicket := by
  have hboth (id : String) :
      Ordered.get? [("f", false), ("m", true), ("c", false)] id = some false ↔
        Ordered.get? [("c", false)] id = some false ∨
          Ordered.get? [("m", true), ("f", false)] id = some false := by
    by_cases hc : "c" = id
    · subst hc
      decide
    · by_cases hf : "f" = id
      · subst hf
        decide
      · by_cases hm : "m" = id
        · subst hm
          decide
        · simp [Ordered.get?, hc, hf, hm]
  exact ⟨hboth, by decide, (pruned_by_choices thicket [("c", false)]).2.2.2.2 _ _ hboth⟩

end Entry

end Apidoc
