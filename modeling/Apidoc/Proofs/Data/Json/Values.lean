import Apidoc.Data.Json.Reader
import Apidoc.Proofs.Result

/-!
# Values that have a form in JSON

* `Json.Writable`              values without dates, bytes and sets, whose keys can be written;
* `Json.complete_write`        nothing is left out when they are written;
* `Json.writable_of_parse`     whatever is read can be written;
* `Json.Writable.overlay`      so can two maps, one laid over the other.
-/

namespace Apidoc.Json

/-- Values that have a form in JSON, numbers and maps of any kind among them. -/
inductive Writable : Data → Prop
  | null : Writable .null
  | bool (b : Bool) : Writable (.bool b)
  | int (n : Int) : Writable (.int n)
  | float (x : Binary64) : Writable (.float x)
  | str (s : String) : Writable (.str s)
  | list {xs : List Data} (h : ∀ x ∈ xs, Writable x) : Writable (.list xs)
  | map {ps : List (Data × Data)} (hkeys : ∀ p ∈ ps, (keyText? p.1).isSome)
      (h : ∀ p ∈ ps, Writable p.2) :
      Writable (.map ps)

/-! ## writing -/

theorem complete_andThen {a b : Written} (ha : a.complete = true) (hb : b.complete = true) :
    (a.andThen b).complete = true := by
  rw [Written.andThen, if_pos ha]
  exact hb

theorem complete_writeItems {xs : List Data} {level : Nat}
    (h : ∀ x ∈ xs, (write level x).complete = true) (first : Bool) :
    (writeItems level first xs).complete = true := by
  induction xs generalizing first with
  | nil => rfl
  | cons x xs ih =>
    rw [List.forall_mem_cons] at h
    rw [writeItems]
    exact complete_andThen rfl (complete_andThen h.1 (ih h.2 false))

theorem complete_writePairs {ps : List (Data × Data)} {level : Nat}
    (hkeys : ∀ p ∈ ps, (keyText? p.1).isSome) (h : ∀ p ∈ ps, (write level p.2).complete = true)
    (first : Bool) : (writePairs level first ps).complete = true := by
  induction ps generalizing first with
  | nil => rfl
  | cons p ps ih =>
    rw [List.forall_mem_cons] at h hkeys
    obtain ⟨k, hk⟩ := Option.isSome_iff_exists.mp hkeys.1
    rw [writePairs, hk]
    exact complete_andThen rfl (complete_andThen h.1 (ih hkeys.2 h.2 false))

theorem complete_write {v : Data} (h : Writable v) (level : Nat) :
    (write level v).complete = true := by
  induction h generalizing level with
  | null => rfl
  | bool b => rfl
  | int n => rfl
  | float x => rfl
  | str s => rfl
  | @list xs h ih =>
    rw [write]
    split
    · rfl
    · exact complete_andThen rfl
        (complete_andThen (complete_writeItems (fun x hx => ih x hx _) true) rfl)
  | @map ps hkeys h ih =>
    rw [write]
    split
    · rfl
    · exact complete_andThen rfl
        (complete_andThen (complete_writePairs hkeys (fun p hp => ih p hp _) true) rfl)

/-! ## maps -/

def WritablePair (p : Data × Data) : Prop := (keyText? p.1).isSome ∧ Writable p.2

theorem Writable.of_pairs {ps : List (Data × Data)} (h : ∀ p ∈ ps, WritablePair p) :
    Writable (.map ps) :=
  .map (fun p hp => (h p hp).1) fun p hp => (h p hp).2

theorem Writable.pairs {ps : List (Data × Data)} (h : Writable (.map ps)) :
    ∀ p ∈ ps, WritablePair p := by
  cases h with
  | map hkeys h => exact fun p hp => ⟨hkeys p hp, h p hp⟩

theorem writablePair_set {ps : List (Data × Data)} (h : ∀ p ∈ ps, WritablePair p) {k v : Data}
    (hnew : WritablePair (k, v)) : ∀ p ∈ Ordered.set ps k v, WritablePair p := by
  induction ps with
  | nil =>
    intro p hp
    rw [List.mem_singleton.mp hp]
    exact hnew
  | cons q ps ih =>
    rw [List.forall_mem_cons] at h
    rw [Ordered.set]
    split
    · rw [List.forall_mem_cons]
      exact ⟨⟨h.1.1, hnew.2⟩, h.2⟩
    · rw [List.forall_mem_cons]
      exact ⟨h.1, ih h.2⟩

theorem Writable.overlay {old new : List (Data × Data)} (hold : Writable (.map old))
    (hnew : Writable (.map new)) : Writable (.map (Ordered.overlay old new)) := by
  have hpairs := hnew.pairs
  clear hnew
  induction new generalizing old with
  | nil => exact hold
  | cons p new ih =>
    rw [List.forall_mem_cons] at hpairs
    exact ih (.of_pairs (writablePair_set hold.pairs hpairs.1)) hpairs.2

theorem Writable.get? {ps : List (Data × Data)} (h : Writable (.map ps)) {k v : Data}
    (hv : Ordered.get? ps k = some v) : Writable v := by
  obtain ⟨p, hp, rfl⟩ := Option.map_eq_some_iff.mp hv
  exact (h.pairs p (List.mem_of_find?_eq_some hp)).2

/-! ## reading -/

theorem number_of_readNumber {cs rest : List Char} {v : Data} (h : readNumber cs = .ok (v, rest)) :
    (∃ n, v = .int n) ∨ ∃ x, v = .float x := by
  unfold readNumber at h
  split at h
  dsimp only at h
  generalize fractionDigits _ = fraction at h
  generalize (if fraction.isEmpty then _ else _) = rest' at h
  split at h
  · cases h
  · split at h
    · split at h
      · cases h
      · cases h
        exact .inl ⟨_, rfl⟩
    · cases h
      exact .inr ⟨_, rfl⟩

theorem writable_readNumber {cs rest : List Char} {v : Data} (h : readNumber cs = .ok (v, rest)) :
    Writable v := by
  rcases number_of_readNumber h with ⟨n, rfl⟩ | ⟨x, rfl⟩
  · exact .int n
  · exact .float x

theorem writable_readLiteral {cs rest : List Char} {v : Data}
    (h : readLiteral cs = some (v, rest)) : Writable v := by
  have hliterals : ∀ l ∈ literals, Writable l.2 := by
    simp only [literals, List.forall_mem_cons]
    exact ⟨.null, .bool _, .bool _, .float _, .float _, .float _, List.forall_mem_nil _⟩
  obtain ⟨l, hl, h⟩ := List.exists_of_findSome?_eq_some h
  obtain ⟨_, _, h⟩ := Option.map_eq_some_iff.mp h
  cases h
  exact hliterals l hl

structure ReadsWritable (n : Nat) : Prop where
  value : ∀ {cs rest v}, readValue n cs = .ok (v, rest) → Writable v
  items : ∀ {cs rest xs}, readItems n cs = .ok (xs, rest) → ∀ x ∈ xs, Writable x
  pairs : ∀ {done cs rest ps}, readPairs n done cs = .ok (ps, rest) → (∀ p ∈ done, WritablePair p) →
    ∀ p ∈ ps, WritablePair p

theorem ReadsWritable.zero : ReadsWritable 0 := ⟨nofun, nofun, nofun⟩

theorem ReadsWritable.value_succ {n : Nat} (ih : ReadsWritable n) {cs rest : List Char} {v : Data}
    (h : readValue (n + 1) cs = .ok (v, rest)) : Writable v := by
  rw [readValue.eq_def] at h
  dsimp only at h
  split at h
  · obtain ⟨p, _, h⟩ := bind_eq_ok.mp h
    cases h
    exact .str _
  · split at h
    · cases h
      exact .list (List.forall_mem_nil _)
    · obtain ⟨p, hp, h⟩ := bind_eq_ok.mp h
      cases h
      exact .list (ih.items hp)
  · split at h
    · cases h
      exact .of_pairs (List.forall_mem_nil _)
    · obtain ⟨p, hp, h⟩ := bind_eq_ok.mp h
      cases h
      exact .of_pairs (ih.pairs hp (List.forall_mem_nil _))
  · split at h
    · cases h
      exact writable_readLiteral ‹_›
    · exact writable_readNumber h

theorem ReadsWritable.items_succ {n : Nat} (ih : ReadsWritable n) {cs rest : List Char}
    {xs : List Data} (h : readItems (n + 1) cs = .ok (xs, rest)) : ∀ x ∈ xs, Writable x := by
  rw [readItems] at h
  obtain ⟨p, hp, h⟩ := bind_eq_ok.mp h
  have hfirst := ih.value hp
  dsimp only at h
  split at h
  · cases h
    exact List.forall_mem_singleton.mpr hfirst
  · obtain ⟨q, hq, h⟩ := bind_eq_ok.mp h
    cases h
    exact List.forall_mem_cons.mpr ⟨hfirst, ih.items hq⟩
  · cases h

theorem ReadsWritable.pairs_succ {n : Nat} (ih : ReadsWritable n) {done ps : List (Data × Data)}
    {cs rest : List Char} (h : readPairs (n + 1) done cs = .ok (ps, rest))
    (hdone : ∀ p ∈ done, WritablePair p) : ∀ p ∈ ps, WritablePair p := by
  rw [readPairs.eq_def] at h
  dsimp only at h
  split at h
  · obtain ⟨k, _, h⟩ := bind_eq_ok.mp h
    split at h
    · obtain ⟨q, hq, h⟩ := bind_eq_ok.mp h
      have hset := writablePair_set hdone (k := .str k.1) ⟨rfl, ih.value hq⟩
      split at h
      · cases h
        exact hset
      · exact ih.pairs h hset
      · cases h
    · cases h
  · cases h

theorem readsWritable (n : Nat) : ReadsWritable n := by
  induction n with
  | zero => exact .zero
  | succ n ih => exact ⟨ih.value_succ, ih.items_succ, ih.pairs_succ⟩

theorem writable_of_parse {s : String} {v : Data} (h : parse s = .ok v) : Writable v := by
  obtain ⟨p, hp, h⟩ := bind_eq_ok.mp h
  dsimp only at h
  split at h
  · cases h
    exact (readsWritable _).value hp
  · cases h

end Apidoc.Json
