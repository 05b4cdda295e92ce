import Apidoc.Text.Normal

/-!
# No hyphen in a normal form

The normal form of a text without a hyphen has none either: nothing decomposes into a character
before the digit zero but such a character itself, and what is composed again lies beyond ASCII.

* `mem_compose`                what composing gives was there before, or composes from two others;
* `hyphen_not_mem_normalize`   so no hyphen is made.
-/

/-- Ranges that are written out are read without decoding the text. -/
theorem Apidoc.Text.Ranges.ofText_ofList (l : List Char) :
    ofText (String.ofList l) = readFrom 0 (words l) := by
  rw [ofText, String.toList_ofList]

namespace Apidoc.Text.Normal

def hyphen : Nat := '-'.toNat

/-! ## decomposing -/

theorem le_of_mem_readImage {base n : Nat} {w : List Char} (h : n ∈ readImage base w) :
    base ≤ n := by
  obtain ⟨v, -, rfl⟩ := List.mem_map.1 h
  exact Nat.le_add_right _ _

theorem le_of_mem_readEntries {base next : Nat} {ws : List (List Char)} {e : Entry}
    (h : e ∈ readEntries base next ws) : ∀ n ∈ e.image, base ≤ n := by
  induction ws generalizing next with
  | nil => cases h
  | cons w ws ih =>
    rcases List.mem_cons.1 h with rfl | h
    · intro n hn
      unfold readEntry at hn
      split at hn
      · exact le_of_mem_readImage hn
      · exact le_of_mem_readImage hn
      · cases hn
    · exact ih h

theorem hyphen_not_mem_decompose {n : Nat} (h : n ≠ hyphen) : hyphen ∉ decompose n := by
  have hself : hyphen ∉ [n] := fun hmem => h (List.mem_singleton.1 hmem).symm
  have hzero : hyphen < '0'.toNat := by decide
  unfold decompose
  split
  · exact hself
  · split
    · -- the letters that make up a syllable lie beyond ASCII
      have hletter : hyphen < 0x1100 := by decide
      generalize n - 0xac00 = s
      dsimp only
      split <;> simp only [List.append_nil, List.cons_append, List.nil_append, List.mem_cons,
        List.not_mem_nil, or_false] <;>
        omega
    · rw [lookup]
      cases hfind : decompositionTable.find? fun e => e.lo ≤ n && n ≤ e.hi with
      | none => exact hself
      | some e =>
        have hle := le_of_mem_readEntries (List.mem_of_find?_eq_some hfind)
        dsimp only [Option.map_some, Option.getD_some]
        split
        · exact fun hmem => absurd (hle _ hmem) (Nat.not_le.2 hzero)
        · intro hmem
          obtain ⟨m, hm, heq⟩ := List.mem_map.1 hmem
          have := hle m hm
          omega

/-! ## composing -/

/-- The composed characters come after all of ASCII. -/
theorem hyphen_lt_composites : ∀ p ∈ Ranges.ofText Table.composites, hyphen < p.1 := by
  have hall : (Ranges.ofText Table.composites).all (fun p => decide (hyphen < p.1)) = true := by
    unfold Table.composites
    rw [Ranges.ofText_ofList]
    decide +kernel
  exact fun p hp => of_decide_eq_true (List.all_eq_true.1 hall p hp)

theorem composePair_ne_hyphen (a b : Nat) : composePair a b ≠ some hyphen := by
  have hletter : hyphen < 0xac00 := by decide
  intro h
  unfold composePair at h
  split at h
  · have := Option.some.inj h
    omega
  · split at h
    · have := Option.some.inj h
      omega
    · obtain ⟨e, he, heq⟩ := Option.map_eq_some_iff.1 h
      obtain ⟨p, hp, hpair⟩ := List.mem_filterMap.1 (List.mem_of_find?_eq_some he)
      have hsame : e.2 = p.1 := by
        split at hpair
        · rw [← Option.some.inj hpair]
        · obtain ⟨q, -, rfl⟩ := Option.map_eq_some_iff.1 hpair
          rfl
        · cases hpair
      obtain ⟨range, hrange, hmap⟩ := List.mem_flatMap.1 hp
      obtain ⟨n, hn, rfl⟩ := List.mem_map.1 hmap
      have hlt := hyphen_lt_composites range hrange
      have hle := (List.mem_range'_1.1 hn).1
      omega

theorem mem_insertMark {m n : Nat} {xs : List Nat} (h : n ∈ insertMark m xs) : n = m ∨ n ∈ xs := by
  induction xs with
  | nil => exact .inl (List.mem_singleton.1 h)
  | cons x xs ih =>
    rw [insertMark] at h
    split at h
    · exact List.mem_cons.1 h
    · rcases List.mem_cons.1 h with rfl | h
      · exact .inr List.mem_cons_self
      · exact (ih h).imp_right (List.mem_cons_of_mem _)

theorem mem_reorder {n : Nat} {marks ns : List Nat} (h : n ∈ reorder marks ns) :
    n ∈ marks ∨ n ∈ ns := by
  induction ns generalizing marks with
  | nil => exact .inl h
  | cons m ns ih =>
    rw [reorder] at h
    split at h
    · rcases List.mem_append.1 h with h | h
      · exact .inl h
      · rcases List.mem_cons.1 h with rfl | h
        · exact .inr List.mem_cons_self
        · exact .inr (List.mem_cons_of_mem _ ((ih h).resolve_left List.not_mem_nil))
    · rcases ih h with h | h
      · rcases mem_insertMark h with rfl | h
        · exact .inr List.mem_cons_self
        · exact .inl h
      · exact .inr (List.mem_cons_of_mem _ h)

/-- What composing gives was there before, or composes from two others. -/
theorem mem_compose {n : Nat} {base : Option Nat} {marks ns : List Nat}
    (h : n ∈ compose base marks ns) :
    base = some n ∨ n ∈ marks ∨ n ∈ ns ∨ ∃ a b, composePair a b = some n := by
  fun_induction compose base marks ns <;> grind

theorem hyphen_of_ofNat {n : Nat} (h : Char.ofNat n = '-') : n = hyphen := by
  by_cases hvalid : n.isValidChar
  · have hsame : Char.ofNat n = Char.ofNatAux n hvalid := dif_pos hvalid
    exact congrArg Char.toNat (hsame.symm.trans h)
  · -- what is no character becomes the null character
    have hnull : Char.ofNat n = '\x00' := dif_neg hvalid
    cases hnull.symm.trans h

/-- **no hyphen is made** -/
theorem hyphen_not_mem_normalize {s : String} (h : '-' ∉ s.toList) :
    '-' ∉ (normalize s).toList := by
  unfold normalize
  split
  · exact h
  · rw [String.toList_ofList]
    intro hmem
    obtain ⟨n, hn, heq⟩ := List.mem_map.1 hmem
    obtain rfl := hyphen_of_ofNat heq
    rcases mem_compose hn with hbase | hmarks | hn | ⟨a, b, hpair⟩
    · cases hbase
    · cases hmarks
    · obtain ⟨c, hc, hdecomposed⟩ :=
        List.mem_flatMap.1 ((mem_reorder hn).resolve_left List.not_mem_nil)
      refine hyphen_not_mem_decompose (fun hsame => h ?_) hdecomposed
      rwa [← Char.toNat_inj.1 hsame]
    · exact composePair_ne_hyphen a b hpair

end Apidoc.Text.Normal
