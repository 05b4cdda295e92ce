import Apidoc.Text.Lines
import Apidoc.Text.Quoted
import Mathlib.Algebra.Group.Nat.Defs
import Mathlib.Data.List.Basic

/-!
# Code points, their digits, and line ends

* `Text.hexNat_hexText`    a number is read back from its hexadecimal digits;
* `Text.ofPoints_points`   a text is read back from its code points;
* `Text.unifyNewlines_eq_self`   a text without carriage returns has the line ends of a text that is
                                 read.
-/

namespace Apidoc

namespace Text

/-! ## hexadecimal digits -/

theorem hexNat_concat (ds : List Char) (d : Char) :
    hexNat (ds ++ [d]) = 16 * hexNat ds + (hexValue? d).getD 0 := by
  rw [hexNat, List.foldl_append]
  rfl

theorem hexValue?_digitChar : ∀ n < 16, hexValue? n.digitChar = some n := by decide

theorem hexNat_toDigits (n : Nat) : hexNat (Nat.toDigits 16 n) = n := by
  induction n using Nat.strongRecOn with
  | ind n ih =>
    by_cases h : n < 16
    · rw [Nat.toDigits_of_lt_base h]
      show 16 * 0 + (hexValue? n.digitChar).getD 0 = n
      rw [hexValue?_digitChar n h]
      exact Nat.zero_add n
    · have hdiv : n / 16 < n := by omega
      rw [Nat.toDigits_of_base_le (by omega) (by omega), hexNat_concat, ih _ hdiv,
        hexValue?_digitChar _ (Nat.mod_lt n (by omega)), Option.getD_some]
      omega

theorem digit_of_mem_toDigits {n : Nat} {d : Char} (h : d ∈ Nat.toDigits 16 n) :
    ∃ m < 16, d = m.digitChar := by
  induction n using Nat.strongRecOn with
  | ind n ih =>
    by_cases hn : n < 16
    · rw [Nat.toDigits_of_lt_base hn, List.mem_singleton] at h
      exact ⟨n, hn, h⟩
    · have hdiv : n / 16 < n := by omega
      rw [Nat.toDigits_of_base_le (by omega) (by omega), List.mem_append, List.mem_singleton] at h
      rcases h with h | h
      · exact ih _ hdiv h
      · exact ⟨n % 16, Nat.mod_lt n (by omega), h⟩

theorem hexNat_replicate (k : Nat) (ds : List Char) :
    hexNat (List.replicate k '0' ++ ds) = hexNat ds := by
  induction k with
  | zero => rfl
  | succ k ih =>
    rw [List.replicate_succ, List.cons_append]
    exact ih

/-- A number is read back from its digits, with zeros before them. -/
theorem hexNat_hexText (width n : Nat) : hexNat (hexText width n) = n := by
  rw [hexText, hexNat_replicate, hexNat_toDigits]

theorem length_hexText {width n : Nat} (hwidth : 0 < width) (h : n < 16 ^ width) :
    (hexText width n).length = width := by
  have hlength : (Nat.toDigits 16 n).length ≤ width :=
    (Nat.length_toDigits_le_iff (by omega) hwidth).mpr h
  rw [hexText, List.length_append, List.length_replicate]
  omega

theorem digit_of_mem_hexText {width n : Nat} {d : Char} (h : d ∈ hexText width n) :
    ∃ m < 16, d = m.digitChar := by
  rw [hexText, List.mem_append] at h
  rcases h with h | h
  · exact ⟨0, by decide, List.eq_of_mem_replicate h⟩
  · exact digit_of_mem_toDigits h

theorem all_hexText (width n : Nat) :
    (hexText width n).all (fun c => (hexValue? c).isSome) = true := by
  rw [List.all_eq_true]
  intro d hd
  obtain ⟨m, hm, rfl⟩ := digit_of_mem_hexText hd
  rw [hexValue?_digitChar m hm]
  rfl

/-- Digits keep their values if they are written in another way. -/
theorem hexNat_map {f : Char → Char} {ds : List Char}
    (h : ∀ d ∈ ds, hexValue? (f d) = hexValue? d) : hexNat (ds.map f) = hexNat ds := by
  rw [hexNat, hexNat, List.foldl_map]
  exact List.foldl_ext _ _ _ fun n d hd => by rw [h d hd]

/-! ## code points -/

theorem not_unit (c : Char) : isHighUnit c.toNat = false ∧ isLowUnit c.toNat = false := by
  have hvalid := c.valid
  have hnat : c.toNat = c.val.toNat := rfl
  simp only [UInt32.isValidChar, Nat.isValidChar] at hvalid
  simp only [isHighUnit, isLowUnit, Bool.and_eq_false_iff, decide_eq_false_iff_not]
  omega

theorem joinPairs_points (cs : List Char) : joinPairs (points cs) = points cs := by
  induction cs with
  | nil => rfl
  | cons c cs ih =>
    cases cs with
    | nil => rfl
    | cons c' cs =>
      show (if isHighUnit c.toNat && isLowUnit c'.toNat then _ else c.toNat ::
        joinPairs (points (c' :: cs))) = _
      rw [(not_unit c).1, ih]
      rfl

theorem ofPoints_points (cs : List Char) : ofPoints (points cs) = cs := by
  rw [ofPoints, joinPairs_points, points, List.map_map]
  refine (List.map_congr_left fun c _ => ?_).trans (List.map_id cs)
  have hvalid : c.toNat.isValidChar := c.valid
  show (if c.toNat.isValidChar then Char.ofNat c.toNat else _) = c
  rw [if_pos hvalid, Char.ofNat_toNat]

/-! ## line ends -/

theorem unifyNewlines_eq_self {cs : List Char} (h : '\r' ∉ cs) : unifyNewlines cs = cs := by
  induction cs with
  | nil => rfl
  | cons x cs ih =>
    rw [List.mem_cons, not_or] at h
    have hx : x ≠ '\r' := fun e => h.1 e.symm
    rw [unifyNewlines.eq_4 _ _ (fun _ e _ => hx e) hx, ih h.2]

end Text

end Apidoc
