import Apidoc.Proofs.Data.Yaml.Numeral

/-!
# Whole numbers without quotes

A whole number is written in decimal digits, and is read back as the number.

* `Decimal`            digits without a zero in front of others, and `decimal_toDigits`, those of a
                       number;
* `ofPlain_toString`   a number is taken for one;
* `intValue_toString`  the number that it is taken for, if it does not have too many digits.
-/

namespace Apidoc.Yaml

variable {ds : List Char}

/-- Decimal digits, without a zero in front of others. -/
structure Decimal (ds : List Char) : Prop where
  nonempty : ds ≠ []
  digits : ∀ c ∈ ds, c ∈ "0123456789".toList
  zero : ds.head? = some '0' → ds = ['0']

theorem decimal_toDigits (n : Nat) : Decimal (Nat.toDigits 10 n) := by
  have hdigit : ∀ d < 10, Nat.digitChar d ∈ "0123456789".toList := by decide
  induction n using Nat.strongRecOn with
  | ind n ih =>
    by_cases hn : n < 10
    · rw [Nat.toDigits_of_lt_base hn]
      exact ⟨List.cons_ne_nil _ _, by simpa using hdigit n hn, by simp⟩
    · have hmore := ih (n / 10) (by omega)
      rw [Nat.toDigits_of_base_le (by decide) (by omega)]
      refine ⟨by simp, List.forall_mem_append.mpr ⟨hmore.digits, ?_⟩, fun h => ?_⟩
      · simpa using hdigit (n % 10) (Nat.mod_lt _ (by decide))
      · rw [List.head?_append_of_ne_nil _ hmore.nonempty] at h
        have hzero : 0 = n / 10 := by
          rw [← Nat.ofDigitChars_ten_toDigits (n := n / 10), hmore.zero h]
          rfl
        omega

def sign (n : Int) : List Char := if n < 0 then ['-'] else []

theorem toList_toString (n : Int) : (toString n).toList = sign n ++ Nat.toDigits 10 n.natAbs := by
  cases n with
  | ofNat m => exact Nat.toList_repr
  | negSucc m =>
    have hrepr : (toString (Int.negSucc m)).toList = '-' :: (Nat.repr (m + 1)).toList :=
      String.toList_append
    rw [hrepr, Nat.toList_repr, sign, if_pos (Int.negSucc_lt_zero m)]
    rfl

namespace Decimal

theorem mem_signed (h : Decimal ds) (n : Int) : ∀ c ∈ sign n ++ ds, c ∈ "-0123456789".toList := by
  refine List.forall_mem_append.mpr ⟨fun c hc => ?_, fun c hc => List.mem_cons_of_mem _
    (h.digits c hc)⟩
  rw [sign] at hc
  split at hc
  · rw [List.mem_singleton.mp hc]
    exact List.mem_cons_self
  · cases hc

theorem not_mem (h : Decimal ds) (n : Int) {c : Char}
    (hc : "-0123456789".toList.contains c = false) :
    c ∉ sign n ++ ds := fun hmem => by
  rw [List.contains_iff_mem.mpr (h.mem_signed n c hmem)] at hc
  cases hc

theorem head_cases (h : Decimal ds) : ∃ d ds', ds = d :: ds' ∧ d ∈ "0123456789".toList := by
  obtain ⟨d, ds', rfl⟩ := List.exists_cons_of_ne_nil h.nonempty
  exact ⟨d, ds', rfl, h.digits d List.mem_cons_self⟩

theorem dropSign_signed (h : Decimal ds) (n : Int) : dropSign (sign n ++ ds) = ds := by
  rw [sign]
  split
  · rfl
  · obtain ⟨d, ds, rfl, hd⟩ := h.head_cases
    rw [List.nil_append]
    unfold dropSign
    split
    · rename_i heq
      obtain ⟨rfl, -⟩ := List.cons.inj heq
      exact absurd hd (by decide)
    · rename_i heq
      obtain ⟨rfl, -⟩ := List.cons.inj heq
      exact absurd hd (by decide)
    · rfl

theorem hasSign_signed (h : Decimal ds) (n : Int) : hasSign (sign n ++ ds) = decide (n < 0) := by
  rw [sign, hasSign]
  split
  · rename_i hn
    simp [hn]
  · rename_i hn
    obtain ⟨d, ds, rfl, hd⟩ := h.head_cases
    have hne : d ≠ '-' := fun e => absurd (e ▸ hd) (by decide)
    simp [hn, hne]

theorem isIntForm_signed (h : Decimal ds) (n : Int) : isIntForm (sign n ++ ds) = true := by
  have hbar : ∀ c ∈ "0123456789".toList, c.isDigit = true ∧ isDigitOrBar c = true :=
    forall_of_all (by decide)
  have hdecimal : isDecimalForm ds = true := by
    obtain ⟨d, ds, rfl, hd⟩ := h.head_cases
    by_cases hzero : d = '0'
    · rw [h.zero (by rw [hzero]; rfl)]
      rfl
    · have hdigits := h.digits
      rw [List.forall_mem_cons] at hdigits
      have hall : ds.all isDigitOrBar = true :=
        List.all_eq_true.mpr fun c hc => (hbar c (hdigits.2 c hc)).2
      simp [isDecimalForm, isDigits, (hbar d hd).1, hall, hzero]
  rw [isIntForm, h.dropSign_signed, hdecimal]
  simp

theorem ofPlain_signed (h : Decimal ds) (n : Int) : Tag.ofPlain (sign n ++ ds) = .int := by
  have hword {ws : List String}
    (hws : (ws.all fun w => !w.toList.any "0123456789".toList.contains) = true) :
      isWord ws (sign n ++ ds) = false := by
    obtain ⟨d, ds, rfl, hd⟩ := h.head_cases
    rw [isWord, List.any_eq_false]
    intro w hw heq
    have hnone := List.all_eq_true.mp hws w hw
    rw [beq_iff_eq.mp heq, Bool.not_eq_true', List.any_eq_false] at hnone
    exact hnone d (by simp) (List.contains_iff_mem.mpr hd)
  rw [Tag.ofPlain, hword (by decide), hword (by decide),
    isFloatForm_of_not_mem (h.not_mem n (by decide)), h.isIntForm_signed]
  rfl

theorem bare_signed (h : Decimal ds) (n : Int) : Plain.Bare (sign n ++ ds) where
  nonempty hnil := h.nonempty (List.append_eq_nil_iff.mp hnil).2
  ascii c hc := by
    have hascii : ∀ c ∈ "-0123456789".toList, isAsciiText c = true := forall_of_all (by decide)
    exact hascii c (h.mem_signed n c hc)
  start := ⟨fun hhead => h.not_mem n (c := ' ') (by decide) (List.mem_of_mem_head? hhead),
    fun hhead => h.not_mem n (c := '#') (by decide) (List.mem_of_mem_head? hhead)⟩
  last hlast := h.not_mem n (c := ' ') (by decide) (List.mem_of_getLast? hlast)
  noMark := HexWord.hasMark_eq (h.not_mem n (by decide)) (h.not_mem n (by decide))

theorem startsStructure_signed (h : Decimal ds) (n : Int) :
    startsStructure (sign n ++ ds) = false := by
  have hstart : ∀ c ∈ "0123456789".toList, isIndicator c = false ∧ c ≠ ' ' ∧ c ≠ '?' ∧
    c ≠ '-' ∧ c ≠ '.' :=
    forall_of_all (by decide)
  obtain ⟨d, ds, rfl, hd⟩ := h.head_cases
  obtain ⟨hindicator, hspace, hquestion, hdash, hdot⟩ := hstart d hd
  rw [sign]
  split
  · simp [startsStructure, Text.isPrefix, Text.dropWord?, isIndicator, isSpaceOrEnd, hspace,
      Ne.symm hdash]
  · simp [startsStructure, Text.isPrefix, Text.dropWord?, hindicator, hquestion, hdash,
      Ne.symm hdash, Ne.symm hdot]

theorem intValue_signed (h : Decimal ds) (n : Int) (hshort : ds.length ≤ 4300) :
    intValue (sign n ++ ds) =
      .ok (.int (if n < 0 then -(Nat.ofDigitChars 10 ds 0 : Int) else Nat.ofDigitChars
        10 ds 0)) := by
  have hbar : (sign n ++ ds).filter (· != '_') = sign n ++ ds :=
    List.filter_eq_self.mpr fun c hc => bne_iff_ne.mpr fun e => h.not_mem n (by decide) (e ▸ hc)
  have hne : (sign n ++ ds).isEmpty = false :=
    List.isEmpty_eq_false_iff.mpr (h.bare_signed n).nonempty
  have hnat : natInBase 10 ds ds = .ok (Nat.ofDigitChars 10 ds 0) := by
    have hdigit : ∀ c ∈ "0123456789".toList, c ∈ hexDigits ∧
      (c.isDigit && decide (c.toNat - 48 < 10)) = true :=
      forall_of_all (by decide)
    have hall : (ds.all fun c => c.isDigit && decide (c.toNat - 48 < 10)) = true :=
      List.all_eq_true.mpr fun c hc => (hdigit c (h.digits c hc)).2
    exact HexWord.natInBase_eq (by decide) (fun c hc => (hdigit c (h.digits c hc)).1) h.nonempty
      hshort (if_pos hall)
  have hcolon : ds.contains ':' = false := by
    rw [Bool.eq_false_iff, ne_eq, List.contains_iff_mem]
    exact fun hmem => absurd (h.digits _ hmem) (by decide)
  simp only [intValue, hbar, hne, h.dropSign_signed, h.hasSign_signed, Bool.false_eq_true, if_false,
    decide_eq_true_eq]
  -- a zero in front stands alone, so the digits are not those of another base
  by_cases hzero : ds.head? = some '0'
  · rw [h.zero hzero]
    rfl
  · obtain ⟨d, ds, rfl, _⟩ := h.head_cases
    have hother (es : List Char) : d :: ds ≠ '0' :: es := fun e => hzero (by rw [e]; rfl)
    split
    · rename_i heq
      exact absurd heq (hother _)
    · rename_i heq
      exact absurd heq (hother _)
    · rename_i heq
      exact absurd heq (hother _)
    · rename_i heq
      exact absurd heq (hother _)
    · rename_i heq
      cases heq
    · rw [hcolon, if_neg (by decide), hnat]
      rfl

end Decimal

theorem ofPlain_toString (n : Int) : Tag.ofPlain (toString n).toList = .int := by
  rw [toList_toString]
  exact (decimal_toDigits _).ofPlain_signed n

theorem intValue_toString (n : Int) (h : (Nat.toDigits 10 n.natAbs).length ≤ 4300) :
    intValue (toString n).toList = .ok (.int n) := by
  rw [toList_toString, (decimal_toDigits _).intValue_signed n h, Nat.ofDigitChars_ten_toDigits]
  congr 2
  split
  · omega
  · omega

end Apidoc.Yaml
